import Sitewright.Proofs.Build.Cached
import Sitewright.Proofs.Model.Answer
import Sitewright.Proofs.Plan.Format

namespace Sitewright

variable {files before after : Files} {path : Path} {settings : Settings} {plan : Plan}
  {question : Question} {calls : List ToolCall}

namespace Files

/-- Whether a file is still there, and is newer if it is not the same. -/
def Ages (path : Path) (before after : Files) : Prop :=
  ∀ old, before.get? path = some old →
    ∃ new, after.get? path = some new ∧ (new = old ∨ old.modified < new.modified)

theorem Ages.refl (path : Path) (files : Files) : Ages path files files :=
  fun old h => ⟨old, h, .inl rfl⟩

theorem Ages.trans {third : Files} (h : Ages path before after) (h' : Ages path after third) :
    Ages path before third := by
  intro old hold
  obtain ⟨new, hnew, hage⟩ := h old hold
  obtain ⟨last, hlast, hage'⟩ := h' new hnew
  refine ⟨last, hlast, ?_⟩
  obtain rfl | hlt := hage
  · exact hage'
  · obtain rfl | hlt' := hage'
    · exact .inr hlt
    · exact .inr (Int.lt_trans hlt hlt')

end Files

/-- What others may do to a project: the source changes only into a newer one, the kept plan is at
most thrown away, and anything becomes of the rest. -/
structure Settings.Allows (settings : Settings) (before after : Files) : Prop where
  source : Files.Ages settings.source before after
  cache : after.get? settings.cache = before.get? settings.cache ∨
    after.get? settings.cache = none

theorem Settings.Allows.trans {third : Files} (h : settings.Allows before after)
    (h' : settings.Allows after third) : settings.Allows before third where
  source := h.source.trans h'.source
  cache := by
    obtain hc' | hc' := h'.cache
    · rw [hc']
      exact h.cache
    · exact .inr hc'

namespace Plan

theorem load_congr {room : Nat} (h : after.get? path = files.get? path) :
    load room path after = load room path files := by
  cases hf : files.get? path with
  | none => rw [load_of_missing hf, load_of_missing (h.trans hf)]
  | some entry =>
    have hread : readFile room path after = readFile room path files := by
      rw [readFile, readFile, Files.readJson, Files.readJson, Files.readText_congr hf (h.trans hf)]
    rw [load, load, h, hread]

/-- A plan that is found was there before. -/
theorem Found.of_allows {room : Nat} (h : Found room settings.cache after plan)
    (ha : settings.Allows before after) : Found room settings.cache before plan := by
  obtain ⟨events, hload⟩ := h
  obtain hc | hc := ha.cache
  · exact ⟨events, load_congr hc ▸ hload⟩
  · rw [load_of_missing hc] at hload
    cases hload

theorem Found.exists_file {room : Nat} (h : Found room path files plan) :
    ∃ bytes modified, files.get? path = some (.file bytes modified) := by
  obtain ⟨s, modified, _, hfile, _⟩ := readFile_eq_ok_iff.1 (load_eq_some_iff.1 h)
  exact ⟨_, modified, hfile⟩

variable {platform : Platform} {saved : Saved}

/-- A plan that is found after another was to be kept was there before, or is that other one. -/
theorem Saves.found {room : Nat} {other : Plan} (h : Saves plan platform path files saved)
    (hd : plan.toJson.Distinct) (hf : Found room path saved.files other) :
    Found room path files other ∨ other = plan.restored := by
  obtain hsame | hfolder | ⟨part, hpart, hfile⟩ := h.get?_path
  · obtain ⟨events, hload⟩ := hf
    exact .inl ⟨events, load_congr hsame ▸ hload⟩
  · obtain ⟨bytes, modified, hfile⟩ := hf.exists_file
    cases hfolder.symm.trans hfile
  · obtain ⟨events, hload⟩ := hf
    exact .inr (load_of_part hd hpart hfile hload).2

theorem Saves.ages (h : Saves plan platform path files saved) {source : Path}
    (hne : source ≠ path) : Files.Ages source files saved.files :=
  fun old hold => ⟨old, (h.get?_of_isSome hne (by rw [hold]; rfl)).trans hold, .inl rfl⟩

/-- Whether a plan is an answer to a question, asked for the assets that its signature stands for
when the source was at its fingerprint; the source is newer by now, or is the text of the
question. -/
structure Traces (settings : Settings) (files : Files) (question : Question)
    (calls : List ToolCall) (plan : Plan) : Prop where
  calls : plan.calls = calls.map ToolCall.normalized
  assets : ∃ seen, plan.signature = (Inventory.scan seen settings.assets).signature ∧
    question.system = Prompt.system (.scan seen settings.assets)
  source : ∃ entry, files.get? settings.source = some entry ∧
    (plan.fingerprint < entry.modified ∨
      entry.modified = plan.fingerprint ∧ files.readText settings.source = .ok question.user)

theorem Traces.ages (h : plan.Traces settings before question calls)
    (ha : Files.Ages settings.source before after) :
    plan.Traces settings after question calls where
  calls := h.calls
  assets := h.assets
  source := by
    obtain ⟨old, hold, hage⟩ := h.source
    obtain ⟨new, hnew, rfl | hlt⟩ := ha old hold
    · refine ⟨new, hnew, hage.imp id ?_⟩
      rintro ⟨hm, ht⟩
      exact ⟨hm, (Files.readText_congr hold hnew).trans ht⟩
    · refine ⟨new, hnew, .inl ?_⟩
      obtain h' | ⟨hm, _⟩ := hage
      · exact Int.lt_trans h' hlt
      · exact hm ▸ hlt

/-- The source still holds the text of the question while it is no newer than the plan. -/
theorem Traces.current (h : plan.Traces settings files question calls) {modified : Int}
    (hm : files.modified settings.source = .ok modified) (hage : modified ≤ plan.fingerprint) :
    files.readText settings.source = .ok question.user := by
  obtain ⟨entry, he, hnew⟩ := h.source
  obtain ⟨found, hfound, rfl⟩ := Files.modified_eq_ok_iff.1 hm
  obtain rfl := Option.some.inj (he.symm.trans hfound)
  obtain hlt | ⟨_, htext⟩ := hnew
  · omega
  · exact htext

theorem Traces.system_eq (h : plan.Traces settings before question calls)
    (hs : plan.signature = (Inventory.scan files settings.assets).signature) :
    question.system = Prompt.system (.scan files settings.assets) := by
  obtain ⟨seen, hsignature, hsystem⟩ := h.assets
  rw [hsystem, Inventory.scan_eq_of_signature (hsignature.symm.trans hs)]

end Plan

/-- One build of a run: who builds and how, and what happens to the project meanwhile. -/
structure Round where
  compiler : Compiler
  force : Bool
  now : Moment
  meanwhile : Meanwhile

namespace Round

variable {round : Round} {rounds : List Round} {home : Settings}
  {asked : Question → List ToolCall → Prop} {result : BuildResult}

def outcome (round : Round) (files : Files) : Outcome :=
  round.compiler.buildWhile round.meanwhile round.force round.now files

/-- The files after a run. -/
def filesAfter (files : Files) (rounds : List Round) : Files :=
  rounds.foldl (fun files round => (round.outcome files).files) files

/-- Whether a build asks for a plan and gets these calls. -/
def Asks (round : Round) (files : Files) (question : Question) (calls : List ToolCall) : Prop :=
  (round.outcome files).question = some question ∧
    (round.compiler.ask question).2.answer = .ok calls

/-- Whether some build of a run asks for a plan and gets these calls. -/
def Asked (files : Files) (rounds : List Round) (question : Question) (calls : List ToolCall) :
    Prop :=
  ∃ earlier round later, rounds = earlier ++ round :: later ∧
    round.Asks (filesAfter files earlier) question calls

/-- Whether a build is one of a project: it looks at the project's places, others do what they may,
and no object in its settings or in an answer that does not come from a model has a name twice. -/
structure Fits (round : Round) (home : Settings) : Prop where
  places : home.SamePlaces round.compiler.settings
  allowed : ∀ look files, home.Allows files (round.meanwhile look files)
  answers : ∀ answer, round.compiler.client = .own answer →
    ∀ question calls, answer question = .ok calls → ∀ call ∈ calls, call.toJson.Distinct
  model : round.compiler.settings.model.Distinct
  apiBase : round.compiler.settings.apiBase.Distinct

/-- Whether the kept plan, if there is one, is the answer to a question that was asked. -/
def Kept (asked : Question → List ToolCall → Prop) (home : Settings) (files : Files) : Prop :=
  ∀ room plan, Plan.Found room home.cache files plan →
    ∃ question calls, asked question calls ∧ plan.Traces home files question calls

theorem Kept.allows (h : Kept asked home before) (ha : home.Allows before after) :
    Kept asked home after := by
  intro room plan hl
  obtain ⟨question, calls, hasked, ht⟩ := h room plan (hl.of_allows ha)
  exact ⟨question, calls, hasked, ht.ages ha.source⟩

theorem Kept.mono {more : Question → List ToolCall → Prop} (h : Kept asked home files)
    (hm : ∀ question calls, asked question calls → more question calls) :
    Kept more home files := by
  intro room plan hl
  obtain ⟨question, calls, hasked, ht⟩ := h room plan hl
  exact ⟨question, calls, hm question calls hasked, ht⟩

theorem Fits.distinct_of_ask (hf : round.Fits home)
    (h : (round.compiler.ask question).2.answer = .ok calls) :
    ∀ call ∈ calls, call.toJson.Distinct := by
  rw [Compiler.ask] at h
  split at h
  · next answer hc => exact hf.answers answer hc question calls h
  · next endpoint hc =>
    split at h
    · cases h
    · exact Account.distinct_of_ask (mapError_eq_ok_iff.1 h)

theorem Fits.allows_scanned (hf : round.Fits home) (files : Files) :
    home.Allows (round.meanwhile .time files) (Snapshot.scanned round.meanwhile files) :=
  (hf.allowed .source _).trans (hf.allowed .assets _)

/-- The plan of a new answer traces back to its question, up to when it is kept. -/
theorem Fits.traces (hf : round.Fits home) {snapshot : Snapshot} {seen : Files}
    (htake : Snapshot.take round.compiler.settings round.meanwhile files = (.ok snapshot, seen))
    (ha : home.Allows seen after) (settings : Settings) (now : Moment) (calls : List ToolCall)
    (tools : List Definition) :
    (snapshot.plan settings now calls).restored.Traces home after (snapshot.question tools)
      calls := by
  obtain ⟨hm, ht, hi, rfl⟩ := Snapshot.take_ok htake
  rw [← hf.places.source] at hm ht
  rw [← hf.places.assets] at hi
  obtain ⟨old, hold, hmodified⟩ := Files.modified_eq_ok_iff.1 hm
  obtain ⟨new, hnew, hage⟩ := (hf.allowed .source _).source old hold
  have htraces : (snapshot.plan settings now calls).restored.Traces home
      (round.meanwhile .source (round.meanwhile .time files)) (snapshot.question tools) calls := by
    refine ⟨rfl, ⟨Snapshot.scanned round.meanwhile files, ?_, ?_⟩, new, hnew, ?_⟩
    · exact congrArg Inventory.signature hi
    · exact congrArg Prompt.system hi
    · obtain rfl | hlt := hage
      · exact .inr ⟨hmodified, ht⟩
      · exact .inl (lt_of_eq_of_lt hmodified.symm hlt)
  exact htraces.ages ((hf.allowed .assets _).source.trans ha.source)

/-- What is left of a plan that was to be kept is that plan, or is of no use. -/
theorem Kept.save (hne : home.source ≠ home.cache) {platform : Platform} {saved : Plan.Saved}
    (h : plan.Saves platform home.cache files saved) (hd : plan.toJson.Distinct)
    (hk : Kept asked home files) (hasked : asked question calls)
    (ht : plan.restored.Traces home files question calls) : Kept asked home saved.files := by
  intro room other hfound
  have hages := h.ages hne
  obtain hold | rfl := h.found hd hfound
  · obtain ⟨question, calls, hasked, ht⟩ := hk room other hold
    exact ⟨question, calls, hasked, ht.ages hages⟩
  · exact ⟨question, calls, hasked, ht.ages hages⟩

theorem Kept.build (hne : home.source ≠ home.cache) (hf : round.Fits home)
    (hk : Kept asked home files) :
    Kept (fun question calls => asked question calls ∨ round.Asks files question calls) home
      (round.outcome files).files := by
  have hk' : Kept (fun question calls => asked question calls ∨ round.Asks files question calls)
      home files := hk.mono fun _ _ => .inl
  have hseen {snapshot : Snapshot} {seen : Files}
      (ht : Snapshot.take round.compiler.settings round.meanwhile files = (.ok snapshot, seen)) :
      home.Allows files seen := by
    obtain ⟨_, _, _, rfl⟩ := Snapshot.take_ok ht
    exact (hf.allowed .time files).trans (hf.allows_scanned files)
  have hcourse := round.compiler.course round.meanwhile round.force round.now files
  rw [outcome]
  cases hcourse with
  | untaken ht =>
    obtain h | h := Snapshot.take_error ht
    · exact h ▸ hk'.allows (hf.allowed .time files)
    · exact h ▸ hk'.allows ((hf.allowed .time files).trans (hf.allowed .source _))
  | unread ht _ _ _ hfiles => exact hfiles ▸ hk'.allows ((hseen ht).trans (hf.allowed .plan _))
  | reused ht _ _ _ hfiles => exact hfiles ▸ hk'.allows ((hseen ht).trans (hf.allowed .plan _))
  | @compiled snapshot seen before ht hb hc hq =>
    have hbefore : home.Allows seen before := by
      obtain rfl | rfl := hb
      · exact ⟨.refl _ _, .inl rfl⟩
      · exact hf.allowed .plan seen
    cases hc with
    | unanswered _ _ hfiles => exact hfiles ▸ hk'.allows ((hseen ht).trans hbefore)
    | @answered calls hanswer _ hfiles =>
      have hsaving := hbefore.trans (hf.allowed .save before)
      have hd : (snapshot.plan round.compiler.settings round.now calls).toJson.Distinct :=
        Plan.distinct_toJson (hf.distinct_of_ask hanswer) hf.model hf.apiBase
      rw [hfiles, Compiler.files_keep, ← hf.places.cache]
      refine (hk'.allows ((hseen ht).trans hsaving)).save hne (Plan.saves ..) hd
        (.inr ⟨?_, hanswer⟩) (hf.traces ht hsaving _ _ calls _)
      exact hq.trans (Compiler.ask_question hanswer)

theorem kept_filesAfter (hne : home.source ≠ home.cache) (hstart : files.get? home.cache = none)
    (hf : ∀ round ∈ rounds, round.Fits home) :
    Kept (Asked files rounds) home (filesAfter files rounds) := by
  induction rounds using List.reverseRecOn with
  | nil =>
    rintro room plan ⟨events, hl⟩
    rw [filesAfter, List.foldl_nil, Plan.load_of_missing hstart] at hl
    cases hl
  | append_singleton rounds round ih =>
    have hk := ih fun r hr => hf r (List.mem_append_left _ hr)
    have hround := hf round (List.mem_append_right _ (List.mem_singleton_self round))
    rw [filesAfter, List.foldl_append]
    refine (hk.build hne hround).mono ?_
    rintro question calls (⟨earlier, r, later, rfl, hr⟩ | hr)
    · exact ⟨earlier, r, later ++ [round], by simp, hr⟩
    · exact ⟨rounds, round, [], rfl, hr⟩

/-- A build that carries out the kept plan carries out an answer to the question that it would ask
itself, as far as the source at its first look and the assets at its own go. -/
theorem Kept.cached (hf : round.Fits home) (hk : Kept asked home files)
    (h : (round.outcome files).result = .ok result) (hs : result.status = .cached) :
    ∃ question calls, asked question calls ∧
      result.plan.calls = calls.map ToolCall.normalized ∧
      round.compiler.interpreter.replay calls = .ok result.replay ∧
      (round.meanwhile .time files).readText home.source = .ok question.user ∧
      question.system =
        Prompt.system (.scan (Snapshot.scanned round.meanwhile files) home.assets) := by
  have hcourse := round.compiler.course round.meanwhile round.force round.now files
  rw [outcome] at h
  cases hcourse with
  | untaken _ hr => cases hr.symm.trans h
  | unread _ _ _ hr => cases hr.symm.trans h
  | compiled _ _ hc =>
    rw [Compiler.status_of_compiles hc h] at hs
    cases hs
  | reused htake _ hkept hr =>
    obtain ⟨hreplay, hplan, _⟩ := BuildResult.ofPlan_ok_iff.1 (hr.symm.trans h)
    obtain ⟨hl, hreusable⟩ := Snapshot.kept?_eq_some hkept
    obtain ⟨hm, _, hi, rfl⟩ := Snapshot.take_ok htake
    rw [← hf.places.cache] at hl
    rw [← hf.places.source] at hm
    rw [← hf.places.assets] at hi
    rw [Plan.reusable, Bool.and_eq_true, decide_eq_true_eq, beq_iff_eq, hi] at hreusable
    obtain ⟨hage, hsignature⟩ := hreusable
    have hthere := hl.of_allows ((hf.allows_scanned files).trans (hf.allowed .plan _))
    obtain ⟨question, calls, hasked, ht⟩ := (hk.allows (hf.allowed .time files)) _ _ hthere
    refine ⟨question, calls, hasked, hplan ▸ ht.calls, ?_, ht.current hm hage,
      ht.system_eq hsignature⟩
    rw [← Interpreter.replay_normalized, ← ht.calls, hreplay]

/-- In a run that starts without a kept plan, whatever others do meanwhile, a build that carries
out the kept plan carries out the answer that an earlier build got when it asked about the text
that the source has at this build's first look and the assets that this build finds. -/
theorem cached_current (hne : home.source ≠ home.cache) (hstart : files.get? home.cache = none)
    (hpast : ∀ earlier ∈ rounds, earlier.Fits home) (hf : round.Fits home)
    (h : (round.outcome (filesAfter files rounds)).result = .ok result)
    (hs : result.status = .cached) :
    ∃ question calls, Asked files rounds question calls ∧
      result.plan.calls = calls.map ToolCall.normalized ∧
      round.compiler.interpreter.replay calls = .ok result.replay ∧
      (round.meanwhile .time (filesAfter files rounds)).readText home.source =
        .ok question.user ∧
      question.system = Prompt.system
        (.scan (Snapshot.scanned round.meanwhile (filesAfter files rounds)) home.assets) :=
  (kept_filesAfter hne hstart hpast).cached hf h hs

def quiet (compiler : Compiler) : Round := ⟨compiler, false, default, .nothing⟩

theorem fits_quiet {compiler : Compiler} (hp : home.SamePlaces compiler.settings)
    (ha : ∀ answer, compiler.client = .own answer →
      ∀ question calls, answer question = .ok calls → ∀ call ∈ calls, call.toJson.Distinct)
    (hm : compiler.settings.model.Distinct) (hb : compiler.settings.apiBase.Distinct) :
    (quiet compiler).Fits home where
  places := hp
  allowed := fun _ _ => ⟨.refl _ _, .inl rfl⟩
  answers := ha
  model := hm
  apiBase := hb

theorem cached_current_one_page :
    ∃ question calls,
      Asked Compiler.blankProject [quiet Compiler.onePage] question calls ∧
        question.user = "" ∧ question.system = Prompt.system ⟨[]⟩ := by
  have hfits : (quiet Compiler.onePage).Fits (.standard []) := by
    refine fits_quiet ⟨rfl, rfl, rfl⟩ ?_ trivial trivial
    intro answer h question calls hanswer
    obtain rfl : (fun _ => .ok Compiler.onePageCalls) = answer := Client.own.inj h
    cases hanswer
    exact Compiler.distinct_onePageCalls
  have hkeyless : (quiet Compiler.keyless).Fits (.standard []) :=
    fits_quiet ⟨rfl, rfl, rfl⟩ nofun trivial trivial
  let later := filesAfter Compiler.blankProject [quiet Compiler.onePage]
  have hget : later.get? (Settings.standard []).cache =
      some (.file Compiler.onePagePlan.bytes 0) :=
    ((Compiler.onePagePlan.saves {} _ Compiler.blankProject).kept rfl).2
  have hload : Plan.load Compiler.keyless.platform.nesting Compiler.keyless.settings.cache later =
      .ok (some Compiler.onePagePlan.restored, []) :=
    Plan.load_bytes Compiler.distinct_onePagePlan (by decide) hget rfl
  have hmodified : later.modified Compiler.keyless.settings.source = .ok 5 := rfl
  have htext : later.readText Compiler.keyless.settings.source = .ok "" := rfl
  have hreusable : Compiler.onePagePlan.restored.reusable 5
      (Inventory.scan later Compiler.keyless.settings.assets).signature = true := by
    rw [Plan.reusable, Bool.and_eq_true, decide_eq_true_eq, beq_iff_eq]
    exact ⟨Int.le_refl _, rfl⟩
  obtain ⟨hplan, _⟩ := Compiler.build_of_load hmodified htext hload hreusable default
  have hresult : ((quiet Compiler.keyless).outcome later).result =
      .ok ⟨Compiler.onePagePlan.restored, .cached, Compiler.onePageReplay⟩ :=
    hplan.trans (BuildResult.ofPlan_ok_iff.2 ⟨rfl, rfl, rfl⟩)
  obtain ⟨question, calls, hasked, _, _, huser, hsystem⟩ :=
    cached_current (Settings.apart_standard []).source rfl (List.forall_mem_singleton.2 hfits)
      hkeyless hresult rfl
  exact ⟨question, calls, hasked, (Except.ok.inj huser).symm, hsystem⟩

end Round

end Sitewright
