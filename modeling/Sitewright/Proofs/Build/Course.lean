import Sitewright.Build.Compiler
import Sitewright.Proofs.Except
import Sitewright.Proofs.Plan.RoundTrip

namespace Sitewright

variable {compiler : Compiler} {meanwhile : Meanwhile} {force : Bool} {now : Moment}
  {files after : Files} {settings : Settings} {snapshot : Snapshot} {plan : Plan}
  {question : Question} {calls : List ToolCall} {interpreter : Interpreter}
  {status : BuildStatus} {result : BuildResult} {outcome : Outcome}

/-- Whether two projects keep their things at the same places. -/
structure Settings.SamePlaces (settings other : Settings) : Prop where
  source : settings.source = other.source
  assets : settings.assets = other.assets
  cache : settings.cache = other.cache

theorem BuildResult.ofPlan_ok_iff :
    (ofPlan interpreter status plan).1 = .ok result ↔
      interpreter.replay plan.calls = .ok result.replay ∧ result.plan = plan ∧
        result.status = status := by
  unfold ofPlan
  cases interpreter.replay plan.calls with
  | error e => exact iff_of_false nofun fun h => nomatch h.1
  | ok replay =>
    dsimp only
    obtain ⟨p, s, r⟩ := result
    rw [Except.ok.injEq, Except.ok.injEq, BuildResult.mk.injEq]
    constructor
    · rintro ⟨rfl, rfl, rfl⟩
      exact ⟨rfl, rfl, rfl⟩
    · rintro ⟨rfl, rfl, rfl⟩
      exact ⟨rfl, rfl, rfl⟩

namespace Snapshot

/-- The files as a build comes to list the assets, when it gets so far. -/
def scanned (meanwhile : Meanwhile) (files : Files) : Files :=
  meanwhile .assets (meanwhile .source (meanwhile .time files))

/-- Each part of a snapshot is what the files hold at its own look. -/
theorem take_ok (h : take settings meanwhile files = (.ok snapshot, after)) :
    (meanwhile .time files).modified settings.source = .ok snapshot.modified ∧
      (meanwhile .source (meanwhile .time files)).readText settings.source =
        .ok snapshot.source ∧
      snapshot.inventory = .scan after settings.assets ∧ after = scanned meanwhile files := by
  unfold take at h
  dsimp only at h
  split at h
  · cases h
  · next modified hm =>
    split at h
    · cases h
    · next source hs =>
      obtain ⟨hsnapshot, rfl⟩ := Prod.mk.inj h
      obtain rfl := Except.ok.inj hsnapshot
      exact ⟨hm, hs, rfl, rfl⟩

theorem take_error {e : BuildError} (h : take settings meanwhile files = (.error e, after)) :
    after = meanwhile .time files ∨ after = meanwhile .source (meanwhile .time files) := by
  unfold take at h
  dsimp only at h
  split at h
  · exact .inl (Prod.mk.inj h).2.symm
  · split at h
    · exact .inr (Prod.mk.inj h).2.symm
    · cases h

variable {room : Nat} {path : Path} {events : List Event}

/-- The kept plan that a build carries out again has been loaded, and holds. -/
theorem kept?_eq_some (h : snapshot.kept? room path files = .ok (some plan, events)) :
    Plan.Found room path files plan ∧
      plan.reusable snapshot.modified snapshot.inventory.signature = true := by
  obtain ⟨loaded, hload, h⟩ := exists_of_bind h
  split at h
  · cases h
  · next found told =>
    dsimp only at h
    split at h
    · next hreusable =>
      cases h
      exact ⟨⟨told, hload⟩, hreusable⟩
    · split at h <;> cases h

theorem kept?_of_load {loaded : List Event}
    (h : Plan.load room path files = .ok (some plan, loaded))
    (hr : plan.reusable snapshot.modified snapshot.inventory.signature = true) :
    snapshot.kept? room path files =
      .ok (some plan, loaded ++ [.planReused plan.calls.length]) := by
  rw [kept?, h]
  exact if_pos hr

theorem kept?_eq_error_iff {e : Json.TooDeep} :
    snapshot.kept? room path files = .error e ↔ Plan.load room path files = .error e := by
  rw [kept?, bind_eq_error_iff]
  apply or_iff_left
  rintro ⟨loaded, -, h⟩
  split at h
  · cases h
  · dsimp only at h
    split at h
    · cases h
    · split at h <;> cases h

end Snapshot

namespace Compiler

theorem ask_question (h : (compiler.ask question).2.answer = .ok calls) :
    (compiler.ask question).1 = some question := by
  unfold ask at h ⊢
  split
  · rfl
  · next endpoint hc =>
    rw [hc] at h
    dsimp only at h
    split at h
    · cases h
    · rfl

theorem files_keep (compiler : Compiler) (plan : Plan) (files : Files) :
    (compiler.keep plan files).1 =
      (plan.save compiler.platform compiler.settings.cache files).files := rfl

/-- A plan that cannot be kept breaks a build off only if it goes too deep. -/
theorem keep_eq_error_iff {e : Json.TooDeep} :
    (compiler.keep plan files).2 = .error e ↔
      (plan.save compiler.platform compiler.settings.cache files).failure? = some (.deep e) := by
  rw [keep]
  dsimp only
  cases (plan.save compiler.platform compiler.settings.cache files).failure? with
  | none => exact iff_of_false nofun nofun
  | some failure =>
    cases failure with
    | reported e' => exact iff_of_false nofun nofun
    | deep e' => rw [Except.error.injEq, Option.some.injEq, Plan.SaveFailure.deep.injEq]

/-- What comes of a new plan: it is carried out, unless it goes too deep to be kept. -/
def carryOut (compiler : Compiler) (plan : Plan) (files : Files) :
    Except BuildError BuildResult :=
  match (compiler.keep plan files).2 with
  | .error e => .error (.halt (.deep e))
  | .ok _ => (BuildResult.ofPlan compiler.interpreter .compiled plan).1

theorem ofPlan_of_carryOut (h : compiler.carryOut plan files = .ok result) :
    (BuildResult.ofPlan compiler.interpreter .compiled plan).1 = .ok result := by
  rw [carryOut] at h
  split at h
  · cases h
  · exact h

/-- What becomes of a build that asks for a plan: it gets no answer, or it keeps the plan of the
answer, or fails to, and carries it out. -/
inductive Compiles (compiler : Compiler) (snapshot : Snapshot) (now : Moment)
    (meanwhile : Meanwhile) (files : Files) (outcome : Outcome) : Prop
  | unanswered {e : BuildError}
    (ha : (compiler.ask (snapshot.question compiler.registry.definitions)).2.answer = .error e)
    (hr : outcome.result = .error e) (hf : outcome.files = files)
  | answered {calls : List ToolCall}
    (ha : (compiler.ask (snapshot.question compiler.registry.definitions)).2.answer = .ok calls)
    (hr : outcome.result = compiler.carryOut (snapshot.plan compiler.settings now calls)
      (meanwhile .save files))
    (hf : outcome.files = (compiler.keep (snapshot.plan compiler.settings now calls)
      (meanwhile .save files)).1)

theorem compiles (compiler : Compiler) (snapshot : Snapshot) (now : Moment)
    (meanwhile : Meanwhile) (files : Files) :
    compiler.Compiles snapshot now meanwhile files
      (compiler.compile snapshot now meanwhile files) := by
  rw [compile]
  cases hask : compiler.ask (snapshot.question compiler.registry.definitions) with
  | mk question asked =>
    dsimp only
    cases hanswer : asked.answer with
    | error e => exact .unanswered (by rw [hask, hanswer]) rfl rfl
    | ok calls =>
      refine .answered (by rw [hask, hanswer]) ?_ rfl
      rw [carryOut]
      dsimp only
      cases (compiler.keep (snapshot.plan compiler.settings now calls)
        (meanwhile .save files)).2 with
      | error e => rfl
      | ok event => rfl

theorem asked_of_compile (compiler : Compiler) (snapshot : Snapshot) (now : Moment)
    (meanwhile : Meanwhile) (files : Files) :
    let asked := compiler.ask (snapshot.question compiler.registry.definitions)
    let outcome := compiler.compile snapshot now meanwhile files
    outcome.question = asked.1 ∧ outcome.sent = asked.2.sent := by
  dsimp only
  rw [compile]
  cases compiler.ask (snapshot.question compiler.registry.definitions) with
  | mk question asked =>
    dsimp only
    cases asked.answer with
    | error e => exact ⟨rfl, rfl⟩
    | ok calls => exact ⟨rfl, rfl⟩

theorem status_of_compiles (h : compiler.Compiles snapshot now meanwhile files outcome)
    (hr : outcome.result = .ok result) : result.status = .compiled := by
  cases h with
  | unanswered _ he => cases he.symm.trans hr
  | answered _ hc => exact (BuildResult.ofPlan_ok_iff.1 (ofPlan_of_carryOut (hc ▸ hr))).2.2

/-- The ways that a build takes: it cannot take in its project, it breaks off at a kept plan that
goes too deep, it carries out the kept plan, or it asks for a new one. -/
inductive Course (compiler : Compiler) (meanwhile : Meanwhile) (force : Bool) (now : Moment)
    (files : Files) (outcome : Outcome) : Prop
  | untaken {e : BuildError}
    (ht : Snapshot.take compiler.settings meanwhile files = (.error e, outcome.files))
    (hr : outcome.result = .error e)
  | unread {snapshot : Snapshot} {seen : Files} {e : Json.TooDeep}
    (ht : Snapshot.take compiler.settings meanwhile files = (.ok snapshot, seen))
    (hforce : force = false)
    (hk : snapshot.kept? compiler.platform.nesting compiler.settings.cache
      (meanwhile .plan seen) = .error e)
    (hr : outcome.result = .error (.halt (.deep e))) (hf : outcome.files = meanwhile .plan seen)
  | reused {snapshot : Snapshot} {seen : Files} {plan : Plan} {events : List Event}
    (ht : Snapshot.take compiler.settings meanwhile files = (.ok snapshot, seen))
    (hforce : force = false)
    (hk : snapshot.kept? compiler.platform.nesting compiler.settings.cache
      (meanwhile .plan seen) = .ok (some plan, events))
    (hr : outcome.result = (BuildResult.ofPlan compiler.interpreter .cached plan).1)
    (hf : outcome.files = meanwhile .plan seen)
  | compiled {snapshot : Snapshot} {seen before : Files}
    (ht : Snapshot.take compiler.settings meanwhile files = (.ok snapshot, seen))
    (hb : before = seen ∨ before = meanwhile .plan seen)
    (hc : compiler.Compiles snapshot now meanwhile before outcome)
    (hq : outcome.question =
      (compiler.ask (snapshot.question compiler.registry.definitions)).1)

theorem course (compiler : Compiler) (meanwhile : Meanwhile) (force : Bool) (now : Moment)
    (files : Files) :
    compiler.Course meanwhile force now files
      (compiler.buildWhile meanwhile force now files) := by
  rw [buildWhile]
  cases htake : Snapshot.take compiler.settings meanwhile files with
  | mk taken seen =>
    cases taken with
    | error e => exact .untaken htake rfl
    | ok snapshot =>
      cases force with
      | true =>
        exact .compiled htake (.inl rfl) (compiler.compiles snapshot now meanwhile seen)
          (compiler.asked_of_compile snapshot now meanwhile seen).1
      | false =>
        dsimp only
        rw [if_neg Bool.false_ne_true, resume]
        dsimp only
        split
        · next e hk => exact .unread htake rfl hk rfl rfl
        · next plan events hk => exact .reused htake rfl hk rfl rfl
        · next events hk =>
          have hasked := compiler.asked_of_compile snapshot now meanwhile (meanwhile .plan seen)
          refine .compiled htake (.inr rfl) ?_ hasked.1
          cases compiler.compiles snapshot now meanwhile (meanwhile .plan seen) with
          | unanswered ha hr hf => exact .unanswered ha hr hf
          | answered ha hr hf => exact .answered ha hr hf

end Compiler

end Sitewright
