import Sitewright.Proofs.Build.Course

namespace Sitewright

namespace Snapshot

/-- What a build that nothing disturbs finds. -/
def of (settings : Settings) (files : Files) : Except BuildError Snapshot :=
  (take settings .nothing files).1

@[simp] theorem take_nothing (settings : Settings) (files : Files) :
    take settings .nothing files = (of settings files, files) := by
  unfold of take Meanwhile.nothing
  dsimp only
  split
  · rfl
  · split <;> rfl

theorem of_eq_ok {settings : Settings} {files : Files} {snapshot : Snapshot}
    (h : of settings files = .ok snapshot) :
    files.modified settings.source = .ok snapshot.modified ∧
      files.readText settings.source = .ok snapshot.source ∧
      snapshot.inventory = .scan files settings.assets := by
  obtain ⟨hm, ht, hi, _⟩ := take_ok ((take_nothing settings files).trans (by rw [h]))
  exact ⟨hm, ht, hi⟩

end Snapshot

theorem Plan.model_of_ofJson {v : Json} {plan : Plan} (h : ofJson v = .ok plan) :
    ∃ name, plan.model = .str name := by
  cases v with
  | obj fields =>
    obtain ⟨calls, _, h⟩ := exists_of_bind h
    obtain ⟨fingerprint, _, h⟩ := exists_of_bind h
    obtain ⟨signature, _, h⟩ := exists_of_bind h
    obtain rfl := Except.ok.inj h
    exact ⟨_, rfl⟩
  | _ => cases h

theorem Plan.model_of_found {room : Nat} {path : Path} {files : Files} {plan : Plan}
    (h : Found room path files plan) : ∃ name, plan.model = .str name := by
  obtain ⟨events, h⟩ := h
  rw [load] at h
  split at h
  · split at h
    · next read hread =>
      cases h
      rw [readFile] at hread
      split at hread
      · cases hread
      · exact model_of_ofJson (mapError_eq_ok_iff.1 hread)
    · cases h
    · cases h
  · cases h

namespace Compiler

variable (compiler : Compiler) (force : Bool) (now : Moment) (files : Files)

/-- The kept plan, if it holds and no new one is asked for in any case. -/
def reused? (snapshot : Snapshot) : Except Json.TooDeep (Option Plan) :=
  if force then .ok none
  else
    (snapshot.kept? compiler.platform.nesting compiler.settings.cache files).map fun kept => kept.1

/-- The plan that there is for what a build finds, and where it comes from. -/
def planOf (snapshot : Snapshot) : Except BuildError (BuildStatus × Plan) :=
  match compiler.reused? force files snapshot with
  | .error e => .error (.halt (.deep e))
  | .ok (some plan) => .ok (.cached, plan)
  | .ok none =>
    (compiler.ask (snapshot.question compiler.registry.definitions)).2.answer.map fun calls =>
      (.compiled, snapshot.plan compiler.settings now calls)

/-- The plan that a build carries out, and where it comes from. -/
def planFor : Except BuildError (BuildStatus × Plan) :=
  Snapshot.of compiler.settings files >>= compiler.planOf force now files

/-- Whether a build breaks off at the kept plan, since that goes too deep. -/
def Unread (snapshot : Snapshot) (e : Json.TooDeep) : Prop :=
  compiler.reused? force files snapshot = .error e

/-- Whether a build asks for a plan, for want of one that it may carry out again. -/
def Renews (snapshot : Snapshot) : Prop := compiler.reused? force files snapshot = .ok none

variable {compiler force now files} {snapshot : Snapshot} {status : BuildStatus} {plan : Plan}
  {e : BuildError}

theorem unread_iff {e : Json.TooDeep} :
    compiler.Unread force files snapshot e ↔
      force = false ∧
        Plan.load compiler.platform.nesting compiler.settings.cache files = .error e := by
  rw [Unread, reused?]
  cases force with
  | true => exact iff_of_false nofun fun h => nomatch h.1
  | false =>
    rw [if_neg Bool.false_ne_true, map_eq_error_iff, Snapshot.kept?_eq_error_iff]
    exact (and_iff_right rfl).symm

theorem found_of_reused (h : compiler.reused? force files snapshot = .ok (some plan)) :
    force = false ∧ Plan.Found compiler.platform.nesting compiler.settings.cache files plan ∧
      plan.reusable snapshot.modified snapshot.inventory.signature = true := by
  rw [reused?] at h
  cases force with
  | true => cases h
  | false =>
    rw [if_neg Bool.false_ne_true, map_eq_ok_iff] at h
    obtain ⟨⟨kept, events⟩, hkept, rfl⟩ := h
    exact ⟨rfl, Snapshot.kept?_eq_some hkept⟩

theorem planOf_error_iff :
    compiler.planOf force now files snapshot = .error e ↔
      (∃ cause, compiler.Unread force files snapshot cause ∧ e = .halt (.deep cause)) ∨
        compiler.Renews force files snapshot ∧
          (compiler.ask (snapshot.question compiler.registry.definitions)).2.answer =
            .error e := by
  rw [planOf, Renews]
  simp only [Unread]
  cases compiler.reused? force files snapshot with
  | error cause =>
    rw [or_iff_left (fun h => nomatch h.1)]
    dsimp only
    rw [Except.error.injEq]
    constructor
    · rintro rfl
      exact ⟨cause, rfl, rfl⟩
    · rintro ⟨_, hcause, rfl⟩
      cases hcause
      rfl
  | ok kept =>
    rw [or_iff_right (fun ⟨_, h, _⟩ => nomatch h)]
    cases kept with
    | some plan => exact iff_of_false nofun fun h => nomatch h.1
    | none => rw [and_iff_right rfl, map_eq_error_iff]

theorem planOf_ok (h : compiler.planOf force now files snapshot = .ok (status, plan)) :
    (status = .cached ∧ compiler.reused? force files snapshot = .ok (some plan)) ∨
      status = .compiled ∧ compiler.Renews force files snapshot ∧ ∃ calls,
        (compiler.ask (snapshot.question compiler.registry.definitions)).2.answer = .ok calls ∧
          plan = snapshot.plan compiler.settings now calls := by
  rw [planOf] at h
  rw [Renews]
  cases hr : compiler.reused? force files snapshot with
  | error cause =>
    rw [hr] at h
    cases h
  | ok kept =>
    rw [hr] at h
    cases kept with
    | some kept =>
      cases h
      exact .inl ⟨rfl, rfl⟩
    | none =>
      obtain ⟨calls, hcalls, he⟩ := map_eq_ok_iff.1 h
      cases he
      exact .inr ⟨rfl, rfl, calls, hcalls, rfl⟩

theorem planFor_error_iff :
    compiler.planFor force now files = .error e ↔
      Snapshot.of compiler.settings files = .error e ∨
        ∃ snapshot, Snapshot.of compiler.settings files = .ok snapshot ∧
          ((∃ cause, compiler.Unread force files snapshot cause ∧ e = .halt (.deep cause)) ∨
            compiler.Renews force files snapshot ∧
              (compiler.ask (snapshot.question compiler.registry.definitions)).2.answer =
                .error e) := by
  rw [planFor, bind_eq_error_iff]
  simp only [planOf_error_iff]

theorem planFor_compiled (h : compiler.planFor force now files = .ok (.compiled, plan)) :
    ∃ snapshot calls, Snapshot.of compiler.settings files = .ok snapshot ∧
      (compiler.ask (snapshot.question compiler.registry.definitions)).2.answer = .ok calls ∧
      plan = snapshot.plan compiler.settings now calls := by
  obtain ⟨snapshot, hs, h⟩ := exists_of_bind h
  obtain ⟨hcached, _⟩ | ⟨_, _, calls, ha, hmade⟩ := planOf_ok h
  · cases hcached
  · exact ⟨snapshot, calls, hs, ha, hmade⟩

theorem planFor_cached (h : compiler.planFor force now files = .ok (.cached, plan)) :
    Plan.Found compiler.platform.nesting compiler.settings.cache files plan := by
  obtain ⟨snapshot, _, h⟩ := exists_of_bind h
  obtain ⟨_, hreused⟩ | ⟨hcompiled, _⟩ := planOf_ok h
  · exact (found_of_reused hreused).2.1
  · cases hcompiled

variable (compiler force now files)

/-- What comes of a plan, wherever it comes from. -/
def resultOf (found : Except BuildError (BuildStatus × Plan)) : Except BuildError BuildResult :=
  found >>= fun
    | (.cached, plan) => (BuildResult.ofPlan compiler.interpreter .cached plan).1
    | (.compiled, plan) => compiler.carryOut plan files

/-- The files after a plan was found: a new one is kept. -/
def filesOf (found : Except BuildError (BuildStatus × Plan)) : Files :=
  match found with
  | .ok (.compiled, plan) => (compiler.keep plan files).1
  | _ => files

theorem compile_eq (snapshot : Snapshot) :
    let found := (compiler.ask (snapshot.question compiler.registry.definitions)).2.answer.map
      fun calls => (BuildStatus.compiled, snapshot.plan compiler.settings now calls)
    let outcome := compiler.compile snapshot now .nothing files
    outcome.result = compiler.resultOf files found ∧
      outcome.files = compiler.filesOf files found := by
  intro found outcome
  cases compiler.compiles snapshot now .nothing files with
  | unanswered ha hr hf =>
    rw [hr, hf]
    simp only [found, ha]
    exact ⟨rfl, rfl⟩
  | answered ha hr hf =>
    rw [hr, hf]
    simp only [found, ha]
    exact ⟨rfl, rfl⟩

theorem resume_eq (snapshot : Snapshot) :
    let found := compiler.planOf false now files snapshot
    let outcome := compiler.resume snapshot now .nothing files
    outcome.result = compiler.resultOf files found ∧
      outcome.files = compiler.filesOf files found := by
  dsimp only
  rw [resume, planOf, reused?, if_neg Bool.false_ne_true, Meanwhile.nothing]
  cases snapshot.kept? compiler.platform.nesting compiler.settings.cache files with
  | error e => exact ⟨rfl, rfl⟩
  | ok kept =>
    obtain ⟨plan?, events⟩ := kept
    cases plan? with
    | some plan => exact ⟨rfl, rfl⟩
    | none => exact compiler.compile_eq now files snapshot

/-- A build carries its plan out, and keeps it first if it is a new one. -/
theorem build_eq :
    let found := compiler.planFor force now files
    let outcome := compiler.build force now files
    outcome.result = compiler.resultOf files found ∧
      outcome.files = compiler.filesOf files found := by
  dsimp only
  rw [build, buildWhile, Snapshot.take_nothing, planFor]
  cases Snapshot.of compiler.settings files with
  | error e => exact ⟨rfl, rfl⟩
  | ok snapshot =>
    cases force with
    | true => exact compiler.compile_eq now files snapshot
    | false => exact compiler.resume_eq now files snapshot

variable {compiler force now files} {result : BuildResult}

/-- A build that goes well has carried out the plan that it found. -/
theorem planFor_of_build (h : (compiler.build force now files).result = .ok result) :
    compiler.planFor force now files = .ok (result.status, result.plan) ∧
      compiler.interpreter.replay result.plan.calls = .ok result.replay := by
  rw [(compiler.build_eq force now files).1] at h
  obtain ⟨⟨status, plan⟩, hplan, h⟩ := exists_of_bind h
  cases status with
  | cached =>
    obtain ⟨hreplay, rfl, hstatus⟩ := BuildResult.ofPlan_ok_iff.1 h
    exact ⟨hstatus ▸ hplan, hreplay⟩
  | compiled =>
    obtain ⟨hreplay, rfl, hstatus⟩ := BuildResult.ofPlan_ok_iff.1 (ofPlan_of_carryOut h)
    exact ⟨hstatus ▸ hplan, hreplay⟩

/-- A new plan has the model of the settings; a kept one has the text that its file has. -/
theorem model_of_result (h : (compiler.build force now files).result = .ok result) :
    (result.status = .compiled ∧ result.plan.model = compiler.settings.model) ∨
      (result.status = .cached ∧ ∃ name, result.plan.model = .str name) := by
  obtain ⟨hplan, _⟩ := planFor_of_build h
  cases hstatus : result.status with
  | cached =>
    rw [hstatus] at hplan
    exact .inr ⟨rfl, Plan.model_of_found (planFor_cached hplan)⟩
  | compiled =>
    rw [hstatus] at hplan
    obtain ⟨snapshot, calls, _, _, hmade⟩ := planFor_compiled hplan
    exact .inl ⟨rfl, hmade ▸ rfl⟩

end Compiler

end Sitewright
