import Sitewright.Proofs.Build.Cached
import Sitewright.Proofs.Model.Answer
import Sitewright.Proofs.Tool.Halt

namespace Sitewright

theorem Interpreter.halts_of_replay {interpreter : Interpreter} {calls : List ToolCall}
    {stopped : Interrupted} (h : interpreter.replay calls = .error stopped) :
    ∃ call ∈ calls, interpreter.Halts call stopped.cause := by
  have hsome : ¬∀ call ∈ calls, ∃ verdict, interpreter.judge call = .ok verdict := by
    rw [← exists_replay_iff]
    rintro ⟨r, hr⟩
    cases h.symm.trans hr
  obtain ⟨before, call, after, e, rfl, hbefore, he⟩ := exists_first_unjudged hsome
  cases h.symm.trans (replay_stops hbefore he after)
  exact ⟨call, List.mem_append_right _ List.mem_cons_self, (judge_eq_error_iff _ _ _).1 he⟩

theorem Interpreter.stops_iff (interpreter : Interpreter) (calls : List ToolCall) :
    (∃ stopped, interpreter.replay calls = .error stopped) ↔
      ∃ call ∈ calls, ∃ e, interpreter.Halts call e := by
  constructor
  · rintro ⟨stopped, h⟩
    obtain ⟨call, hcall, he⟩ := halts_of_replay h
    exact ⟨call, hcall, stopped.cause, he⟩
  · rintro ⟨call, hcall, e, he⟩
    cases hr : interpreter.replay calls with
    | error stopped => exact ⟨stopped, rfl⟩
    | ok r =>
      have hjudged := (exists_replay_iff interpreter calls).1 ⟨r, hr⟩
      exact absurd he ((exists_judged_iff interpreter call).1 (hjudged call hcall) e)

variable {interpreter : Interpreter} {status : BuildStatus} {plan : Plan} {e : BuildError}

theorem BuildResult.ofPlan_error_iff :
    (ofPlan interpreter status plan).1 = .error e ↔
      ∃ stopped, interpreter.replay plan.calls = .error stopped ∧ e = .halt stopped.cause := by
  unfold ofPlan
  cases interpreter.replay plan.calls with
  | error stopped =>
    dsimp only
    rw [Except.error.injEq]
    constructor
    · rintro rfl
      exact ⟨stopped, rfl, rfl⟩
    · rintro ⟨_, hs, rfl⟩
      rw [Except.error.inj hs]
  | ok replay => exact iff_of_false nofun fun ⟨_, h, _⟩ => nomatch h

namespace Compiler

variable {compiler next : Compiler} {force : Bool} {now : Moment} {files later : Files}

/-- Whether a build makes a new plan that goes too deep to be kept. -/
structure BreaksOff (compiler : Compiler) (force : Bool) (now : Moment) (files : Files)
    (plan : Plan) (e : Json.TooDeep) : Prop where
  made : compiler.planFor force now files = .ok (.compiled, plan)
  unkept : (plan.save compiler.platform compiler.settings.cache files).failure? = some (.deep e)

/-- Whether a build makes a new plan, and stops as it carries that plan out. -/
structure StopsAt (compiler : Compiler) (force : Bool) (now : Moment) (files : Files) (plan : Plan)
    (stopped : Interrupted) : Prop where
  made : compiler.planFor force now files = .ok (.compiled, plan)
  goesOn : ∀ e, (plan.save compiler.platform compiler.settings.cache files).failure? ≠
    some (.deep e)
  stops : compiler.interpreter.replay plan.calls = .error stopped

theorem carryOut_error_iff :
    compiler.carryOut plan files = .error e ↔
      (∃ cause, (plan.save compiler.platform compiler.settings.cache files).failure? =
          some (.deep cause) ∧ e = .halt (.deep cause)) ∨
        (∀ cause, (plan.save compiler.platform compiler.settings.cache files).failure? ≠
          some (.deep cause)) ∧
        ∃ stopped, compiler.interpreter.replay plan.calls = .error stopped ∧
          e = .halt stopped.cause := by
  simp only [Ne, ← keep_eq_error_iff]
  rw [carryOut]
  cases (compiler.keep plan files).2 with
  | error cause =>
    rw [or_iff_left (fun h => h.1 cause rfl)]
    dsimp only
    rw [Except.error.injEq]
    constructor
    · rintro rfl
      exact ⟨cause, rfl, rfl⟩
    · rintro ⟨_, hcause, rfl⟩
      cases hcause
      rfl
  | ok event =>
    simp only [reduceCtorEq, false_and, exists_false, false_or, not_false_eq_true, implies_true,
      true_and]
    exact BuildResult.ofPlan_error_iff

/-- How a build fails: it has no plan, its new plan goes too deep to be kept, or it stops as it
carries out its plan, whichever that is. -/
inductive Fails (compiler : Compiler) (force : Bool) (now : Moment) (files : Files) :
    BuildError → Prop
  | planless {e : BuildError} (h : compiler.planFor force now files = .error e) :
    Fails compiler force now files e
  | unkept {plan : Plan} {cause : Json.TooDeep}
    (h : compiler.BreaksOff force now files plan cause) :
    Fails compiler force now files (.halt (.deep cause))
  | anew {plan : Plan} {stopped : Interrupted} (h : compiler.StopsAt force now files plan stopped) :
    Fails compiler force now files (.halt stopped.cause)
  | again {plan : Plan} {stopped : Interrupted}
    (hplan : compiler.planFor force now files = .ok (.cached, plan))
    (hstops : compiler.interpreter.replay plan.calls = .error stopped) :
    Fails compiler force now files (.halt stopped.cause)

theorem build_error_iff :
    (compiler.build force now files).result = .error e ↔ compiler.Fails force now files e := by
  rw [(compiler.build_eq force now files).1, resultOf, bind_eq_error_iff]
  constructor
  · rintro (hnone | ⟨⟨status, plan⟩, hplan, h⟩)
    · exact .planless hnone
    · cases status with
      | cached =>
        obtain ⟨stopped, hstops, rfl⟩ := BuildResult.ofPlan_error_iff.1 h
        exact .again hplan hstops
      | compiled =>
        rcases carryOut_error_iff.1 h with ⟨cause, hdeep, rfl⟩ | ⟨hgoes, stopped, hstops, rfl⟩
        · exact .unkept ⟨hplan, hdeep⟩
        · exact .anew ⟨hplan, hgoes, hstops⟩
  · intro h
    cases h with
    | planless h => exact .inl h
    | unkept h =>
      exact .inr ⟨_, h.made, carryOut_error_iff.2 (.inl ⟨_, h.unkept, rfl⟩)⟩
    | anew h =>
      exact .inr ⟨_, h.made, carryOut_error_iff.2 (.inr ⟨h.goesOn, _, h.stops, rfl⟩)⟩
    | again hplan hstops =>
      exact .inr ⟨_, hplan, BuildResult.ofPlan_error_iff.2 ⟨_, hstops, rfl⟩⟩

theorem files_of_made (h : compiler.planFor force now files = .ok (.compiled, plan)) :
    (compiler.build force now files).files =
      (plan.save compiler.platform compiler.settings.cache files).files := by
  rw [(compiler.build_eq force now files).2, h]
  rfl

/-- Whether builds go on to fail for a cause, and to ask nobody, until something changes. -/
def Stuck (compiler : Compiler) (files : Files) (cause : Json.Halt) : Prop :=
  ∀ (next : Compiler) (later : Files) (now : Moment),
    compiler.settings.SamePlaces next.settings → next.registry = compiler.registry →
    next.platform.nesting = compiler.platform.nesting →
    compiler.settings.Unchanged files later →
    let outcome := next.build false now later
    outcome.result = .error (.halt cause) ∧ outcome.files = later ∧ outcome.question = none ∧
      outcome.sent = []

theorem files_of_error (h : (compiler.build force now files).result = .error e) :
    (compiler.build force now files).files = files ∨
      (∃ plan cause, compiler.BreaksOff force now files plan cause ∧ e = .halt (.deep cause)) ∨
      ∃ plan stopped, compiler.StopsAt force now files plan stopped ∧
        e = .halt stopped.cause := by
  have hfiles := (compiler.build_eq force now files).2
  cases build_error_iff.1 h with
  | planless hnone =>
    rw [hnone] at hfiles
    exact .inl hfiles
  | unkept hbreaks => exact .inr (.inl ⟨_, _, hbreaks, rfl⟩)
  | anew hstops => exact .inr (.inr ⟨_, _, hstops, rfl⟩)
  | again hplan =>
    rw [hplan] at hfiles
    exact .inl hfiles

namespace StopsAt

variable {stopped : Interrupted}

theorem result (h : compiler.StopsAt force now files plan stopped) :
    (compiler.build force now files).result = .error (.halt stopped.cause) :=
  build_error_iff.2 (.anew h)

theorem kept (h : compiler.StopsAt force now files plan stopped)
    (hsave : (plan.save compiler.platform compiler.settings.cache files).failure? = none) :
    (compiler.build force now files).files.get? compiler.settings.cache =
      some (.file plan.bytes 0) := by
  rw [files_of_made h.made]
  exact ((plan.saves _ _ _).kept hsave).2

theorem stuck (h : compiler.StopsAt force now files plan stopped)
    (hsave : (plan.save compiler.platform compiler.settings.cache files).failure? = none)
    (hd : plan.toJson.Distinct) (ha : compiler.settings.Apart) :
    compiler.Stuck (compiler.build force now files).files stopped.cause := by
  intro next later at' hp hreg hroom hu
  obtain ⟨hresult, hrest⟩ := build_kept ha hp hroom h.made hsave hd hu at'
  have hagain : next.interpreter.replay plan.restored.calls = .error stopped := by
    rw [interpreter_congr hreg hroom, Plan.restored, Interpreter.replay_normalized, h.stops]
  exact ⟨hresult.trans (BuildResult.ofPlan_error_iff.2 ⟨stopped, hagain, rfl⟩), hrest⟩

end StopsAt

/-- A plan that goes too deep is cut off where it does, and what is written by then is all that its
file has. -/
theorem BreaksOff.left {cause : Json.TooDeep} (h : compiler.BreaksOff force now files plan cause) :
    compiler.platform.nesting < plan.toJson.depth ∧
      (compiler.build force now files).files.get? compiler.settings.cache =
        some (.file (plan.written compiler.platform compiler.settings.cache).1 0) := by
  have hsaves := plan.saves compiler.platform compiler.settings.cache files
  refine ⟨hsaves.deep h.unkept, ?_⟩
  rw [files_of_made h.made]
  have hunkept := h.unkept
  generalize plan.save compiler.platform compiler.settings.cache files = saved at *
  cases hsaves with
  | homeless => cases hunkept
  | closed => cases hunkept
  | opened => simp

/-- A build that fails leaves the files alone, unless it has made a new plan that goes too deep to
be kept, or one with a call that halts. In the first case the file has the beginning of that plan.
In the other the plan has been kept by then, and the builds after it are stuck with it. -/
theorem files_of_failed_build (compiler : Compiler) (force : Bool) (now : Moment) (files : Files) :
    let outcome := compiler.build force now files
    (∀ e, outcome.result = .error e → outcome.files = files ∨
      (∃ plan cause, compiler.BreaksOff force now files plan cause ∧ e = .halt (.deep cause)) ∨
      ∃ plan stopped, compiler.StopsAt force now files plan stopped ∧ e = .halt stopped.cause ∧
        ∃ call ∈ plan.calls, compiler.interpreter.Halts call stopped.cause) ∧
    (∀ plan cause, compiler.BreaksOff force now files plan cause →
      outcome.result = .error (.halt (.deep cause)) ∧
        compiler.platform.nesting < plan.toJson.depth ∧
        outcome.files.get? compiler.settings.cache =
          some (.file (plan.written compiler.platform compiler.settings.cache).1 0)) ∧
    ∀ plan stopped, compiler.StopsAt force now files plan stopped →
      outcome.result = .error (.halt stopped.cause) ∧
      ((plan.save compiler.platform compiler.settings.cache files).failure? = none →
        plan.toJson.Distinct →
        outcome.files.get? compiler.settings.cache = some (.file plan.bytes 0) ∧
        (compiler.settings.Apart → compiler.Stuck outcome.files stopped.cause)) := by
  refine ⟨?_, ?_, ?_⟩
  · intro e he
    rcases files_of_error he with hsame | hbreaks | ⟨plan, stopped, h, rfl⟩
    · exact .inl hsame
    · exact .inr (.inl hbreaks)
    · exact .inr (.inr ⟨plan, stopped, h, rfl, Interpreter.halts_of_replay h.stops⟩)
  · intro plan cause h
    exact ⟨build_error_iff.2 (.unkept h), h.left⟩
  · intro plan stopped h
    refine ⟨h.result, ?_⟩
    intro hsave hd
    exact ⟨h.kept hsave, h.stuck hsave hd⟩

/-- A call whose arguments are nothing but a number, of too many digits. -/
def bareNumber : ToolCall := ⟨.str "create_page", .str (Json.int Interpreter.leastOverlong).text⟩

def numbering : Compiler := { settings := .standard [], client := .own fun _ => .ok [bareNumber] }

def numberedPlan : Plan := Snapshot.plan ⟨5, "", ⟨[]⟩⟩ (.standard []) default [bareNumber]

theorem stopsAt_numberedPlan :
    ∃ stopped, numbering.StopsAt false default blankProject numberedPlan stopped := by
  have hlong : (Json.int Interpreter.leastOverlong).long? = some 4301 := by
    rw [Json.long?, Int.natAbs_natCast, Interpreter.length_leastOverlong]
    rfl
  have hdistinct : (Json.int Interpreter.leastOverlong).Distinct := trivial
  have hread : Json.read 1000 (Json.int Interpreter.leastOverlong).text =
      .error (.halt (.long (.read 4301))) := by
    rw [Json.read_text hdistinct (by decide), Json.readBack, hlong]
  have hhalts : numbering.interpreter.Halts bareNumber (.long (.read 4301)) :=
    ⟨by decide, .createPage, rfl, .inl ⟨_, rfl, hread⟩⟩
  obtain ⟨stopped, hstops⟩ :=
    (Interpreter.stops_iff _ _).2 ⟨bareNumber, List.mem_cons_self, _, hhalts⟩
  have hsaved : (numberedPlan.save {} numbering.settings.cache blankProject).failure? = none := rfl
  exact ⟨stopped, rfl, fun e he => Option.some_ne_none _ (he.symm.trans hsaved), hstops⟩

theorem files_of_failed_build_bare_number : ∃ cause,
    let outcome := numbering.build false default blankProject
    outcome.result = .error (.halt cause) ∧
      outcome.files.get? numbering.settings.cache = some (.file numberedPlan.bytes 0) ∧
      numbering.Stuck outcome.files cause := by
  obtain ⟨stopped, h⟩ := stopsAt_numberedPlan
  have hcall : bareNumber.toJson.Distinct := ToolCall.distinct_toJson trivial trivial
  have hd : numberedPlan.toJson.Distinct :=
    Plan.distinct_toJson (List.forall_mem_singleton.2 hcall) trivial trivial
  obtain ⟨-, -, hstopped⟩ := files_of_failed_build numbering false default blankProject
  obtain ⟨hresult, hkept⟩ := hstopped numberedPlan stopped h
  obtain ⟨hbytes, hstuck⟩ := hkept rfl hd
  exact ⟨stopped.cause, hresult, hbytes, hstuck (Settings.apart_standard [])⟩

/-- A failed build can put a plan where there was none. -/
theorem failed_build_leaves_plan : ∃ e,
    let outcome := numbering.build false default blankProject
    outcome.result = .error e ∧ blankProject.get? numbering.settings.cache = none ∧
      outcome.files.get? numbering.settings.cache = some (.file numberedPlan.bytes 0) := by
  obtain ⟨stopped, h⟩ := stopsAt_numberedPlan
  exact ⟨.halt stopped.cause, h.result, rfl, h.kept rfl⟩

end Compiler

end Sitewright
