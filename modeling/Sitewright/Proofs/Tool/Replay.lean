import Sitewright.Tool.Replay

namespace Sitewright.Interpreter

variable {interpreter : Interpreter} {call : ToolCall} {calls : List ToolCall} {r r' : Replay}
  {verdict : Verdict} {edit : Edit} {reason : Refusal}

/-- The change that a call makes, if it is carried out. -/
def edit? (interpreter : Interpreter) (call : ToolCall) : Option Edit :=
  match interpreter.judge call with
  | .ok (.accepted edit) => some edit
  | _ => none

/-- The record of a call at its place, if it is refused. -/
def skip? (interpreter : Interpreter) (entry : ToolCall × Nat) : Option Skipped :=
  match interpreter.judge entry.1 with
  | .ok (.refused reason) => some ⟨entry.2, entry.1.label, reason.message⟩
  | _ => none

theorem edit?_eq_some_iff :
    interpreter.edit? call = some edit ↔ interpreter.judge call = .ok (.accepted edit) := by
  unfold edit?
  split
  · next e h => rw [h, Option.some.injEq, Except.ok.injEq, Verdict.accepted.injEq]
  · next h => exact iff_of_false nofun (h edit)

theorem edit?_of_refused (h : interpreter.judge call = .ok (.refused reason)) :
    interpreter.edit? call = none := by
  rw [edit?, h]

theorem skip?_of_accepted (h : interpreter.judge call = .ok (.accepted edit)) (i : Nat) :
    interpreter.skip? (call, i) = none := by
  rw [skip?, h]

theorem skip?_of_refused (h : interpreter.judge call = .ok (.refused reason)) (i : Nat) :
    interpreter.skip? (call, i) = some ⟨i, call.label, reason.message⟩ := by
  rw [skip?, h]

theorem exists_replayFrom_iff (interpreter : Interpreter) (calls : List ToolCall) (r : Replay) :
    (∃ r', interpreter.replayFrom r calls = .ok r') ↔
      ∀ call ∈ calls, ∃ verdict, interpreter.judge call = .ok verdict := by
  induction calls generalizing r with
  | nil => exact iff_of_true ⟨r, rfl⟩ nofun
  | cons call calls ih =>
    rw [List.forall_mem_cons, replayFrom]
    cases hj : interpreter.judge call with
    | error e => exact iff_of_false nofun fun h => nomatch h.1
    | ok verdict => exact (ih _).trans (and_iff_right ⟨verdict, rfl⟩).symm

theorem exists_replay_iff (interpreter : Interpreter) (calls : List ToolCall) :
    (∃ r, interpreter.replay calls = .ok r) ↔
      ∀ call ∈ calls, ∃ verdict, interpreter.judge call = .ok verdict :=
  exists_replayFrom_iff interpreter calls {}

theorem seen_step (r : Replay) (call : ToolCall) (verdict : Verdict) :
    (r.step call verdict).seen = r.seen + 1 := by
  cases verdict with
  | accepted edit => exact Nat.add_right_comm _ _ _
  | refused reason =>
    rw [Replay.seen, Replay.step, List.length_append, List.length_singleton, ← Nat.add_assoc]
    rfl

/-- What a replay comes to: the changes of the calls that are carried out, in their order, and a
record of each of the others. -/
theorem replayFrom_eq (h : interpreter.replayFrom r calls = .ok r') :
    r' =
      { site := r.site.applyAll (calls.filterMap interpreter.edit?)
        applied := r.applied + (calls.filterMap interpreter.edit?).length
        skipped := r.skipped ++ (calls.zipIdx r.seen).filterMap interpreter.skip? } := by
  induction calls generalizing r with
  | nil =>
    cases h
    rw [List.zipIdx_nil, List.filterMap_nil, List.filterMap_nil, List.append_nil]
    rfl
  | cons call calls ih =>
    rw [replayFrom] at h
    cases hj : interpreter.judge call with
    | error e =>
      rw [hj] at h
      cases h
    | ok verdict =>
      rw [hj] at h
      rw [ih h, List.zipIdx_cons]
      cases verdict with
      | accepted edit =>
        rw [List.filterMap_cons_some (edit?_eq_some_iff.2 hj),
          List.filterMap_cons_none (skip?_of_accepted hj r.seen), seen_step, List.length_cons]
        simp only [Replay.step, Site.applyAll, List.foldl_cons, Replay.mk.injEq, true_and, and_true]
        omega
      | refused reason =>
        rw [List.filterMap_cons_none (edit?_of_refused hj),
          List.filterMap_cons_some (skip?_of_refused hj r.seen), seen_step]
        simp only [Replay.step, List.append_assoc, List.singleton_append]

/-- What a replay comes to on a site without pages. -/
def outcome (interpreter : Interpreter) (calls : List ToolCall) : Replay where
  site := Site.applyAll {} (calls.filterMap interpreter.edit?)
  applied := (calls.filterMap interpreter.edit?).length
  skipped := calls.zipIdx.filterMap interpreter.skip?

theorem replay_eq (h : interpreter.replay calls = .ok r) : r = interpreter.outcome calls := by
  rw [replayFrom_eq h, outcome]
  simp only [Nat.zero_add, List.nil_append]
  rfl

theorem seen_of_replayFrom (h : interpreter.replayFrom r calls = .ok r') :
    r'.seen = r.seen + calls.length := by
  induction calls generalizing r with
  | nil =>
    cases h
    rfl
  | cons call calls ih =>
    rw [replayFrom] at h
    split at h
    · cases h
    · next verdict hj =>
      rw [ih h, seen_step, List.length_cons]
      omega

theorem replayFrom_append (h : interpreter.replayFrom r calls = .ok r') (more : List ToolCall) :
    interpreter.replayFrom r (calls ++ more) = interpreter.replayFrom r' more := by
  induction calls generalizing r with
  | nil =>
    cases h
    rfl
  | cons call calls ih =>
    rw [replayFrom] at h
    rw [List.cons_append, replayFrom]
    split at h
    · cases h
    · exact ih h

/-- A call that cannot be judged stops a replay, which has put the calls before it on record. -/
theorem replay_stops {before : List ToolCall} {e : Json.Halt}
    (hbefore : ∀ call ∈ before, ∃ verdict, interpreter.judge call = .ok verdict)
    (hcall : interpreter.judge call = .error e) (after : List ToolCall) :
    interpreter.replay (before ++ call :: after) =
      .error ⟨e, before.zipIdx.filterMap interpreter.skip?⟩ := by
  obtain ⟨r, hr⟩ := (exists_replay_iff interpreter before).2 hbefore
  rw [replay, replayFrom_append hr, replayFrom, hcall, replay_eq hr, outcome]

theorem exists_first_unjudged
    (h : ¬∀ call ∈ calls, ∃ verdict, interpreter.judge call = .ok verdict) :
    ∃ before call after e, calls = before ++ call :: after ∧
      (∀ call ∈ before, ∃ verdict, interpreter.judge call = .ok verdict) ∧
      interpreter.judge call = .error e := by
  induction calls with
  | nil => exact absurd nofun h
  | cons call calls ih =>
    cases hj : interpreter.judge call with
    | error e => exact ⟨[], call, calls, e, rfl, nofun, hj⟩
    | ok verdict =>
      rw [List.forall_mem_cons] at h
      obtain ⟨before, other, after, e, rfl, hbefore, he⟩ := ih fun hc => h ⟨⟨verdict, hj⟩, hc⟩
      have hall := List.forall_mem_cons.2 ⟨⟨verdict, hj⟩, hbefore⟩
      exact ⟨call :: before, other, after, e, rfl, hall, he⟩

end Sitewright.Interpreter
