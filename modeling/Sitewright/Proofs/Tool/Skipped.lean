import Mathlib.Data.List.Perm.Basic
import Sitewright.Proofs.Tool.Work

namespace Sitewright

namespace Skipped

/-- The record as it is when so many calls come before. -/
def after (count : Nat) (s : Skipped) : Skipped := { s with index := count + s.index }

/-- What is said of a call, wherever it stood. -/
def said (s : Skipped) : String × String := (s.name, s.reason)

end Skipped

/-- The reason that is given for a call that is not carried out. -/
def Verdict.complaint? : Verdict → Option String
  | .accepted _ => none
  | .refused reason => some reason.message

namespace Interpreter

variable {interpreter : Interpreter} {call : ToolCall} {calls before later shuffled : List ToolCall}
  {r r₁ r₂ : Replay}

/-- What is reported of a call that is carried out on a site: nothing if all is well, or else the
reason. -/
def report (interpreter : Interpreter) (call : ToolCall) (site : Site) :
    Except Json.Halt (Option String) :=
  match (interpreter.perform call).run site with
  | .ok reason _ => .ok (reason.map Refusal.message)
  | .error e _ => .error e

/-- Whether a call is carried out is settled before the site is looked at. -/
theorem report_eq (interpreter : Interpreter) (call : ToolCall) (site : Site) :
    interpreter.report call site = (interpreter.judge call).map Verdict.complaint? := by
  rw [report, run_perform]
  cases interpreter.judge call with
  | error e => rfl
  | ok verdict => cases verdict <;> rfl

/-- What is said of a call that is refused: its name and the reason. -/
def refusal? (interpreter : Interpreter) (call : ToolCall) : Option (String × String) :=
  match interpreter.judge call with
  | .ok (.refused reason) => some (call.label, reason.message)
  | _ => none

theorem skip?_eq (interpreter : Interpreter) (entry : ToolCall × Nat) :
    interpreter.skip? entry =
      (interpreter.refusal? entry.1).map fun said => ⟨entry.2, said.1, said.2⟩ := by
  rw [skip?, refusal?]
  cases interpreter.judge entry.1 with
  | error e => rfl
  | ok verdict => cases verdict <;> rfl

theorem refusal?_eq_some_iff {name reason : String} (site : Site) :
    interpreter.refusal? call = some (name, reason) ↔
      name = call.label ∧ interpreter.report call site = .ok (some reason) := by
  rw [report_eq, refusal?]
  cases interpreter.judge call with
  | error e => exact iff_of_false nofun fun h => nomatch h.2
  | ok verdict =>
    cases verdict with
    | accepted edit => exact iff_of_false nofun fun h => nomatch Except.ok.inj h.2
    | refused refusal =>
      simp only [Except.map, Verdict.complaint?, Option.some.injEq, Prod.mk.injEq,
        Except.ok.injEq, eq_comm (a := call.label)]

/-- A record says where a call stood, and what any site would have made the report be. -/
theorem mem_skipped_iff (h : interpreter.replay calls = .ok r) (s : Skipped) :
    s ∈ r.skipped ↔ ∃ call, (call, s.index) ∈ calls.zipIdx ∧ s.name = call.label ∧
      ∀ site, interpreter.report call site = .ok (some s.reason) := by
  rw [replay_eq h, outcome, List.mem_filterMap]
  simp only [skip?_eq, Option.map_eq_some_iff]
  constructor
  · rintro ⟨⟨call, i⟩, hmem, ⟨name, reason⟩, hsaid, rfl⟩
    refine ⟨call, hmem, ((refusal?_eq_some_iff {}).1 hsaid).1, ?_⟩
    intro site
    exact ((refusal?_eq_some_iff site).1 hsaid).2
  · rintro ⟨call, hmem, hname, hreport⟩
    exact ⟨(call, s.index), hmem, (s.name, s.reason),
      (refusal?_eq_some_iff {}).2 ⟨hname, hreport {}⟩, rfl⟩

theorem skipped_zipIdx (interpreter : Interpreter) (calls : List ToolCall) (count : Nat) :
    (calls.zipIdx count).filterMap interpreter.skip? =
      (calls.zipIdx.filterMap interpreter.skip?).map (Skipped.after count) := by
  rw [List.zipIdx_eq_map_add, List.filterMap_map, List.map_filterMap]
  apply List.filterMap_congr
  rintro ⟨call, i⟩ _
  simp only [Function.comp_apply, skip?_eq, Option.map_map]
  rfl

theorem said_zipIdx (interpreter : Interpreter) (calls : List ToolCall) :
    (calls.zipIdx.filterMap interpreter.skip?).map Skipped.said =
      calls.filterMap interpreter.refusal? := by
  have hfst : calls.filterMap interpreter.refusal? =
      calls.zipIdx.filterMap (interpreter.refusal? ∘ Prod.fst) := by
    rw [← List.filterMap_map, List.zipIdx_map_fst]
  rw [hfst, List.map_filterMap]
  apply List.filterMap_congr
  intro entry _
  rw [skip?_eq, Option.map_map]
  exact Option.map_id'

theorem outcome_append (interpreter : Interpreter) (before later : List ToolCall) :
    interpreter.outcome (before ++ later) =
      { site := (interpreter.outcome before).site.applyAll (later.filterMap interpreter.edit?)
        applied := (interpreter.outcome before).applied + (interpreter.outcome later).applied
        skipped := (interpreter.outcome before).skipped ++
          (interpreter.outcome later).skipped.map (Skipped.after before.length) } := by
  rw [outcome, List.filterMap_append, List.length_append, List.zipIdx_append, List.filterMap_append,
    Nat.zero_add, skipped_zipIdx interpreter later before.length, Site.applyAll, List.foldl_append]
  rfl

theorem exists_replay_append (h₁ : interpreter.replay before = .ok r₁)
    (h₂ : interpreter.replay later = .ok r₂) :
    ∃ r, interpreter.replay (before ++ later) = .ok r ∧ r.applied = r₁.applied + r₂.applied ∧
      r.skipped = r₁.skipped ++ r₂.skipped.map (Skipped.after before.length) ∧
      r.applied + r.skipped.length = before.length + later.length := by
  have hbefore := (exists_replay_iff interpreter before).1 ⟨r₁, h₁⟩
  have hlater := (exists_replay_iff interpreter later).1 ⟨r₂, h₂⟩
  have hboth := List.forall_mem_append.2 ⟨hbefore, hlater⟩
  obtain ⟨r, hr⟩ := (exists_replay_iff interpreter (before ++ later)).2 hboth
  have hseen := seen_of_replayFrom hr
  have hr' := replay_eq hr
  rw [outcome_append, ← replay_eq h₁, ← replay_eq h₂] at hr'
  refine ⟨r, hr, ?_, ?_, ?_⟩
  · rw [hr']
  · rw [hr']
  · rw [← List.length_append]
    exact hseen.trans (Nat.zero_add _)

theorem exists_replay_perm (hperm : calls.Perm shuffled) (h : interpreter.replay calls = .ok r) :
    ∃ r', interpreter.replay shuffled = .ok r' ∧
      (r'.skipped.map Skipped.said).Perm (r.skipped.map Skipped.said) := by
  have hcalls := (exists_replay_iff interpreter calls).1 ⟨r, h⟩
  have hshuffled : ∀ call ∈ shuffled, ∃ verdict, interpreter.judge call = .ok verdict := by
    intro call hcall
    exact hcalls call (hperm.mem_iff.2 hcall)
  obtain ⟨r', hr'⟩ := (exists_replay_iff interpreter shuffled).2 hshuffled
  refine ⟨r', hr', ?_⟩
  rw [replay_eq hr', replay_eq h, outcome, outcome, said_zipIdx, said_zipIdx]
  exact (hperm.filterMap interpreter.refusal?).symm

/-- What comes of a call depends on the call alone: every site gives the same report, and a call is
skipped just when that is a reason. So two lists that are replayed one after the other are skipped
from as each is by itself, and in another order the same calls are skipped for the same reasons. -/
theorem skipping_depends_on_call (interpreter : Interpreter) :
    (∀ call site other, interpreter.report call site = interpreter.report call other) ∧
    (∀ calls r, interpreter.replay calls = .ok r → ∀ s : Skipped,
      s ∈ r.skipped ↔ ∃ call, (call, s.index) ∈ calls.zipIdx ∧ s.name = call.label ∧
        ∀ site, interpreter.report call site = .ok (some s.reason)) ∧
    (∀ before later r₁ r₂,
      interpreter.replay before = .ok r₁ → interpreter.replay later = .ok r₂ →
        ∃ r, interpreter.replay (before ++ later) = .ok r ∧ r.applied = r₁.applied + r₂.applied ∧
          r.skipped = r₁.skipped ++ r₂.skipped.map (Skipped.after before.length) ∧
          r.applied + r.skipped.length = before.length + later.length) ∧
    ∀ calls shuffled r, calls.Perm shuffled → interpreter.replay calls = .ok r →
      ∃ r', interpreter.replay shuffled = .ok r' ∧
        (r'.skipped.map Skipped.said).Perm (r.skipped.map Skipped.said) := by
  refine ⟨?_, ?_, ?_, ?_⟩
  · intro call site other
    rw [report_eq, report_eq]
  · intro calls r h s
    exact mem_skipped_iff h s
  · intro before later r₁ r₂ h₁ h₂
    exact exists_replay_append h₁ h₂
  · intro calls shuffled r hperm h
    exact exists_replay_perm hperm h

/-- A call without a name, and a page. -/
def namelessAndPage : List ToolCall :=
  [⟨.int 7, .null⟩, ⟨.str "create_page", .obj [("path", .str "/"), ("content", .str "hi")]⟩]

/-- Calls that are all skipped. -/
def noneCarriedOut : List ToolCall :=
  [⟨.str "erase", .null⟩, ⟨.str "create_page", .str "[]"⟩]

theorem skipping_depends_on_call_mixed :
    (∃ r, standard.replay (namelessAndPage ++ noneCarriedOut) = .ok r ∧ r.applied = 1 ∧
      r.skipped =
        [⟨0, "", "tool call has no name"⟩, ⟨2, "erase", "unknown tool 'erase'"⟩,
          ⟨3, "create_page", "create_page: arguments must decode to a JSON object"⟩]) ∧
    ∃ r, standard.replay noneCarriedOut.reverse = .ok r ∧
      (r.skipped.map Skipped.said).Perm
        [("erase", "unknown tool 'erase'"),
          ("create_page", "create_page: arguments must decode to a JSON object")] := by
  have hbefore : standard.replay namelessAndPage = .ok
      { site := { pages := [("/", ⟨"hi", []⟩)] }
        applied := 1
        skipped := [⟨0, "", "tool call has no name"⟩] } := rfl
  have hlater : standard.replay noneCarriedOut = .ok
      { skipped :=
          [⟨0, "erase", "unknown tool 'erase'"⟩,
            ⟨1, "create_page", "create_page: arguments must decode to a JSON object"⟩] } := rfl
  obtain ⟨-, -, happend, hperm⟩ := skipping_depends_on_call standard
  obtain ⟨r, hr, happlied, hskipped, -⟩ := happend _ _ _ _ hbefore hlater
  exact ⟨⟨r, hr, happlied, hskipped⟩, hperm _ _ _ (List.reverse_perm _).symm hlater⟩

end Interpreter

end Sitewright
