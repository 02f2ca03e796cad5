import Sitewright.Proofs.Build.Cached
import Sitewright.Proofs.Plan.Format

namespace Sitewright

namespace Compiler

variable {compiler : Compiler} {force : Bool} {now : Moment} {files : Files} {plan : Plan}
  {modified : Int} {text base : String} {snapshot : Snapshot} {question : Question}

/-- Whether a build breaks off at the kept plan: nobody insists on a new one, and the file of the
plan is a text with more arrays and objects open than there is room for. -/
structure Overfilled (compiler : Compiler) (force : Bool) (files : Files) (e : Json.TooDeep) :
    Prop where
  unforced : force = false
  file : ∃ s modified,
    files.get? compiler.settings.cache = some (.file (Text.Utf8.encode s) modified) ∧
      Json.Overfull compiler.platform.nesting s e

theorem unread_iff_overfilled {e : Json.TooDeep} :
    compiler.Unread force files snapshot e ↔ compiler.Overfilled force files e := by
  rw [unread_iff, Plan.load_eq_error_iff, Plan.readFile_deep_iff]
  exact ⟨fun ⟨hforce, hfile⟩ => ⟨hforce, hfile⟩, fun h => ⟨h.unforced, h.file⟩⟩

theorem ask_own {answer : Question → Except BuildError (List ToolCall)}
    (hc : compiler.client = .own answer) (question : Question) :
    compiler.ask question = (some question, { answer := answer question }) := by
  rw [ask, hc]

/-- Only a build that finds no plan to carry out again asks for one. -/
theorem asked_of_build (hs : Snapshot.of compiler.settings files = .ok snapshot) (force : Bool)
    (now : Moment) :
    let asked := compiler.ask (snapshot.question compiler.registry.definitions)
    let outcome := compiler.build force now files
    match compiler.reused? force files snapshot with
    | .ok none => outcome.question = asked.1 ∧ outcome.sent = asked.2.sent
    | _ => outcome.question = none ∧ outcome.sent = [] := by
  have hcompile := compiler.asked_of_compile snapshot now .nothing files
  dsimp only
  rw [build, buildWhile, Snapshot.take_nothing, hs, reused?]
  cases force with
  | true => exact hcompile
  | false =>
    dsimp only
    rw [if_neg Bool.false_ne_true, if_neg Bool.false_ne_true, resume, Meanwhile.nothing]
    cases snapshot.kept? compiler.platform.nesting compiler.settings.cache files with
    | error e => exact ⟨rfl, rfl⟩
    | ok kept =>
      obtain ⟨plan?, events⟩ := kept
      cases plan? with
      | some plan => exact ⟨rfl, rfl⟩
      | none => exact hcompile

theorem build_of_overfilled (hs : Snapshot.of compiler.settings files = .ok snapshot)
    {e : Json.TooDeep} (h : compiler.Overfilled force files e) (now : Moment) :
    let outcome := compiler.build force now files
    outcome.result = .error (.halt (.deep e)) ∧ outcome.files = files ∧
      outcome.question = none ∧ outcome.sent = [] := by
  have hunread : compiler.reused? force files snapshot = .error e := unread_iff_overfilled.2 h
  have hfound : compiler.planFor force now files = .error (.halt (.deep e)) := by
    rw [planFor, hs]
    change compiler.planOf force now files snapshot = _
    rw [planOf, hunread]
  have hasked := asked_of_build hs force now
  rw [hunread] at hasked
  obtain ⟨hresult, hfiles⟩ := compiler.build_eq force now files
  rw [hfound] at hresult hfiles
  exact ⟨hresult, hfiles, hasked⟩

/-- A project whose plan is nothing but a hundred thousand opening brackets. -/
def bracketedProject : Files :=
  blankProject.put (Settings.standard []).cache
    (.file (Text.Utf8.encode (List.replicate 100000 '[')) 0)

end Compiler

end Sitewright
