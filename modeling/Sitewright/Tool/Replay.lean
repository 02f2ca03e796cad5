import Sitewright.Site.Route
import Sitewright.Tool.Registry

namespace Sitewright

/-- A call that was not carried out. -/
structure Skipped where
  index : Nat
  name : String
  reason : String
  deriving Repr, DecidableEq

def Skipped.event (s : Skipped) : Event := .callSkipped s.index s.name s.reason

/-- A site built call by call: how many were carried out, and which were not. -/
structure Replay where
  site : Site := {}
  applied : Nat := 0
  skipped : List Skipped := []
  deriving Repr, DecidableEq, Inhabited

/-- A replay that had to stop, and the calls it had skipped by then. -/
structure Interrupted where
  cause : Json.Halt
  skipped : List Skipped
  deriving Repr

namespace Site

/-- What a verdict makes of a site; a refused call leaves it alone. -/
def follow (site : Site) : Verdict → Site
  | .accepted edit => site.apply edit
  | .refused _ => site

end Site

namespace Replay

def seen (r : Replay) : Nat := r.applied + r.skipped.length

/-- One call more: a refused one is put on record. -/
def step (r : Replay) (call : ToolCall) : Verdict → Replay
  | .accepted edit => { r with site := r.site.apply edit, applied := r.applied + 1 }
  | .refused reason =>
    { r with skipped := r.skipped ++ [⟨r.seen, call.label, reason.message⟩] }

end Replay

namespace Interpreter

def replayFrom (interpreter : Interpreter) (r : Replay) : List ToolCall → Except Interrupted Replay
  | [] => .ok r
  | call :: calls =>
    match interpreter.judge call with
    | .error cause => .error ⟨cause, r.skipped⟩
    | .ok verdict => replayFrom interpreter (r.step call verdict) calls

/-- Carries out calls in their order on a site without pages. -/
def replay (interpreter : Interpreter) (calls : List ToolCall) : Except Interrupted Replay :=
  replayFrom interpreter {} calls

end Interpreter

end Sitewright
