import Sitewright.Model.Client
import Sitewright.Plan.Basic
import Sitewright.Settings.Basic
import Sitewright.Tool.Replay

namespace Sitewright

/-- Why a build gives no site. -/
inductive BuildError where
  | source (e : FileError)
  | encoding (e : Text.Utf8.Error)
  | missingCredential
  | address (given : Json)
  | client (e : ClientError)
  | halt (h : Json.Halt)
  deriving Repr

namespace BuildError

def ofText : TextError → BuildError
  | .file e => source e
  | .encoding e => encoding e

def message : BuildError → String
  | source e => e.message
  | encoding e => e.message
  | missingCredential =>
    "Model API key is missing. Provide it in config.json under gemini.apiKey " ++
      "or set GEMINI_API_KEY."
  | address given => s!"'{given.typeName}' object has no attribute 'rstrip'"
  | client e => e.message
  | halt h => h.message

end BuildError

/-- Where the plan of a build comes from. -/
inductive BuildStatus where
  | compiled
  | cached
  deriving Repr, DecidableEq, Inhabited

def BuildStatus.label : BuildStatus → String
  | compiled => "compiled"
  | cached => "cached"

/-- A plan, and the site that it makes. -/
structure BuildResult where
  plan : Plan
  status : BuildStatus
  replay : Replay
  deriving Repr, Inhabited

namespace BuildResult

def routes (result : BuildResult) : RouteTable := result.replay.site.routeTable

def skipped (result : BuildResult) : List Skipped := result.replay.skipped

/-- The result of a plan, and what carrying it out has to tell. -/
def ofPlan (interpreter : Interpreter) (status : BuildStatus) (plan : Plan) :
    Except BuildError BuildResult × List Event :=
  match interpreter.replay plan.calls with
  | .error stopped => (.error (.halt stopped.cause), stopped.skipped.map Skipped.event)
  | .ok replay =>
    let result : BuildResult := { plan, status, replay }
    (.ok result,
      replay.skipped.map Skipped.event ++ replay.site.routeEvents ++
        [.built status.label result.routes.size replay.applied replay.skipped.length])

end BuildResult

/-- Who gives the calls of a build: someone at hand, who may fail in any way, or a model behind an
endpoint. -/
inductive Client where
  | own (answer : Question → Except BuildError (List ToolCall))
  | remote (endpoint : Endpoint)

instance : Inhabited Client := ⟨.own fun _ => .ok []⟩

/-- The account that settings give; there has to be a key. -/
def Settings.account (settings : Settings) : Except BuildError Account :=
  if settings.apiKey.truthy then
    match settings.apiBase with
    | .str base => .ok { key := settings.apiKey, model := settings.model, base }
    | other => .error (.address other)
  else .error .missingCredential

end Sitewright
