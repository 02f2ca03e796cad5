import Sitewright.Event
import Sitewright.Files.Document
import Sitewright.Json.Display
import Sitewright.Platform
import Sitewright.Settings.Basic

namespace Sitewright

/-- Why the settings of a project cannot be had: its file of variables is no text or has a variable
that cannot be set, or its file of settings goes too deep. -/
inductive Settings.LoadError where
  | encoding (e : Text.Utf8.Error)
  | unsettable (said : String)
  | deep (e : Json.TooDeep)
  deriving Repr, DecidableEq

def Settings.LoadError.message : LoadError → String
  | encoding e => e.message
  | unsettable said => said
  | deep e => e.message

namespace Environment

/-- The environment with what the file of variables adds, if there is such a file. -/
def withFile (env : Environment) (platform : Platform) (path : Path) (files : Files) :
    Except Settings.LoadError Environment :=
  match files.readText path with
  | .ok text => (platform.addVariables env text).mapError .unsettable
  | .error (.encoding e) => .error (.encoding e)
  | .error (.file _) => .ok env

/-- A variable that is set to something. -/
def given? (env : Environment) (name : String) : Option String :=
  (env.get? name).filter (· != "")

end Environment

namespace Settings

/-- The object of settings in a file. A missing file has none, and one that cannot be read is
ignored; only one that goes too deep is passed on as an error. -/
def readFile (room : Nat) (path : Path) (files : Files) :
    Except Json.TooDeep (Fields × List Event) :=
  if (files.get? path).isSome then
    match files.readJson room path with
    | .ok (.obj fields) =>
      match Json.field fields "gemini" with
      | .obj inner => .ok (inner, [])
      | _ => .ok ([], [])
    | .ok _ => .ok ([], [])
    | .error (.json (.halt (.deep e))) => .error e
    | .error e => .ok ([], [.settingsIgnored path.text e.message])
  else .ok ([], [])

/-- A setting: from the file, or else from the environment, or else the default. -/
def choose (fields : Fields) (env : Environment) (field name : String) (default : Json) : Json :=
  let given := Json.field fields field
  if given.truthy then given else ((env.given? name).map .str).getD default

/-- What loading gives: the settings, and the environment with the variables of the project. -/
structure Loaded where
  settings : Settings
  environment : Environment
  events : List Event

/-- The settings of a project, from its file of variables, its file of settings and the
environment. -/
def load (platform : Platform) (root : Path) (env : Environment) (files : Files) :
    Except LoadError Loaded := do
  let env ← env.withFile platform (root ++ [".env"]) files
  let (fields, events) ←
    (readFile platform.nesting (root ++ ["config.json"]) files).mapError LoadError.deep
  let base := choose fields env "openAIBase" "GEMINI_OPENAI_BASE" (.str defaultBase)
  let settings :=
    { standard root with
      apiKey := choose fields env "apiKey" "GEMINI_API_KEY" .null
      model := choose fields env "model" "GEMINI_MODEL" (.str defaultModel)
      apiBase := .str (Text.withoutSlashes base.display) }
  return ⟨settings, env, events⟩

end Settings

end Sitewright
