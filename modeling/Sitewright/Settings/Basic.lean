import Sitewright.Files.Basic
import Sitewright.Json.Value

namespace Sitewright

/-- Where a project keeps its things, and which model it asks. The key and the names of the model
and its address are whatever the settings give. -/
structure Settings where
  root : Path
  source : Path
  assets : Path
  cache : Path
  apiKey : Json
  model : Json
  apiBase : Json
  deriving Repr, Inhabited

namespace Settings

def defaultModel : String := "gemini-2.5-pro"

def defaultBase : String := "https://generativelanguage.googleapis.com/v1beta/openai"

/-- The settings of a project that gives none. -/
def standard (root : Path) : Settings where
  root
  source := root ++ ["app.txt"]
  assets := root ++ ["assets"]
  cache := root ++ [".cache", "compiled-plan.json"]
  apiKey := .null
  model := .str defaultModel
  apiBase := .str defaultBase

/-- What is set apart from the rest: every setting but the root has a name. -/
inductive Override where
  | source (path : Path)
  | assets (path : Path)
  | cache (path : Path)
  | apiKey (key : Json)
  | model (model : Json)
  | apiBase (base : Json)
  deriving Repr

def override (settings : Settings) : Override → Settings
  | .source path => { settings with source := path }
  | .assets path => { settings with assets := path }
  | .cache path => { settings with cache := path }
  | .apiKey key => { settings with apiKey := key }
  | .model model => { settings with model := model }
  | .apiBase base => { settings with apiBase := base }

end Settings

end Sitewright
