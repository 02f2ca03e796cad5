import Sitewright.Json.Value

namespace Sitewright

/-- A call as a model sends it. A name that is no text is kept as it came and names no tool. -/
structure ToolCall where
  name : Json
  arguments : Json := .null
  deriving Repr, Inhabited

namespace ToolCall

/-- Reads a call that lists its name and arguments itself or in a `function` object; a name that
is no text is dropped. -/
def ofFields (fields : Fields) : ToolCall :=
  let source :=
    match Json.field fields "function" with
    | .obj inner => inner
    | _ => fields
  { name := .str ((Json.field source "name").text?.getD "")
    arguments := Json.field source "arguments" }

def toJson (call : ToolCall) : Json :=
  .obj [("name", call.name), ("arguments", call.arguments)]

/-- The name to report, empty for one that is no text. -/
def label (call : ToolCall) : String := call.name.text?.getD ""

end ToolCall

end Sitewright
