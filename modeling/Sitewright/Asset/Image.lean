import Sitewright.Asset.Url
import Sitewright.Json.Display
import Sitewright.Text.Markup

namespace Sitewright

/-- An image as a tool call describes it; only the asset has to be there. -/
structure Image where
  asset : String
  alt : Json := .null
  className : Json := .null
  width : Json := .null
  height : Json := .null
  deriving Repr

namespace Image

/-- An attribute that is left out unless it is given. -/
def optional (name : String) (value : Json) : Except Text.LongInteger (List (String × String)) :=
  if value.truthy then value.shown.map fun text => [(name, text)] else .ok []

def attributes (image : Image) : Except Text.LongInteger (List (String × String)) := do
  let alt ← image.alt.shownOrEmpty
  let className ← optional "class" image.className
  let width ← optional "width" image.width
  let height ← optional "height" image.height
  return [("src", Asset.url image.asset), ("alt", alt)] ++ className ++ width ++ height

def tag (image : Image) : Except Text.LongInteger String :=
  image.attributes.map fun attributes => String.ofList (Text.emptyTag "img" attributes)

end Image

end Sitewright
