import Sitewright.Asset.Image
import Sitewright.Tool.Arguments
import Sitewright.Tool.Definition

namespace Sitewright

/-- What a model can do to a site. -/
inductive Tool where
  | createPage
  | addDynamicContent
  | addAsset
  | setLayout
  deriving Repr, DecidableEq

namespace Tool

def all : List Tool := [createPage, addDynamicContent, addAsset, setLayout]

def definition : Tool → Definition
  | createPage => .createPage
  | addDynamicContent => .addDynamicContent
  | addAsset => .addAsset
  | setLayout => .setLayout

def name (tool : Tool) : String := tool.definition.name

def pathArgument (args : Fields) : Except ArgumentFault String :=
  match args.get? "path" with
  | some (.str path) => if path.toList.head? = some '/' then .ok path else .error .path
  | _ => .error .path

def textArgument (args : Fields) (name : String) (fault : ArgumentFault) :
    Except ArgumentFault String :=
  match args.get? name with
  | some (.str text) => .ok text
  | _ => .error fault

def nonEmptyArgument (args : Fields) (name : String) (fault : ArgumentFault) :
    Except ArgumentFault String :=
  match args.get? name with
  | some (.str text) => if text = "" then .error fault else .ok text
  | _ => .error fault

/-- What is to say the kind of a dynamic part: `type`, or `kind` where there is no `type`. -/
def kindGiven (args : Fields) : Json := (args.get? "type").getD (Json.field args "kind")

/-- The kind of a dynamic part. The complaint about one that there is not shows what was given. -/
def kindArgument (args : Fields) : Except ArgumentsError Dynamic :=
  match (kindGiven args).text?.bind Dynamic.ofLabel? with
  | some kind => .ok kind
  | none =>
    match (kindGiven args).showing (ArgumentFault.kind (kindGiven args)) with
    | .ok fault => .error (.fault fault)
    | .error e => .error (.long e)

/-- Where a fragment goes. A placeholder that is not a non-empty text cannot be replaced, and an
unknown placement means the default. -/
def placementArgument (args : Fields) : Placement :=
  match args.get? "placement", args.get? "placeholder" with
  | some (.str "replace_placeholder"), some (.str placeholder) =>
    if placeholder = "" then .last else .inPlaceOf placeholder
  | some (.str "prepend"), _ => .first
  | _, _ => .last

/-- The text of an argument, empty where it is missing or null. -/
def htmlArgument (args : Fields) (name : String) : Except Text.LongInteger String :=
  (Json.field args name).shownOrEmpty

def imageArgument (args : Fields) (asset : String) : Image where
  asset
  alt := Json.field args "alt"
  className := Json.field args "className"
  width := Json.field args "width"
  height := Json.field args "height"

/-- The change that a tool makes when it is given these arguments. -/
def edit (tool : Tool) (args : Fields) : Except ArgumentsError Edit := do
  match tool with
  | createPage =>
    let path ← (pathArgument args).mapError .fault
    let content ← (textArgument args "content" .content).mapError .fault
    return .content path content
  | addDynamicContent =>
    let path ← (pathArgument args).mapError .fault
    let placeholder ← (nonEmptyArgument args "placeholder" .placeholder).mapError .fault
    let kind ← kindArgument args
    return .rule path ⟨placeholder, kind⟩
  | addAsset =>
    let path ← (pathArgument args).mapError .fault
    let asset ← (nonEmptyArgument args "asset" .asset).mapError .fault
    let piece ← (imageArgument args asset).tag.mapError .long
    return .fragment path piece (placementArgument args)
  | setLayout =>
    let header ← (htmlArgument args "header_html").mapError .long
    let footer ← (htmlArgument args "footer_html").mapError .long
    return .layout ⟨header, footer⟩

end Tool

end Sitewright
