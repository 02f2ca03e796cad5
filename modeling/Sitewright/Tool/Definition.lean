import Sitewright.Json.Value
import Sitewright.Site.Basic

namespace Sitewright

/-- A text that a tool takes; with choices it has to be one of them. -/
structure Parameter where
  name : String
  description : String
  choices : List String := []
  deriving Repr, DecidableEq

/-- A tool as the model is told of it: it takes these parameters and no others. -/
structure Definition where
  name : String
  description : String
  parameters : List Parameter
  required : List String
  deriving Repr, DecidableEq

def Parameter.toJson (p : Parameter) : Json :=
  .obj <|
    [("type", .str "string")] ++
      (if p.choices.isEmpty then [] else [("enum", .arr (p.choices.map .str))]) ++
      [("description", .str p.description)]

def Definition.toJson (d : Definition) : Json :=
  .obj
    [("name", .str d.name),
      ("description", .str d.description),
      ("parameters", .obj
        [("type", .str "object"),
          ("properties", .obj (d.parameters.map fun p => (p.name, p.toJson))),
          ("required", .arr (d.required.map .str)),
          ("additionalProperties", .bool false)])]

/-- The entry for a tool in a request to the model. -/
def Definition.entry (d : Definition) : Json :=
  .obj [("type", .str "function"), ("function", d.toJson)]

namespace Definition

def path : Parameter :=
  { name := "path", description := "The URL path of the page to modify." }

def createPage : Definition where
  name := "create_page"
  description :=
    "Create a page BODY at a specific URL path. Generate the HTML from the plain-English " ++
      "description. Do NOT include the shared header/footer; define those via set_layout(). " ++
      "The body may contain placeholders like \x7b\x7bCURRENT_TIME\x7d\x7d."
  parameters :=
    [{ name := "path"
       description := "The URL path to mount the page at, e.g. \"/\" or \"/about\"." },
      { name := "content"
        description :=
          "HTML for the page BODY (unique content only). Placeholders like " ++
            "\x7b\x7bCURRENT_TIME\x7d\x7d can be marked with add_dynamic_content." }]
  required := ["path", "content"]

def addDynamicContent : Definition where
  name := "add_dynamic_content"
  description :=
    "Mark a placeholder in a page as dynamic so it is replaced at request time. " ++
      "Only CURRENT_TIME is supported."
  parameters :=
    [path,
      { name := "placeholder"
        description :=
          "The exact placeholder text to replace, e.g. \"\x7b\x7bCURRENT_TIME\x7d\x7d\"." },
      { name := "type"
        description := "The dynamic type. Only CURRENT_TIME is supported."
        choices := Dynamic.all.map Dynamic.label }]
  required := ["path", "placeholder", "type"]

def addAsset : Definition where
  name := "add_asset"
  description :=
    "Insert an image from the local assets/ directory into a page BODY. " ++
      "Use a placeholder when precise placement is needed."
  parameters :=
    [path,
      { name := "asset"
        description :=
          "File name or relative path under assets/, e.g. \"test.png\" or \"images/test.png\"." },
      { name := "alt", description := "Alt text for accessibility." },
      { name := "placement"
        description := "Where to insert the asset. Default is append."
        choices := ["append", "prepend", "replace_placeholder"] },
      { name := "placeholder"
        description :=
          "With replace_placeholder, the exact text to replace, e.g. " ++
            "\"\x7b\x7bHERO_IMAGE\x7d\x7d\"." },
      { name := "className", description := "Optional CSS class name." },
      { name := "width", description := "Optional width attribute, e.g. \"600\"." },
      { name := "height", description := "Optional height attribute, e.g. \"400\"." }]
  required := ["path", "asset"]

def setLayout : Definition where
  name := "set_layout"
  description :=
    "Define the shared header and footer applied to all pages. Call once per site. " ++
      "Use create_page() for body content only."
  parameters :=
    [{ name := "header_html"
       description :=
         "HTML prepended to every page: document declaration, head metadata, " ++
           "title, opening body and navigation." },
      { name := "footer_html"
        description :=
          "HTML appended to every page: footer note, closing body and document end." }]
  required := []

end Definition

end Sitewright
