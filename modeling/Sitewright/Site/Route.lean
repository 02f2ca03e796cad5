import Sitewright.Event
import Sitewright.Site.Clock
import Sitewright.Site.Edit

namespace Sitewright

/-- A page as it is served. -/
structure Route where
  path : String
  content : String
  rules : List Rule := []
  layout : Layout := {}
  deriving Repr, DecidableEq, Inhabited

/-- The text that takes a placeholder's place. -/
def Dynamic.value (now : Moment) : Dynamic → List Char
  | currentTime => now.shown

def Rule.apply (now : Moment) (content : List Char) (rule : Rule) : List Char :=
  Text.replaceAll rule.placeholder.toList (rule.kind.value now) content

/-- The content with every rule applied, in their order. -/
def applyRules (rules : List Rule) (now : Moment) (content : String) : String :=
  String.ofList (rules.foldl (Rule.apply now) content.toList)

def Layout.wrap (layout : Layout) (body : String) : String :=
  if layout.isEmpty then body else layout.header ++ body ++ layout.footer

def Route.render (route : Route) (now : Moment) : String :=
  route.layout.wrap (applyRules route.rules now route.content)

/-- The routes of a built site; no two have one path. -/
structure RouteTable where
  routes : List Route
  deriving Repr, DecidableEq, Inhabited

namespace RouteTable

def paths (table : RouteTable) : List String := table.routes.map (·.path)

def get? (table : RouteTable) (path : String) : Option Route :=
  table.routes.find? (·.path == path)

def size (table : RouteTable) : Nat := table.routes.length

end RouteTable

def diagnosticPath : String := "/"

/-- What a site without pages shows. -/
def diagnosticContent : String :=
  "<!doctype html><html><head><meta charset=\"utf-8\"><title>plainweb</title></head>" ++
    "<body><h1>Compilation produced no pages</h1>" ++
    "<p>Check the model API key and model name, or adjust app.txt.</p></body></html>"

namespace Site

def route (layout : Layout) (entry : String × Page) : Route :=
  { path := entry.1, content := entry.2.content, rules := entry.2.rules, layout }

/-- The routes of a site. One without pages has a single route that says so. -/
def routeTable (site : Site) : RouteTable :=
  if site.pages.isEmpty then
    ⟨[{ path := diagnosticPath, content := diagnosticContent, layout := site.layout }]⟩
  else ⟨site.pages.map (route site.layout)⟩

def routeEvents (site : Site) : List Event :=
  if site.pages.isEmpty then [.siteEmpty diagnosticPath] else []

end Site

end Sitewright
