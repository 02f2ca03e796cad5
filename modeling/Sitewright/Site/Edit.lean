import Sitewright.Site.Basic
import Sitewright.Text.Replace

namespace Sitewright

/-- The text with a fragment at its place; a text without the placeholder stays as it is. -/
def Placement.place (fragment content : String) : Placement → String
  | last => content ++ fragment
  | first => fragment ++ content
  | inPlaceOf placeholder =>
    String.ofList
      (Text.replaceFirst placeholder.toList fragment.toList content.toList)

namespace Edit

/-- The path of the page that an edit changes. -/
def path? : Edit → Option String
  | content path _ | rule path _ | fragment path _ _ => some path
  | layout _ => none

/-- What an edit makes of its page. -/
def onPage : Edit → Page → Page
  | content _ text, page => { page with content := text }
  | rule _ added, page => { page with rules := page.rules ++ [added] }
  | fragment _ piece placement, page =>
    { page with content := placement.place piece page.content }
  | layout _, page => page

def onLayout : Edit → Layout → Layout
  | layout new, _ => new
  | _, old => old

end Edit

namespace Site

/-- The site with what `f` makes of the page at a path; a page that is not there starts blank. -/
def alterPage (path : String) (f : Page → Page) (site : Site) : Site :=
  { site with pages := site.pages.alter path fun page => f (page.getD {}) }

/-- The site with a page at a path. -/
def ensurePage (path : String) (site : Site) : Site := site.alterPage path id

def page? (site : Site) (path : String) : Option Page := site.pages.get? path

def apply (site : Site) (edit : Edit) : Site :=
  match edit.path? with
  | some path => site.alterPage path edit.onPage
  | none => { site with layout := edit.onLayout site.layout }

def applyAll (site : Site) (edits : List Edit) : Site := edits.foldl apply site

end Site

end Sitewright
