import Sitewright.Keyed

namespace Sitewright

/-- What wraps every page of a site. -/
structure Layout where
  header : String := ""
  footer : String := ""
  deriving Repr, DecidableEq, Inhabited

def Layout.isEmpty (l : Layout) : Bool := l.header == "" && l.footer == ""

/-- What a placeholder can stand for when a page is asked for. -/
inductive Dynamic where
  | currentTime
  deriving Repr, DecidableEq

namespace Dynamic

def all : List Dynamic := [currentTime]

def label : Dynamic → String
  | currentTime => "CURRENT_TIME"

def ofLabel? (label : String) : Option Dynamic := all.find? (·.label == label)

theorem ofLabel?_label (d : Dynamic) : ofLabel? d.label = some d := by
  cases d; rfl

end Dynamic

/-- A placeholder, and what takes its place at each request. -/
structure Rule where
  placeholder : String
  kind : Dynamic
  deriving Repr, DecidableEq

structure Page where
  content : String := ""
  rules : List Rule := []
  deriving Repr, DecidableEq, Inhabited

/-- The pages under their paths, in the order in which they came up, and their layout. -/
structure Site where
  pages : Named Page := []
  layout : Layout := {}
  deriving Repr, DecidableEq, Inhabited

/-- Where a piece of a page goes: at an end of the content, or in place of the first occurrence of
a text. -/
inductive Placement where
  | last
  | first
  | inPlaceOf (placeholder : String)
  deriving Repr, DecidableEq

/-- One change of a site. -/
inductive Edit where
  | content (path content : String)
  | rule (path : String) (rule : Rule)
  | fragment (path fragment : String) (placement : Placement)
  | layout (layout : Layout)
  deriving Repr, DecidableEq

end Sitewright
