import Sitewright.Keyed
import Sitewright.Number.Double

namespace Sitewright

/-- A JSON value. Whole numbers stay exact, and the fields of an object keep their order. -/
inductive Json where
  | null
  | bool (b : Bool)
  | int (n : Int)
  | float (x : Double)
  | str (s : String)
  | arr (items : List Json)
  | obj (fields : List (String × Json))
  deriving Repr, Inhabited

/-- What an object holds. -/
abbrev Fields := Named Json

namespace Json

def null? : Json → Bool
  | .null => true
  | _ => false

def text? : Json → Option String
  | .str s => some s
  | _ => none

def fields? : Json → Option Fields
  | .obj fields => some fields
  | _ => none

/-- Whether a value counts as given: null, false, zeros and whatever is empty do not. -/
def truthy : Json → Bool
  | .null => false
  | .bool b => b
  | .int n => n != 0
  | .float x => !x.isZero
  | .str s => s != ""
  | .arr items => !items.isEmpty
  | .obj fields => !fields.isEmpty

mutual

/-- Whether every number in a value is one that JSON has. -/
def isFinite : Json → Bool
  | .float x => x.isFinite
  | .arr items => allFinite items
  | .obj fields => fieldsFinite fields
  | _ => true

def allFinite : List Json → Bool
  | [] => true
  | item :: items => item.isFinite && allFinite items

def fieldsFinite : List (String × Json) → Bool
  | [] => true
  | (_, value) :: fields => value.isFinite && fieldsFinite fields

end

mutual

/-- How many arrays and objects stand inside one another in a value, that one included. -/
def depth : Json → Nat
  | .arr items => itemsDepth items + 1
  | .obj fields => fieldsDepth fields + 1
  | _ => 0

def itemsDepth : List Json → Nat
  | [] => 0
  | item :: items => max item.depth (itemsDepth items)

def fieldsDepth : List (String × Json) → Nat
  | [] => 0
  | (_, value) :: fields => max value.depth (fieldsDepth fields)

end

/-- The value of a field, null where there is none. -/
def field (fields : Fields) (name : String) : Json := (fields.get? name).getD .null

end Json

end Sitewright
