import Sitewright.Json.Printer
import Sitewright.Text.Integer

namespace Sitewright.Json

def displaySpelling : Double.Spelling := ⟨"nan", "inf"⟩

/-- A value that holds no others, as people are shown it inside another. -/
def atomLiteral : Json → List Char
  | .null => "None".toList
  | .bool true => "True".toList
  | .bool false => "False".toList
  | .int n => intText n
  | .float x => x.text displaySpelling
  | .str s => Text.quotedChars s.toList
  | .arr _ => ['[', ']']
  | .obj _ => ['{', '}']

mutual

def literalChars : Json → List Char
  | .arr (item :: items) => '[' :: literalChars item ++ restOfItems items ++ [']']
  | .obj ((name, value) :: fields) =>
    '{' :: Text.quotedChars name.toList ++ ':' :: ' ' :: literalChars value ++
      restOfFields fields ++ ['}']
  | atom => atomLiteral atom

def restOfItems : List Json → List Char
  | [] => []
  | item :: items => ',' :: ' ' :: literalChars item ++ restOfItems items

def restOfFields : List (String × Json) → List Char
  | [] => []
  | (name, value) :: fields =>
    ',' :: ' ' :: Text.quotedChars name.toList ++ ':' :: ' ' :: literalChars value ++
      restOfFields fields

end

/-- A value as a message shows it, with quotes around a string. -/
def literal (v : Json) : String := String.ofList (literalChars v)

/-- A value as a page shows it: a string stands for itself. -/
def display : Json → String
  | .str s => s
  | other => other.literal

mutual

/-- How many digits the first integer inside a value has that has too many. -/
def long? : Json → Option Nat
  | .int n =>
    let digits := (Text.decimal n.natAbs).length
    if Text.maxDigits < digits then some digits else none
  | .arr items => itemsLong? items
  | .obj fields => fieldsLong? fields
  | _ => none

def itemsLong? : List Json → Option Nat
  | [] => none
  | item :: items => item.long?.or (itemsLong? items)

def fieldsLong? : List (String × Json) → Option Nat
  | [] => none
  | (_, value) :: fields => value.long?.or (fieldsLong? fields)

end

/-- Gives what is made of a value that has to be shown for it. -/
def showing {α : Type} (v : Json) (made : α) : Except Text.LongInteger α :=
  if v.long?.isSome then .error .shown else .ok made

/-- The text of a value that a page is to show. -/
def shown (v : Json) : Except Text.LongInteger String := v.showing v.display

/-- The text of a value that a page is to show, empty for null. -/
def shownOrEmpty (v : Json) : Except Text.LongInteger String :=
  if v.null? then .ok "" else v.shown

/-- What a message calls the kind of a value. -/
def typeName : Json → String
  | .null => "NoneType"
  | .bool _ => "bool"
  | .int _ => "int"
  | .float _ => "float"
  | .str _ => "str"
  | .arr _ => "list"
  | .obj _ => "dict"

/-- What a value that is given stands for, and nothing for one that is not. -/
def displayGiven (v : Json) : String := if v.truthy then v.display else ""

end Sitewright.Json
