import Sitewright.Json.Value
import Sitewright.Number.Shortest
import Sitewright.Text.Digit
import Sitewright.Text.Utf16

namespace Sitewright.Json

def doubleSpelling : Double.Spelling := ⟨"NaN", "Infinity"⟩

def unitText (n : Nat) : List Char := '\\' :: 'u' :: Text.hexPadded 4 n

/-- A character inside a string: what is not plain ASCII is escaped. -/
def escape (c : Char) : List Char :=
  if c = '"' then ['\\', '"']
  else if c = '\\' then ['\\', '\\']
  else if c = '\n' then ['\\', 'n']
  else if c = '\r' then ['\\', 'r']
  else if c = '\t' then ['\\', 't']
  else if c = '\x08' then ['\\', 'b']
  else if c = '\x0c' then ['\\', 'f']
  else if 0x20 ≤ c.toNat ∧ c.toNat ≤ 0x7e then [c]
  else if c.toNat < 0x10000 then unitText c.toNat
  else (Text.Utf16.surrogates c.toNat).flatMap unitText

def stringText (s : String) : List Char := '"' :: s.toList.flatMap escape ++ ['"']

def intText : Int → List Char
  | .ofNat n => Text.decimal n
  | .negSucc n => '-' :: Text.decimal (n + 1)

/-- The text of a value that holds no others. -/
def atomText : Json → List Char
  | .null => "null".toList
  | .bool true => "true".toList
  | .bool false => "false".toList
  | .int n => intText n
  | .float x => x.text doubleSpelling
  | .str s => stringText s
  | .arr _ => ['[', ']']
  | .obj _ => ['{', '}']

/-- How the parts of a value are set apart at a given depth: what follows an opening bracket, what
comes between two parts, and what precedes a closing bracket. -/
structure Setting where
  opening : Nat → List Char
  between : Nat → List Char
  closing : Nat → List Char

def lineAt (depth : Nat) : List Char := '\n' :: List.replicate (2 * depth) ' '

/-- Everything on one line. -/
def oneLine : Setting := ⟨fun _ => [], fun _ => [',', ' '], fun _ => []⟩

/-- A line for each part, two spaces in for each level. -/
def indented : Setting :=
  ⟨fun depth => lineAt (depth + 1), fun depth => ',' :: lineAt (depth + 1), lineAt⟩

mutual

def textWith (setting : Setting) (depth : Nat) : Json → List Char
  | .arr (item :: items) =>
    '[' :: setting.opening depth ++ textWith setting (depth + 1) item ++
      itemsText setting depth items ++ setting.closing depth ++ [']']
  | .obj ((name, value) :: fields) =>
    '{' :: setting.opening depth ++ stringText name ++ ':' :: ' ' ::
      textWith setting (depth + 1) value ++
      fieldsText setting depth fields ++ setting.closing depth ++ ['}']
  | atom => atomText atom

def itemsText (setting : Setting) (depth : Nat) : List Json → List Char
  | [] => []
  | item :: items =>
    setting.between depth ++ textWith setting (depth + 1) item ++ itemsText setting depth items

def fieldsText (setting : Setting) (depth : Nat) : List (String × Json) → List Char
  | [] => []
  | (name, value) :: fields =>
    setting.between depth ++ stringText name ++ ':' :: ' ' ::
      textWith setting (depth + 1) value ++ fieldsText setting depth fields

end

/-- The text of a value on one line. -/
def text (v : Json) : String := String.ofList (textWith oneLine 0 v)

def indentedText (v : Json) : String := String.ofList (textWith indented 0 v)

end Sitewright.Json
