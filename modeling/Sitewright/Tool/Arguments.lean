import Sitewright.Json.Display
import Sitewright.Json.Reader
import Sitewright.Site.Basic
import Sitewright.Text.Blank

namespace Sitewright

/-- Why a tool does not take the arguments that it is given. -/
inductive ArgumentFault where
  | notJson (e : Json.Malformed)
  | notObject
  | unsupported (given : Json)
  | path
  | content
  | placeholder
  | kind (given : Json)
  | asset
  deriving Repr

namespace ArgumentFault

def message : ArgumentFault → String
  | notJson e => s!"arguments are not valid JSON: {e.message}"
  | notObject => "arguments must decode to a JSON object"
  | unsupported given => s!"unsupported arguments type: {given.typeName}"
  | path => "\"path\" must be a string that starts with \"/\""
  | content => "\"content\" must be a string"
  | placeholder => "\"placeholder\" must be a non-empty string"
  | kind given =>
    let supported := String.intercalate ", " (Dynamic.all.map Dynamic.label)
    s!"unsupported type {given.literal} (supported: {supported})"
  | asset => "\"asset\" must be a non-empty string"

end ArgumentFault

/-- Arguments refused, by which tool and why. -/
structure InvalidArguments where
  tool : String
  fault : ArgumentFault
  deriving Repr

def InvalidArguments.message (e : InvalidArguments) : String := s!"{e.tool}: {e.fault.message}"

/-- Why no arguments can be had from a value. -/
inductive ArgumentsError where
  | fault (fault : ArgumentFault)
  | halt (h : Json.Halt)
  deriving Repr

@[match_pattern]
abbrev ArgumentsError.long (e : Text.LongInteger) : ArgumentsError := .halt (.long e)

/-- The arguments that a text spells: a blank text and null spell none. -/
def argumentsOfText (room : Nat) (text : String) : Except ArgumentsError Fields :=
  if text.toList.all Text.isBlank then .ok []
  else
    match Json.read room text with
    | .ok .null => .ok []
    | .ok (.obj fields) => .ok fields
    | .ok _ => .error (.fault .notObject)
    | .error (.malformed e) => .error (.fault (.notJson e))
    | .error (.halt h) => .error (.halt h)

/-- The arguments of a call as a model sends them: an object, or a text that spells one, read with
room for so many arrays and objects inside one another. -/
def arguments (room : Nat) : Json → Except ArgumentsError Fields
  | .null => .ok []
  | .obj fields => .ok fields
  | .str text => argumentsOfText room text
  | other => .error (.fault (.unsupported other))

end Sitewright
