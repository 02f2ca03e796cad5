import Sitewright.Text.Integer
import Sitewright.Text.Lines

namespace Sitewright.Json

/-- What a text lacks to be JSON, at the place where reading stops. -/
inductive Fault where
  | value
  | name
  | colon
  | comma
  | closingQuote
  | control
  | escape
  | unicodeEscape
  | extra
  | byteOrderMark
  deriving Repr, DecidableEq

def Fault.message : Fault → String
  | .value => "Expecting value"
  | .name => "Expecting property name enclosed in double quotes"
  | .colon => "Expecting ':' delimiter"
  | .comma => "Expecting ',' delimiter"
  | .closingQuote => "Unterminated string starting at"
  | .control => "Invalid control character at"
  | .escape => "Invalid \\escape"
  | .unicodeEscape => "Invalid \\uXXXX escape"
  | .extra => "Extra data"
  | .byteOrderMark => "Unexpected UTF-8 BOM (decode using utf-8-sig)"

/-- A fault of a text, and its place. -/
structure Malformed where
  fault : Fault
  position : Text.Position
  deriving Repr, DecidableEq

def Malformed.message (e : Malformed) : String :=
  s!"{e.fault.message}: {e.position.message}"

/-- An array or an object inside so many others that there is no room for it, where values are read
or where they are written. -/
inductive TooDeep where
  | array
  | object
  | written
  deriving Repr, DecidableEq

def TooDeep.message : TooDeep → String
  | .array => "maximum recursion depth exceeded while decoding a JSON array from a unicode string"
  | .object => "maximum recursion depth exceeded while decoding a JSON object from a unicode string"
  | .written => "maximum recursion depth exceeded"

/-- What stops a program at a value with which nothing is wrong: an integer that is too long, or
more values inside one another than there is room for. -/
inductive Halt where
  | long (e : Text.LongInteger)
  | deep (e : TooDeep)
  deriving Repr, DecidableEq

def Halt.message : Halt → String
  | .long e => e.message
  | .deep e => e.message

/-- Why a text gives no value: it is not JSON, or reading it halts. -/
inductive ReadError where
  | malformed (e : Malformed)
  | halt (h : Halt)
  deriving Repr, DecidableEq

def ReadError.message : ReadError → String
  | .malformed e => e.message
  | .halt h => h.message

end Sitewright.Json
