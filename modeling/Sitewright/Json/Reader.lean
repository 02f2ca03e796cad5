import Sitewright.Json.Error
import Sitewright.Json.Value
import Sitewright.Text.Utf16

namespace Sitewright.Json

/-- Why reading stops, and for a fault the text that is left at its place. -/
inductive Stop where
  | fault (what : Fault) (rest : List Char)
  | halt (h : Halt)
  deriving Repr

def isBlank (c : Char) : Bool := c == ' ' || c == '\t' || c == '\n' || c == '\r'

def skipBlank (s : List Char) : List Char := s.dropWhile isBlank

/-- The character that a one-letter escape stands for. -/
def escaped? : Char → Option Char
  | '"' => some '"'
  | '\\' => some '\\'
  | '/' => some '/'
  | 'b' => some '\x08'
  | 'f' => some '\x0c'
  | 'n' => some '\n'
  | 'r' => some '\r'
  | 't' => some '\t'
  | _ => none

def codeUnit? (a b c d : Char) : Option Nat := do
  let a ← Text.hexValue? a
  let b ← Text.hexValue? b
  let c ← Text.hexValue? c
  let d ← Text.hexValue? d
  return ((a * 16 + b) * 16 + c) * 16 + d

/-- Reads up to the closing quote of the string that starts at `start`. An escape by number has
to be followed by something. -/
def readString (start : List Char) (t : Text.Utf16.Spelled) :
    List Char → Except Stop (String × List Char)
  | [] => .error (.fault .closingQuote start)
  | c :: rest =>
    if c = '"' then .ok (t.text, rest)
    else if c = '\\' then
      match rest with
      | [] => .error (.fault .closingQuote start)
      | 'u' :: a :: b :: c :: d :: after =>
        match codeUnit? a b c d, after.isEmpty with
        | some n, false => readString start (t.pushUnit n) after
        | _, _ => .error (.fault .unicodeEscape rest)
      | e :: after =>
        match escaped? e with
        | some c => readString start (t.push c) after
        | none =>
          if e = 'u' then .error (.fault .unicodeEscape rest)
          else .error (.fault .escape ('\\' :: rest))
    else if c.toNat < 0x20 then .error (.fault .control (c :: rest))
    else readString start (t.push c) rest

def wholePart : List Char → List Char × List Char
  | '0' :: rest => (['0'], rest)
  | s => s.span Char.isDigit

/-- The digits after a point; a point with no digit after it is left alone. -/
def fractionPart : List Char → List Char × List Char
  | '.' :: rest =>
    match rest.span Char.isDigit with
    | ([], _) => ([], '.' :: rest)
    | found => found
  | s => ([], s)

def exponentDigits (negative : Bool) (s : List Char) : Option (Int × List Char) :=
  match s.span Char.isDigit with
  | ([], _) => none
  | (digits, rest) =>
    let n : Int := Nat.ofDigitChars 10 digits 0
    some (if negative then -n else n, rest)

/-- The exponent; a mark with no digit after it is left alone. -/
def exponentPart (s : List Char) : Option (Int × List Char) :=
  match s with
  | mark :: rest =>
    if mark = 'e' ∨ mark = 'E' then
      match rest with
      | '-' :: digits => exponentDigits true digits
      | '+' :: digits => exponentDigits false digits
      | digits => exponentDigits false digits
    else none
  | [] => none

/-- Reads a number: with a fraction or an exponent it is a double, else an integer. -/
def readNumber (s : List Char) : Except Stop (Json × List Char) :=
  let (negative, unsigned) :=
    match s with
    | '-' :: rest => (true, rest)
    | rest => (false, rest)
  let (whole, afterWhole) := wholePart unsigned
  let (fraction, afterFraction) := fractionPart afterWhole
  let coefficient := Nat.ofDigitChars 10 (whole ++ fraction) 0
  if whole.isEmpty then .error (.fault .value s)
  else
    match exponentPart afterFraction with
    | some (exponent, rest) =>
      .ok (.float (.ofDecimal negative coefficient (exponent - fraction.length)), rest)
    | none =>
      if !fraction.isEmpty then
        .ok (.float (.ofDecimal negative coefficient (-fraction.length)), afterFraction)
      else if Text.maxDigits < whole.length then .error (.halt (.long (.read whole.length)))
      else .ok (.int (if negative then -coefficient else coefficient), afterFraction)

def words : List (List Char × Json) :=
  [("null".toList, .null), ("true".toList, .bool true), ("false".toList, .bool false),
    ("NaN".toList, .float .nan), ("Infinity".toList, .float (.infinite false)),
    ("-Infinity".toList, .float (.infinite true))]

def readWord? (s : List Char) : Option (Json × List Char) :=
  words.findSome? fun w => if w.1.isPrefixOf s then some (w.2, s.drop w.1.length) else none

mutual

/-- Reads one value from the front of a text, with room for so many arrays and objects inside one
another. Two steps for each character are enough. -/
def readValue : Nat → Nat → List Char → Except Stop (Json × List Char)
  | 0, _, s => .error (.fault .value s)
  | steps + 1, room, s =>
    match s with
    | '"' :: rest => (readString s {} rest).map fun r => (.str r.1, r.2)
    | '[' :: rest =>
      match room with
      | 0 => .error (.halt (.deep .array))
      | room + 1 =>
        match skipBlank rest with
        | ']' :: after => .ok (.arr [], after)
        | inside => (readItems steps room inside).map fun r => (.arr r.1, r.2)
    | '{' :: rest =>
      match room with
      | 0 => .error (.halt (.deep .object))
      | room + 1 =>
        match skipBlank rest with
        | '}' :: after => .ok (.obj [], after)
        | inside => (readFields steps room [] inside).map fun r => (.obj r.1, r.2)
    | _ =>
      match readWord? s with
      | some found => .ok found
      | none => readNumber s

def readItems : Nat → Nat → List Char → Except Stop (List Json × List Char)
  | 0, _, s => .error (.fault .value s)
  | steps + 1, room, s =>
    match readValue steps room s with
    | .error stop => .error stop
    | .ok (item, rest) =>
      match skipBlank rest with
      | ']' :: after => .ok ([item], after)
      | ',' :: after =>
        (readItems steps room (skipBlank after)).map fun r => (item :: r.1, r.2)
      | other => .error (.fault .comma other)

/-- Reads the fields of an object; a name that comes again takes the later value in its first
place. -/
def readFields : Nat → Nat → Fields → List Char → Except Stop (Fields × List Char)
  | 0, _, _, s => .error (.fault .name s)
  | steps + 1, room, done, s =>
    match s with
    | '"' :: inName =>
      match readString s {} inName with
      | .error stop => .error stop
      | .ok (name, rest) =>
        match skipBlank rest with
        | ':' :: rest =>
          match readValue steps room (skipBlank rest) with
          | .error stop => .error stop
          | .ok (value, rest) =>
            let done := done.put name value
            match skipBlank rest with
            | '}' :: after => .ok (done, after)
            | ',' :: after => readFields steps room done (skipBlank after)
            | other => .error (.fault .comma other)
        | other => .error (.fault .colon other)
    | other => .error (.fault .name other)

end

/-- Reads a whole text as one value. -/
def readWhole (room : Nat) (s : List Char) : Except Stop Json :=
  match readValue (2 * s.length + 2) room (skipBlank s) with
  | .error stop => .error stop
  | .ok (value, rest) =>
    match skipBlank rest with
    | [] => .ok value
    | more => .error (.fault .extra more)

/-- The error for a stop: a fault stands where the text that is left of the whole begins. -/
def Stop.toError (whole : List Char) : Stop → ReadError
  | .fault what rest =>
    .malformed ⟨what, .after (whole.take (whole.length - rest.length))⟩
  | .halt h => .halt h

def readChars (room : Nat) (s : List Char) : Except ReadError Json :=
  (readWhole room s).mapError (Stop.toError s)

/-- Reads a text, which must not begin with a byte order mark. -/
def read (room : Nat) (text : String) : Except ReadError Json :=
  if text.toList.head? = some '\ufeff' then .error (.malformed ⟨.byteOrderMark, .after []⟩)
  else readChars room text.toList

end Sitewright.Json
