import Sitewright.Service.Basic

namespace Sitewright

/-- What keeps a value from being told as a text. -/
inductive TextFault where
  | notText
  | surrogate
  deriving Repr, DecidableEq

namespace TextFault

def code : TextFault → String
  | notText => "string_type"
  | surrogate => "string_unicode"

def message : TextFault → String
  | notText => "Input should be a valid string"
  | surrogate =>
    "Input should be a valid string, unable to parse raw data as a unicode string"

end TextFault

/-- A value that cannot be told, and its place among those that are told with it. -/
structure Untellable where
  place : String
  given : Json
  fault : TextFault
  deriving Repr

/-- Why what is to be told cannot be: some of its texts, the first of which stands apart, cannot. -/
structure ValidationError where
  title : String
  first : Untellable
  others : List Untellable := []
  deriving Repr

namespace Untellable

/-- The most bytes of a value that a message shows, and how many of them from its start and from
its end if they are more. -/
def maxShown : Nat := 50

/-- A text, without its middle if it takes too many bytes. -/
def shorten (s : List Char) : List Char :=
  let size (s : List Char) : Nat := (Text.Utf8.encode s).length
  let fits (limit : Nat) (s : List Char) : List Char :=
    ((List.range (s.length + 1)).map s.take |>.filter fun start => size start ≤ limit).getLastD []
  if size s ≤ maxShown then s
  else fits (maxShown / 2) s ++ ['.', '.', '.'] ++ (fits (maxShown / 2 - 1) s.reverse).reverse

/-- What a message shows of the value. -/
def shown (u : Untellable) : String :=
  if u.given.long?.isSome then s!"<unprintable {u.given.typeName} object>"
  else String.ofList (shorten u.given.literalChars)

/-- What a message says of the value; `manual` is where its faults are explained. -/
def lines (manual : String) (u : Untellable) : List String :=
  let given := s!"input_value={u.shown}, input_type={u.given.typeName}"
  [u.place,
    s!"  {u.fault.message} [type={u.fault.code}, {given}]",
    s!"    For further information visit {manual}{u.fault.code}"]

end Untellable

def ValidationError.message (manual : String) (e : ValidationError) : String :=
  let all := e.first :: e.others
  let counted :=
    if e.others.isEmpty then "1 validation error" else s!"{all.length} validation errors"
  String.intercalate "\n" (s!"{counted} for {e.title}" :: all.flatMap (Untellable.lines manual))

namespace Validation

def fault? : Json → Option TextFault
  | .str s => if s.toList.any Text.Utf16.isLone then some .surrogate else none
  | _ => some .notText

/-- The values that cannot be told. -/
def untellable (texts : List (String × Json)) : List Untellable :=
  texts.filterMap fun entry => (fault? entry.2).map fun fault => ⟨entry.1, entry.2, fault⟩

/-- Checks the values under their names in what is to be told, each of which has to be a text. -/
def check (title : String) (texts : List (String × Json)) : Except ValidationError Unit :=
  match untellable texts with
  | [] => .ok ()
  | first :: others => .error { title, first, others }

end Validation

end Sitewright
