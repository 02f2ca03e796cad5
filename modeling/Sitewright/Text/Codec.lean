import Sitewright.Text.Digit
import Sitewright.Text.Utf16

namespace Sitewright.Text

/-- How a text is to be written as bytes. -/
inductive Codec where
  | ascii
  | utf8
  deriving Repr, DecidableEq

namespace Codec

/-- Whether there are bytes for a character. -/
def covers : Codec → Char → Bool
  | ascii, c => c.toNat < 0x80
  | utf8, c => !Utf16.isLone c

def name : Codec → String
  | ascii => "ascii"
  | utf8 => "utf-8"

def reason : Codec → String
  | ascii => "ordinal not in range(128)"
  | utf8 => "surrogates not allowed"

end Codec

/-- The first run of characters of a text for which there are no bytes. -/
structure Unencodable where
  codec : Codec
  first : Char
  position : Nat
  width : Nat
  deriving Repr, DecidableEq

def Codec.unencodable? (codec : Codec) (s : List Char) : Option Unencodable :=
  match s.dropWhile codec.covers with
  | [] => none
  | c :: rest =>
    let bad (c : Char) := !codec.covers c
    some ⟨codec, c, (s.takeWhile codec.covers).length, (rest.takeWhile bad).length + 1⟩

/-- A character by its number, as short as it can be written. -/
def numbered (c : Char) : List Char :=
  if c.toNat ≤ 0xff then '\\' :: 'x' :: hexPadded 2 c.toNat
  else if c.toNat ≤ 0xffff then '\\' :: 'u' :: hexPadded 4 c.toNat
  else if Utf16.isLone c then '\\' :: 'u' :: hexPadded 4 (c.toNat - Utf16.firstLone + 0xd800)
  else '\\' :: 'U' :: hexPadded 8 c.toNat

def Unencodable.message (e : Unencodable) : String :=
  let place :=
    if e.width = 1 then s!"character '{String.ofList (numbered e.first)}' in position {e.position}"
    else s!"characters in position {e.position}-{e.position + e.width - 1}"
  s!"'{e.codec.name}' codec can't encode {place}: {e.codec.reason}"

end Sitewright.Text
