import Sitewright.Text.Utf8
import Sitewright.Text.Utf32

namespace Sitewright.Text

/-- How characters are written as bytes. -/
inductive Encoding where
  | utf8
  | utf16 (order : ByteOrder)
  | utf32 (order : ByteOrder)
  deriving Repr, DecidableEq

inductive DecodeError where
  | utf8 (e : Utf8.Error)
  | utf16 (e : Utf16.Error)
  | utf32 (e : Utf32.Error)
  deriving Repr, DecidableEq

def DecodeError.message : DecodeError → String
  | utf8 e => e.message
  | utf16 e => e.message
  | utf32 e => e.message

namespace Encoding

/-- The bytes at the start of a text that name its encoding. A longer mark comes before the
shorter one that it begins with. -/
def marks : List (List UInt8 × Encoding) :=
  [([0x00, 0x00, 0xfe, 0xff], .utf32 .big), ([0xff, 0xfe, 0x00, 0x00], .utf32 .little),
    ([0xfe, 0xff], .utf16 .big), ([0xff, 0xfe], .utf16 .little), ([0xef, 0xbb, 0xbf], .utf8)]

/-- The encoding of an unmarked text that begins with ASCII characters: the zeros among its
first bytes show it. -/
def ofZeros : List UInt8 → Encoding
  | a :: b :: c :: d :: _ =>
    if a = 0 then if b = 0 then .utf32 .big else .utf16 .big
    else if b = 0 then if c = 0 ∧ d = 0 then .utf32 .little else .utf16 .little
    else .utf8
  | [a, b] => if a = 0 then .utf16 .big else if b = 0 then .utf16 .little else .utf8
  | _ => .utf8

/-- The encoding of a text, and how many bytes of it are a mark. -/
def detect (bytes : List UInt8) : Encoding × Nat :=
  match marks.find? fun m => m.1.isPrefixOf bytes with
  | some (mark, encoding) => (encoding, mark.length)
  | none => (ofZeros bytes, 0)

/-- Decodes a text in the encoding that it shows. Places in UTF-8 count from the end of the mark. -/
def decode (bytes : List UInt8) : Except DecodeError (List Char) :=
  let (encoding, mark) := detect bytes
  let unmarked := bytes.drop mark
  match encoding with
  | .utf8 => (Utf8.decodePassing unmarked).mapError .utf8
  | .utf16 order => (Utf16.decode order mark unmarked).mapError .utf16
  | .utf32 order => (Utf32.decode order mark unmarked).mapError .utf32

end Encoding

end Sitewright.Text
