import Sitewright.Text.Utf16

namespace Sitewright.Text.Utf32

inductive Reason where
  | unfinished
  | outside
  deriving Repr, DecidableEq

def Reason.message : Reason → String
  | .unfinished => "truncated data"
  | .outside => "code point not in range(0x110000)"

structure Error where
  order : ByteOrder
  bytes : BadBytes
  reason : Reason
  deriving Repr, DecidableEq

def Error.message (e : Error) : String :=
  e.bytes.message s!"utf-32-{e.order.label}" e.reason.message

def character (n : Nat) : Char :=
  if Utf16.isHighSurrogate n || Utf16.isLowSurrogate n then Utf16.lone n else Char.ofNat n

/-- Decodes bytes that begin at `position`. -/
def decode (order : ByteOrder) (position : Nat) : List UInt8 → Except Error (List Char)
  | [] => .ok []
  | a :: b :: c :: d :: rest =>
    let n := order.number [a, b, c, d]
    if n < 0x110000 then (decode order (position + 4) rest).map (character n :: ·)
    else .error ⟨order, ⟨a, position, 4⟩, .outside⟩
  | a :: rest => .error ⟨order, ⟨a, position, rest.length + 1⟩, .unfinished⟩

end Sitewright.Text.Utf32
