namespace Sitewright.Text

/-- Which byte of a wide unit comes first. -/
inductive ByteOrder where
  | little
  | big
  deriving Repr, DecidableEq

namespace ByteOrder

def label : ByteOrder → String
  | little => "le"
  | big => "be"

/-- The number that the bytes of a unit spell. -/
def number : ByteOrder → List UInt8 → Nat
  | little, bytes => bytes.foldr (fun b n => b.toNat + 256 * n) 0
  | big, bytes => bytes.foldl (fun n b => 256 * n + b.toNat) 0

end ByteOrder

/-- Bytes that stand for no text: the first of them, its place, and how many there are. -/
structure BadBytes where
  first : UInt8
  position : Nat
  width : Nat
  deriving Repr, DecidableEq

def hexByte (b : UInt8) : String :=
  String.ofList ((Nat.toDigits 16 b.toNat).leftpad 2 '0')

def BadBytes.message (bad : BadBytes) (codec reason : String) : String :=
  let place :=
    if bad.width = 1 then s!"byte 0x{hexByte bad.first} in position {bad.position}"
    else s!"bytes in position {bad.position}-{bad.position + bad.width - 1}"
  s!"'{codec}' codec can't decode {place}: {reason}"

end Sitewright.Text
