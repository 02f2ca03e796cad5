import Sitewright.Text.Unit

namespace Sitewright.Text.Utf16

def isHighSurrogate (n : Nat) : Bool := 0xd800 ≤ n && n < 0xdc00

def isLowSurrogate (n : Nat) : Bool := 0xdc00 ≤ n && n < 0xe000

def joinSurrogates (high low : Nat) : Char :=
  Char.ofNat (0x10000 + (high - 0xd800) * 0x400 + (low - 0xdc00))

/-- A character above the basic plane as its pair of surrogates. -/
def surrogates (n : Nat) : List Nat :=
  [0xd800 + (n - 0x10000) / 0x400, 0xdc00 + (n - 0x10000) % 0x400]

/-- The first character that stands for a surrogate without its partner. Such a surrogate may come
in a text, although it is no character; the last characters of Unicode, all of them for private
use, are taken for the surrogates in their order. -/
def firstLone : Nat := 0x10f800

def lone (n : Nat) : Char := Char.ofNat (firstLone + (n - 0xd800))

def isLone (c : Char) : Bool := firstLone ≤ c.toNat

/-- The characters read so far, last first, and a high surrogate that waits for its partner. -/
structure Spelled where
  done : List Char := []
  high : Option Nat := none

namespace Spelled

def settle (t : Spelled) : List Char :=
  match t.high with
  | some high => lone high :: t.done
  | none => t.done

def push (t : Spelled) (c : Char) : Spelled := ⟨c :: t.settle, none⟩

def pushUnit (t : Spelled) (n : Nat) : Spelled :=
  match t.high with
  | some high =>
    if isLowSurrogate n then ⟨joinSurrogates high n :: t.done, none⟩
    else if isHighSurrogate n then ⟨lone high :: t.done, some n⟩
    else ⟨Char.ofNat n :: lone high :: t.done, none⟩
  | none =>
    if isHighSurrogate n then ⟨t.done, some n⟩
    else if isLowSurrogate n then ⟨lone n :: t.done, none⟩
    else ⟨Char.ofNat n :: t.done, none⟩

def toList (t : Spelled) : List Char := t.settle.reverse

def text (t : Spelled) : String := String.ofList t.toList

end Spelled

/-- A byte at the end that is half a unit. -/
structure Error where
  order : ByteOrder
  byte : UInt8
  position : Nat
  deriving Repr, DecidableEq

def Error.message (e : Error) : String :=
  BadBytes.message ⟨e.byte, e.position, 1⟩ s!"utf-16-{e.order.label}" "truncated data"

/-- Reads the units from `position` on. -/
def unitsFrom (order : ByteOrder) (position : Nat) : List UInt8 → Except Error (List Nat)
  | [] => .ok []
  | [b] => .error ⟨order, b, position⟩
  | a :: b :: rest => (unitsFrom order (position + 2) rest).map (order.number [a, b] :: ·)

def ofUnits (units : List Nat) : List Char := (units.foldl Spelled.pushUnit {}).toList

/-- Decodes bytes that begin at `position`. -/
def decode (order : ByteOrder) (position : Nat) (bytes : List UInt8) :
    Except Error (List Char) :=
  (unitsFrom order position bytes).map ofUnits

end Sitewright.Text.Utf16
