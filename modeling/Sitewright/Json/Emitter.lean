import Sitewright.Json.Display
import Sitewright.Json.Error

namespace Sitewright.Json

/-- What has been written of a value, and why no more of it is. -/
structure Emitted where
  text : List Char
  halt? : Option Halt := none
  deriving Repr

def isInt : Json → Bool
  | .int _ => true
  | _ => false

namespace Emitted

def behind (before : List Char) (e : Emitted) : Emitted := { e with text := before ++ e.text }

def tooDeep : Emitted := ⟨[], some (.deep .written)⟩

end Emitted

mutual

/-- Writes a value piece by piece, with room for so many arrays and objects inside one another. -/
def emit (setting : Setting) (room depth : Nat) : Json → Emitted
  | .int n => if (int n).long?.isSome then ⟨[], some (.long .shown)⟩ else ⟨intText n, none⟩
  | .arr [] => if room = 0 then .tooDeep else ⟨['[', ']'], none⟩
  | .arr (item :: items) =>
    match room with
    | 0 => .tooDeep
    | room + 1 => emitItems setting room depth ('[' :: setting.opening depth) (item :: items)
  | .obj [] => if room = 0 then .tooDeep else ⟨['{', '}'], none⟩
  | .obj (field :: fields) =>
    match room with
    | 0 => .tooDeep
    | room + 1 => emitFields setting room depth ('{' :: setting.opening depth) (field :: fields)
  | atom => ⟨atomText atom, none⟩

/-- Writes items up to the closing bracket. What comes before an item is written with it, so that an
integer that is too long keeps that back. -/
def emitItems (setting : Setting) (room depth : Nat) (before : List Char) : List Json → Emitted
  | [] => ⟨setting.closing depth ++ [']'], none⟩
  | item :: items =>
    match emit setting room (depth + 1) item with
    | ⟨text, some halt⟩ => ⟨if item.isInt then [] else before ++ text, some halt⟩
    | ⟨text, none⟩ =>
      (emitItems setting room depth (setting.between depth) items).behind (before ++ text)

/-- Writes fields up to the closing brace. -/
def emitFields (setting : Setting) (room depth : Nat) (before : List Char) :
    List (String × Json) → Emitted
  | [] => ⟨setting.closing depth ++ ['}'], none⟩
  | (name, value) :: fields =>
    let start := before ++ stringText name ++ [':', ' ']
    match emit setting room (depth + 1) value with
    | ⟨text, some halt⟩ => ⟨start ++ text, some halt⟩
    | ⟨text, none⟩ =>
      (emitFields setting room depth (setting.between depth) fields).behind (start ++ text)

end

end Sitewright.Json
