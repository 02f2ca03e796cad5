import Sitewright.Text.Utf16

namespace Sitewright.Text.Utf8

inductive Reason where
  | startByte
  | continuation
  | truncated
  deriving Repr, DecidableEq

/-- The bytes at which decoding stops. -/
structure Error where
  bytes : BadBytes
  reason : Reason
  deriving Repr, DecidableEq

/-- What the bytes at one place stand for: a character that takes `more` bytes after the first, or
`width` bytes that stand for nothing. -/
inductive Piece where
  | char (c : Char) (more : Nat)
  | bad (width : Nat) (reason : Reason)
  deriving Repr, DecidableEq

def isContinuation (b : UInt8) : Bool := 0x80 ≤ b && b ≤ 0xbf

/-- The second bytes that may follow a first byte: some would spell a character that has a
shorter form, a surrogate, or nothing in Unicode. -/
def isSecond (first second : UInt8) : Bool :=
  isContinuation second &&
    (if first == 0xe0 then 0xa0 ≤ second
     else if first == 0xed then second < 0xa0
     else if first == 0xf0 then 0x90 ≤ second
     else if first == 0xf4 then second < 0x90
     else true)

def low (b : UInt8) : Nat := b.toNat % 64

/-- Reads the character that starts with the byte `a`. -/
def piece (a : UInt8) (rest : List UInt8) : Piece :=
  if a < 0x80 then .char (Char.ofNat a.toNat) 0
  else if a < 0xc2 then .bad 1 .startByte
  else if a < 0xe0 then
    match rest with
    | [] => .bad 1 .truncated
    | b :: _ =>
      if isSecond a b then .char (Char.ofNat (a.toNat % 32 * 64 + low b)) 1
      else .bad 1 .continuation
  else if a < 0xf0 then
    match rest with
    | [] => .bad 1 .truncated
    | b :: rest =>
      if !isSecond a b then .bad 1 .continuation
      else
        match rest with
        | [] => .bad 2 .truncated
        | c :: _ =>
          if isContinuation c then
            .char (Char.ofNat ((a.toNat % 16 * 64 + low b) * 64 + low c)) 2
          else .bad 2 .continuation
  else if a < 0xf5 then
    match rest with
    | [] => .bad 1 .truncated
    | b :: rest =>
      if !isSecond a b then .bad 1 .continuation
      else
        match rest with
        | [] => .bad 2 .truncated
        | c :: rest =>
          if !isContinuation c then .bad 2 .continuation
          else
            match rest with
            | [] => .bad 3 .truncated
            | d :: _ =>
              if isContinuation d then
                .char (Char.ofNat (((a.toNat % 8 * 64 + low b) * 64 + low c) * 64 + low d)) 3
              else .bad 3 .continuation
  else .bad 1 .startByte

/-- Reads the character that starts with the byte `a`, which may be a surrogate. -/
def pieceOrSurrogate (a : UInt8) (rest : List UInt8) : Piece :=
  match rest with
  | b :: c :: _ =>
    if a = 0xed ∧ 0xa0 ≤ b ∧ isContinuation b ∧ isContinuation c then
      .char (Utf16.lone (0xd000 + low b * 64 + low c)) 2
    else piece a rest
  | _ => piece a rest

/-- Decodes from `position` on; the first `covered` bytes belong to the character before. -/
def decodeFrom (piece : UInt8 → List UInt8 → Piece) (position covered : Nat) :
    List UInt8 → Except Error (List Char)
  | [] => .ok []
  | a :: rest =>
    match covered with
    | k + 1 => decodeFrom piece (position + 1) k rest
    | 0 =>
      match piece a rest with
      | .char c more => (decodeFrom piece (position + 1) more rest).map (c :: ·)
      | .bad width reason => .error ⟨⟨a, position, width⟩, reason⟩

def decode (bytes : List UInt8) : Except Error (List Char) := decodeFrom piece 0 0 bytes

/-- Decodes a text that may have surrogates in it. -/
def decodePassing (bytes : List UInt8) : Except Error (List Char) :=
  decodeFrom pieceOrSurrogate 0 0 bytes

/-- The character that stands for bytes which are no text. -/
def replacement : Char := '\ufffd'

def decodeLossyFrom (covered : Nat) : List UInt8 → List Char
  | [] => []
  | a :: rest =>
    match covered with
    | k + 1 => decodeLossyFrom k rest
    | 0 =>
      match piece a rest with
      | .char c more => c :: decodeLossyFrom more rest
      | .bad width _ => replacement :: decodeLossyFrom (width - 1) rest

/-- Decodes with a replacement character for each run of bytes that is no text. -/
def decodeLossy (bytes : List UInt8) : List Char := decodeLossyFrom 0 bytes

def encode (s : List Char) : List UInt8 := s.flatMap String.utf8EncodeChar

def Reason.message : Reason → String
  | .startByte => "invalid start byte"
  | .continuation => "invalid continuation byte"
  | .truncated => "unexpected end of data"

def Error.message (e : Error) : String :=
  e.bytes.message "utf-8" e.reason.message

end Sitewright.Text.Utf8
