import Mathlib.Tactic.SplitIfs
import Sitewright.Proofs.Except
import Sitewright.Text.Utf8

namespace Sitewright.Text.Utf8

variable {a b d e : UInt8} {rest bytes : List UInt8} {c : Char} {s : List Char} {n more : Nat}

theorem isContinuation_iff : isContinuation b = true ↔ 0x80 ≤ b.toNat ∧ b.toNat ≤ 0xbf := by
  simp only [isContinuation, Bool.and_eq_true, decide_eq_true_eq, UInt8.le_iff_toNat_le,
    UInt8.reduceToNat]

/-- The second bytes that keep a character from having a shorter form, from being a surrogate and
from being beyond Unicode. -/
theorem isSecond_iff :
    isSecond a b = true ↔ (0x80 ≤ b.toNat ∧ b.toNat ≤ 0xbf) ∧
      (a.toNat = 0xe0 → 0xa0 ≤ b.toNat) ∧ (a.toNat = 0xed → b.toNat < 0xa0) ∧
      (a.toNat = 0xf0 → 0x90 ≤ b.toNat) ∧ (a.toNat = 0xf4 → b.toNat < 0x90) := by
  rw [isSecond, Bool.and_eq_true, isContinuation_iff]
  split_ifs <;>
    simp only [beq_iff_eq, ← UInt8.toNat_inj, UInt8.reduceToNat, decide_eq_true_eq,
      UInt8.le_iff_toNat_le, UInt8.lt_iff_toNat_lt, and_true] at * <;>
    omega

theorem piece_one (h : a.toNat < 0x80) : piece a rest = .char (Char.ofNat a.toNat) 0 := by
  rw [piece.eq_def, if_pos (UInt8.lt_iff_toNat_lt.2 h)]

theorem piece_two (hl : 0xc2 ≤ a.toNat) (hu : a.toNat < 0xe0) (hb : isSecond a b = true) :
    piece a (b :: rest) = .char (Char.ofNat (a.toNat % 32 * 64 + low b)) 1 := by
  have hlt (k : UInt8) : a < k ↔ a.toNat < k.toNat := UInt8.lt_iff_toNat_lt
  simp only [piece, hlt, UInt8.reduceToNat, hb, if_true]
  rw [if_neg (by omega), if_neg (by omega), if_pos (by omega)]

theorem piece_three (hl : 0xe0 ≤ a.toNat) (hu : a.toNat < 0xf0) (hb : isSecond a b = true)
    (hd : isContinuation d = true) :
    piece a (b :: d :: rest) =
      .char (Char.ofNat ((a.toNat % 16 * 64 + low b) * 64 + low d)) 2 := by
  have hlt (k : UInt8) : a < k ↔ a.toNat < k.toNat := UInt8.lt_iff_toNat_lt
  simp only [piece, hlt, UInt8.reduceToNat, hb, hd, if_true, Bool.not_true, Bool.false_eq_true,
    if_false]
  rw [if_neg (by omega), if_neg (by omega), if_neg (by omega), if_pos (by omega)]

theorem piece_four (hl : 0xf0 ≤ a.toNat) (hu : a.toNat < 0xf5) (hb : isSecond a b = true)
    (hd : isContinuation d = true) (he : isContinuation e = true) :
    piece a (b :: d :: e :: rest) =
      .char (Char.ofNat (((a.toNat % 8 * 64 + low b) * 64 + low d) * 64 + low e)) 3 := by
  have hlt (k : UInt8) : a < k ↔ a.toNat < k.toNat := UInt8.lt_iff_toNat_lt
  simp only [piece, hlt, UInt8.reduceToNat, hb, hd, he, if_true, Bool.not_true,
    Bool.false_eq_true, if_false]
  rw [if_neg (by omega), if_neg (by omega), if_neg (by omega), if_neg (by omega),
    if_pos (by omega)]

/-- The bytes of a character are read as that character, whatever comes after them. -/
theorem piece_encode (c : Char) :
    ∃ a tail, String.utf8EncodeChar c = a :: tail ∧
      ∀ after, piece a (tail ++ after) = .char c tail.length := by
  have hv : c.toNat < 0xd800 ∨ 0xdfff < c.toNat ∧ c.toNat < 0x110000 := c.valid
  have hc : c.val.toNat = c.toNat := rfl
  have hbyte {n : Nat} (h : n < 256) : (UInt8.ofNat n).toNat = n := UInt8.toNat_ofNat_of_lt' h
  rw [String.utf8EncodeChar.eq_def, hc]
  dsimp only
  split_ifs with h₁ h₂ h₃
  · refine ⟨_, _, rfl, fun after => ?_⟩
    rw [piece_one (by rw [hbyte (by omega)]; omega), hbyte (by omega), Char.ofNat_toNat]
    rfl
  · refine ⟨_, _, rfl, fun after => ?_⟩
    have hlead := hbyte (n := c.toNat / 64 % 32 + 192) (by omega)
    have hlast := hbyte (n := c.toNat % 64 + 128) (by omega)
    have hn : (c.toNat / 64 % 32 + 192) % 32 * 64 + (c.toNat % 64 + 128) % 64 = c.toNat := by
      omega
    rw [List.singleton_append, piece_two (by omega) (by omega) (isSecond_iff.2 (by omega)), low,
      hlead, hlast, hn, Char.ofNat_toNat]
    rfl
  · refine ⟨_, _, rfl, fun after => ?_⟩
    have hlead := hbyte (n := c.toNat / 4096 % 16 + 224) (by omega)
    have hsecond := hbyte (n := c.toNat / 64 % 64 + 128) (by omega)
    have hlast := hbyte (n := c.toNat % 64 + 128) (by omega)
    have hn : ((c.toNat / 4096 % 16 + 224) % 16 * 64 + (c.toNat / 64 % 64 + 128) % 64) * 64 +
        (c.toNat % 64 + 128) % 64 = c.toNat := by omega
    rw [List.cons_append, List.singleton_append, piece_three (by omega) (by omega)
      (isSecond_iff.2 (by omega)) (isContinuation_iff.2 (by omega)), low, low, hlead, hsecond,
      hlast, hn, Char.ofNat_toNat]
    rfl
  · refine ⟨_, _, rfl, fun after => ?_⟩
    have hlead := hbyte (n := c.toNat / 262144 % 8 + 240) (by omega)
    have hsecond := hbyte (n := c.toNat / 4096 % 64 + 128) (by omega)
    have hthird := hbyte (n := c.toNat / 64 % 64 + 128) (by omega)
    have hlast := hbyte (n := c.toNat % 64 + 128) (by omega)
    have hn : (((c.toNat / 262144 % 8 + 240) % 8 * 64 + (c.toNat / 4096 % 64 + 128) % 64) * 64 +
        (c.toNat / 64 % 64 + 128) % 64) * 64 + (c.toNat % 64 + 128) % 64 = c.toNat := by omega
    rw [List.cons_append, List.cons_append, List.singleton_append, piece_four (by omega)
      (by omega) (isSecond_iff.2 (by omega)) (isContinuation_iff.2 (by omega))
      (isContinuation_iff.2 (by omega)), low, low, low, hlead, hsecond, hthird, hlast, hn,
      Char.ofNat_toNat]
    rfl

theorem utf8EncodeChar_ofNat {n : Nat} (h : n.isValidChar) :
    String.utf8EncodeChar (Char.ofNat n) =
      if n ≤ 0x7f then [UInt8.ofNat n]
      else if n ≤ 0x7ff then [UInt8.ofNat (n / 64 % 32 + 192), UInt8.ofNat (n % 64 + 128)]
      else if n ≤ 0xffff then
        [UInt8.ofNat (n / 4096 % 16 + 224), UInt8.ofNat (n / 64 % 64 + 128),
          UInt8.ofNat (n % 64 + 128)]
      else
        [UInt8.ofNat (n / 262144 % 8 + 240), UInt8.ofNat (n / 4096 % 64 + 128),
          UInt8.ofNat (n / 64 % 64 + 128), UInt8.ofNat (n % 64 + 128)] := by
  have hn : (Char.ofNat n).val.toNat = n := by
    rw [Char.ofNat, dif_pos h]
    rfl
  rw [String.utf8EncodeChar.eq_def, hn]

theorem ofNat_eq (h : n = b.toNat) : UInt8.ofNat n = b := h ▸ UInt8.ofNat_toNat

theorem encode_two (hl : 0xc2 ≤ a.toNat) (hu : a.toNat < 0xe0) (hb : isSecond a b = true) :
    String.utf8EncodeChar (Char.ofNat (a.toNat % 32 * 64 + low b)) = [a, b] := by
  rw [isSecond_iff] at hb
  rw [low, utf8EncodeChar_ofNat (.inl (by omega)), if_neg (by omega), if_pos (by omega),
    ofNat_eq (b := a) (by omega), ofNat_eq (b := b) (by omega)]

theorem encode_three (hl : 0xe0 ≤ a.toNat) (hu : a.toNat < 0xf0) (hb : isSecond a b = true)
    (hd : isContinuation d = true) :
    String.utf8EncodeChar (Char.ofNat ((a.toNat % 16 * 64 + low b) * 64 + low d)) =
      [a, b, d] := by
  rw [isSecond_iff] at hb
  rw [isContinuation_iff] at hd
  have hv : ((a.toNat % 16 * 64 + b.toNat % 64) * 64 + d.toNat % 64).isValidChar := by
    rw [Nat.isValidChar]
    omega
  rw [low, low, utf8EncodeChar_ofNat hv, if_neg (by omega), if_neg (by omega), if_pos (by omega),
    ofNat_eq (b := a) (by omega), ofNat_eq (b := b) (by omega), ofNat_eq (b := d) (by omega)]

theorem encode_four (hl : 0xf0 ≤ a.toNat) (hu : a.toNat < 0xf5) (hb : isSecond a b = true)
    (hd : isContinuation d = true) (he : isContinuation e = true) :
    String.utf8EncodeChar
        (Char.ofNat (((a.toNat % 8 * 64 + low b) * 64 + low d) * 64 + low e)) = [a, b, d, e] := by
  rw [isSecond_iff] at hb
  rw [isContinuation_iff] at hd he
  have hv : (((a.toNat % 8 * 64 + b.toNat % 64) * 64 + d.toNat % 64) * 64 +
      e.toNat % 64).isValidChar := by
    rw [Nat.isValidChar]
    omega
  rw [low, low, low, utf8EncodeChar_ofNat hv, if_neg (by omega), if_neg (by omega),
    if_neg (by omega), ofNat_eq (b := a) (by omega), ofNat_eq (b := b) (by omega),
    ofNat_eq (b := d) (by omega), ofNat_eq (b := e) (by omega)]

/-- What is read as a character is the bytes of that character. -/
theorem encode_of_piece (h : piece a rest = .char c more) :
    ∃ tail after, rest = tail ++ after ∧ tail.length = more ∧
      String.utf8EncodeChar c = a :: tail := by
  have hlt (k : UInt8) : a < k ↔ a.toNat < k.toNat := UInt8.lt_iff_toNat_lt
  simp only [piece, hlt, UInt8.reduceToNat, Bool.not_eq_true', Bool.eq_false_iff, ne_eq,
    ite_not] at h
  split_ifs at h with h₁ h₂ h₃ h₄ h₅
  · cases h
    refine ⟨[], rest, rfl, rfl, ?_⟩
    rw [utf8EncodeChar_ofNat (.inl (by omega)), if_pos (by omega), ofNat_eq rfl]
  · split at h
    · cases h
    · next b after =>
      split_ifs at h with hb
      cases h
      exact ⟨[b], after, rfl, rfl, encode_two (by omega) h₃ hb⟩
  · split at h
    · cases h
    · next b _ =>
      split_ifs at h with hb
      split at h
      · cases h
      · next d after =>
        split_ifs at h with hd
        cases h
        exact ⟨[b, d], after, rfl, rfl, encode_three (by omega) h₄ hb hd⟩
  · split at h
    · cases h
    · next b _ =>
      split_ifs at h with hb
      split at h
      · cases h
      · next d _ =>
        split_ifs at h with hd
        split at h
        · cases h
        · next e after =>
          split_ifs at h with he
          cases h
          exact ⟨[b, d, e], after, rfl, rfl, encode_four (by omega) h₅ hb hd he⟩

@[simp] theorem encode_cons (c : Char) (s : List Char) :
    encode (c :: s) = String.utf8EncodeChar c ++ encode s := List.flatMap_cons

/-- The bytes that a character has covered are passed over. -/
theorem decodeFrom_covered (position : Nat) (tail bytes : List UInt8) :
    decodeFrom piece position tail.length (tail ++ bytes) =
      decodeFrom piece (position + tail.length) 0 bytes := by
  induction tail generalizing position with
  | nil => rfl
  | cons a tail ih =>
    rw [List.length_cons, List.cons_append, decodeFrom, ih, Nat.add_right_comm, Nat.add_assoc]

theorem decodeLossyFrom_covered (tail bytes : List UInt8) :
    decodeLossyFrom tail.length (tail ++ bytes) = decodeLossyFrom 0 bytes := by
  induction tail with
  | nil => rfl
  | cons a tail ih => rw [List.length_cons, List.cons_append, decodeLossyFrom, ih]

theorem decodeFrom_of_piece {tail : List UInt8} (position : Nat)
    (h : piece a (tail ++ bytes) = .char c tail.length) :
    decodeFrom piece position 0 (a :: (tail ++ bytes)) =
      (decodeFrom piece (position + 1 + tail.length) 0 bytes).map (c :: ·) := by
  rw [decodeFrom, h]
  dsimp only
  rw [decodeFrom_covered]

/-- Every text is read back from its bytes. -/
theorem decodeFrom_encode (s : List Char) (position : Nat) :
    decodeFrom piece position 0 (encode s) = .ok s := by
  induction s generalizing position with
  | nil => rfl
  | cons c s ih =>
    obtain ⟨a, tail, he, hp⟩ := piece_encode c
    rw [encode_cons, he, List.cons_append, decodeFrom_of_piece position (hp _), ih]
    rfl

theorem decodeFrom_cons_eq_ok {position : Nat}
    (h : decodeFrom piece position 0 (a :: rest) = .ok s) :
    ∃ c tail after s', rest = tail ++ after ∧ String.utf8EncodeChar c = a :: tail ∧ s = c :: s' ∧
      decodeFrom piece (position + 1 + tail.length) 0 after = .ok s' := by
  cases hp : piece a rest with
  | bad width reason =>
    rw [decodeFrom, hp] at h
    cases h
  | char c more =>
    obtain ⟨tail, after, rfl, rfl, he⟩ := encode_of_piece hp
    rw [decodeFrom_of_piece position hp] at h
    obtain ⟨s', hs, rfl⟩ := map_eq_ok_iff.1 h
    exact ⟨c, tail, after, s', rfl, he, rfl, hs⟩

theorem encode_of_decodeFrom {position : Nat} (h : decodeFrom piece position 0 bytes = .ok s) :
    bytes = encode s := by
  induction s generalizing bytes position with
  | nil =>
    match bytes with
    | [] => rfl
    | a :: rest =>
      obtain ⟨_, _, _, _, _, _, hs, _⟩ := decodeFrom_cons_eq_ok h
      cases hs
  | cons c s ih =>
    match bytes with
    | [] => cases h
    | a :: rest =>
      obtain ⟨_, tail, after, _, rfl, he, hs, hd⟩ := decodeFrom_cons_eq_ok h
      cases hs
      rw [encode_cons, he, ih hd, List.cons_append]

/-- Bytes are read as a text just if they are the bytes of that text. -/
theorem decode_eq_ok_iff : decode bytes = .ok s ↔ bytes = encode s := by
  constructor
  · exact encode_of_decodeFrom
  · rintro rfl
    exact decodeFrom_encode s 0

theorem decodeLossy_encode (s : List Char) : decodeLossy (encode s) = s := by
  rw [decodeLossy]
  induction s with
  | nil => rfl
  | cons c s ih =>
    obtain ⟨a, tail, he, hp⟩ := piece_encode c
    rw [encode_cons, he, List.cons_append, decodeLossyFrom, hp]
    dsimp only
    rw [decodeLossyFrom_covered, ih]

end Sitewright.Text.Utf8
