import Sitewright.Json.Printer
import Sitewright.Json.Reader
import Sitewright.Proofs.Text.Digit

namespace Sitewright.Text.Utf16

variable {c : Char} {n : Nat}

theorem not_surrogate (c : Char) :
    isHighSurrogate c.toNat = false ∧ isLowSurrogate c.toNat = false := by
  have hv : c.toNat < 0xd800 ∨ 0xdfff < c.toNat ∧ c.toNat < 0x110000 := c.valid
  simp only [isHighSurrogate, isLowSurrogate, Bool.and_eq_false_iff, decide_eq_false_iff_not]
  omega

/-- The pair of a character above the basic plane, and the character that it makes. -/
theorem surrogates_eq (h : 0x10000 ≤ c.toNat) :
    ∃ high low, surrogates c.toNat = [high, low] ∧ isHighSurrogate high = true ∧
      isLowSurrogate low = true ∧ joinSurrogates high low = c := by
  have hv : c.toNat < 0xd800 ∨ 0xdfff < c.toNat ∧ c.toNat < 0x110000 := c.valid
  refine ⟨_, _, rfl, ?_, ?_, ?_⟩
  · simp only [isHighSurrogate, Bool.and_eq_true, decide_eq_true_eq]
    omega
  · simp only [isLowSurrogate, Bool.and_eq_true, decide_eq_true_eq]
    omega
  · have hn : 0x10000 + (0xd800 + (c.toNat - 0x10000) / 0x400 - 0xd800) * 0x400 +
        (0xdc00 + (c.toNat - 0x10000) % 0x400 - 0xdc00) = c.toNat := by omega
    rw [joinSurrogates, hn, Char.ofNat_toNat]

namespace Spelled

variable {t : Spelled}

theorem settle_eq (h : t.high = none) : t.settle = t.done := by
  rw [settle, h]

theorem pushUnit_eq (h : t.high = none) (c : Char) : t.pushUnit c.toNat = t.push c := by
  obtain ⟨hh, hl⟩ := not_surrogate c
  simp only [pushUnit, h, hh, hl, push, settle_eq h, Char.ofNat_toNat, Bool.false_eq_true,
    if_false]

theorem pushUnit_pair {high low : Nat} (h : t.high = none) (hh : isHighSurrogate high = true)
    (hl : isLowSurrogate low = true) :
    (t.pushUnit high).pushUnit low = t.push (joinSurrogates high low) := by
  simp only [pushUnit, h, hh, hl, push, settle_eq h, if_true]

end Spelled

end Sitewright.Text.Utf16

namespace Sitewright.Json

open Text.Utf16

variable {t : Spelled} {start tail : List Char}

theorem codeUnit?_hexPadded {n : Nat} (h : n < 0x10000) :
    ∃ a b c d, Text.hexPadded 4 n = [a, b, c, d] ∧ codeUnit? a b c d = some n := by
  refine ⟨_, _, _, _, Text.hexPadded_four h, ?_⟩
  simp only [codeUnit?, Text.hexValue?_digitChar (show n / 0x1000 < 16 by omega),
    Text.hexValue?_digitChar (Nat.mod_lt _ (show 0 < 16 by decide)), Option.bind_eq_bind,
    Option.bind_some, Option.pure_def, Option.some.injEq]
  omega

theorem readString_unitText {n : Nat} (h : n < 0x10000) (hn : tail ≠ []) :
    readString start t (unitText n ++ tail) = readString start (t.pushUnit n) tail := by
  obtain ⟨a, b, c, d, hu, hc⟩ := codeUnit?_hexPadded h
  have he : tail.isEmpty = false := List.isEmpty_eq_false_iff.2 hn
  rw [unitText, hu]
  simp [readString, hc, he]

/-- An escaped character is read as itself. -/
theorem readString_escape (ht : t.high = none) (c : Char) (hn : tail ≠ []) :
    readString start t (escape c ++ tail) = readString start (t.push c) tail := by
  unfold escape
  split
  · next h => subst h; simp [readString, escaped?]
  split
  · next h => subst h; simp [readString, escaped?]
  split
  · next h => subst h; simp [readString, escaped?]
  split
  · next h => subst h; simp [readString, escaped?]
  split
  · next h => subst h; simp [readString, escaped?]
  split
  · next h => subst h; simp [readString, escaped?]
  split
  · next h => subst h; simp [readString, escaped?]
  split
  · next hquote hslash _ _ _ _ _ h =>
    have hlow : ¬ c.toNat < 0x20 := Nat.not_lt.2 h.1
    rw [List.singleton_append, readString.eq_def]
    simp only [hquote, hslash, hlow, if_false]
  split
  · next h => rw [readString_unitText h hn, Spelled.pushUnit_eq ht]
  · next h =>
    obtain ⟨high, low, hs, hh, hl, hj⟩ := surrogates_eq (Nat.le_of_not_lt h)
    have hhigh : high < 0x10000 := by
      simp only [isHighSurrogate, Bool.and_eq_true, decide_eq_true_eq] at hh
      omega
    have hlow : low < 0x10000 := by
      simp only [isLowSurrogate, Bool.and_eq_true, decide_eq_true_eq] at hl
      omega
    rw [hs, List.flatMap_cons, List.flatMap_cons, List.flatMap_nil, List.append_nil,
      List.append_assoc, readString_unitText hhigh (by simp [unitText]),
      readString_unitText hlow hn, Spelled.pushUnit_pair ht hh hl, hj]

theorem readString_flatMap (s : List Char) (ht : t.high = none) (rest : List Char) :
    readString start t (s.flatMap escape ++ '"' :: rest) =
      .ok (String.ofList (t.done.reverse ++ s), rest) := by
  induction s generalizing t with
  | nil =>
    rw [List.flatMap_nil, List.nil_append, readString.eq_def, List.append_nil]
    simp only [if_true, Spelled.text, Spelled.toList, Spelled.settle_eq ht]
  | cons c s ih =>
    rw [List.flatMap_cons, List.append_assoc, readString_escape ht c (by simp), ih rfl]
    simp only [Spelled.push, Spelled.settle_eq ht, List.reverse_cons, List.append_assoc,
      List.singleton_append]

/-- A string is read as it was written. -/
theorem readString_stringText (start : List Char) (s : String) (rest : List Char) :
    readString start {} (s.toList.flatMap escape ++ '"' :: rest) = .ok (s, rest) := by
  rw [readString_flatMap s.toList rfl, List.reverse_nil, List.nil_append, String.ofList_toList]

end Sitewright.Json
