import Mathlib.Data.Nat.Init
import Sitewright.Text.Blank
import Sitewright.Text.Digit

namespace Sitewright.Text

variable {n k : Nat}

theorem not_isBlank_of_isDigit {c : Char} (h : c.isDigit = true) : ¬isBlank c = true := by
  obtain ⟨hlow, hhigh⟩ := Char.isDigit_iff_toNat.1 h
  have hlow' : 0x30 ≤ c.toNat := hlow
  have hhigh' : c.toNat ≤ 0x39 := hhigh
  simp only [isBlank, Bool.or_eq_true, Bool.and_eq_true, decide_eq_true_eq, beq_iff_eq]
  omega

@[simp] theorem decimal_ne_nil (n : Nat) : decimal n ≠ [] := Nat.toDigits_ne_nil

@[simp] theorem ofDigitChars_decimal (n : Nat) : Nat.ofDigitChars 10 (decimal n) 0 = n :=
  Nat.ofDigitChars_ten_toDigits

theorem decimal_mul_ten (hn : 0 < n) : decimal (n * 10) = decimal n ++ ['0'] := by
  have h := Nat.toDigits_append_toDigits (b := 10) (d := 0) (by decide) hn (by decide)
  rw [Nat.toDigits_zero, Nat.add_zero, Nat.mul_comm] at h
  exact h.symm

theorem decimal_mul_pow (hn : 0 < n) (k : Nat) :
    decimal (n * Nat.pow 10 k) = decimal n ++ List.replicate k '0' := by
  induction k with
  | zero => simp
  | succ k ih =>
    have hp : 0 < n * Nat.pow 10 k := Nat.mul_pos hn (Nat.pow_pos (by decide))
    have hs : n * Nat.pow 10 (k + 1) = n * Nat.pow 10 k * 10 := (Nat.mul_assoc _ _ _).symm
    rw [hs, decimal_mul_ten hp, ih, List.replicate_succ', List.append_assoc]

theorem length_decimal_pow (k : Nat) : (decimal (Nat.pow 10 k)).length = k + 1 := by
  have h := decimal_mul_pow Nat.one_pos k
  rw [Nat.one_mul] at h
  rw [h, List.length_append, List.length_replicate]
  exact Nat.add_comm 1 k

/-- Only zero is written with a zero in front. -/
theorem head?_decimal (hn : 0 < n) : (decimal n).head? ≠ some '0' := by
  induction n using Nat.strong_induction_on with
  | _ n ih =>
    by_cases h : n < 10
    · rw [decimal, Nat.toDigits_of_lt_base h, List.head?_cons]
      have hd : ∀ m < 10, 0 < m → some (Nat.digitChar m) ≠ some '0' := by decide
      exact hd n h hn
    · have hl : 0 < n / 10 := by omega
      have ht : (decimal (n / 10)).head?.isSome := List.isSome_head?.2 (decimal_ne_nil _)
      have hs : decimal n = decimal (n / 10) ++ [Nat.digitChar (n % 10)] :=
        Nat.toDigits_of_base_le (by decide) (by omega)
      rw [hs, List.head?_append, Option.or_of_isSome ht]
      exact ih (n / 10) (by omega) hl

theorem length_decimal_le_iff (hk : 0 < k) : (decimal n).length ≤ k ↔ n < Nat.pow 10 k :=
  Nat.length_toDigits_le_iff (by decide) hk

theorem ofDigitChars_lt {digits : List Char} (h : ∀ c ∈ digits, c.isDigit = true) (n : Nat) :
    Nat.ofDigitChars 10 digits n < (n + 1) * Nat.pow 10 digits.length := by
  induction digits generalizing n with
  | nil => exact Nat.lt_of_lt_of_eq (Nat.lt_succ_self n) (Nat.mul_one _).symm
  | cons c digits ih =>
    obtain ⟨hc, hd⟩ := List.forall_mem_cons.1 h
    have hdigit : c.toNat - '0'.toNat ≤ 9 := Nat.sub_le_of_le_add (Char.isDigit_iff_toNat.1 hc).2
    have hnext := ih hd (10 * n + (c.toNat - '0'.toNat))
    rw [Nat.ofDigitChars_cons]
    calc
      _ < (10 * n + (c.toNat - '0'.toNat) + 1) * Nat.pow 10 digits.length := hnext
      _ ≤ ((n + 1) * 10) * Nat.pow 10 digits.length := Nat.mul_le_mul_right _ (by omega)
      _ = (n + 1) * Nat.pow 10 (digits.length + 1) := by
        rw [Nat.mul_assoc, Nat.mul_comm 10]
        rfl

/-- Zeros in front of a number are all that can be left out of it. -/
theorem length_decimal_ofDigitChars {digits : List Char} (h : ∀ c ∈ digits, c.isDigit = true)
    (hn : digits ≠ []) : (decimal (Nat.ofDigitChars 10 digits 0)).length ≤ digits.length := by
  rw [length_decimal_le_iff (List.length_pos_iff.2 hn)]
  have hlt := ofDigitChars_lt h 0
  rwa [Nat.zero_add, Nat.one_mul] at hlt

theorem hexPadded_succ (hk : 0 < k) (n : Nat) :
    hexPadded (k + 1) n = hexPadded k (n / 16) ++ [Nat.digitChar (n % 16)] := by
  by_cases h : n < 16
  · rw [Nat.div_eq_of_lt h, Nat.mod_eq_of_lt h, hexPadded, hexPadded, Nat.toDigits_of_lt_base h,
      Nat.toDigits_zero]
    obtain ⟨k, rfl⟩ := Nat.exists_eq_add_one_of_ne_zero (Nat.ne_of_gt hk)
    simp [List.leftpad, List.replicate_succ']
  · simp [hexPadded, List.leftpad, Nat.toDigits_of_base_le (b := 16) (by decide)
      (Nat.le_of_not_lt h)]

theorem hexPadded_four (h : n < 0x10000) :
    hexPadded 4 n = [Nat.digitChar (n / 0x1000), Nat.digitChar (n / 0x100 % 16),
      Nat.digitChar (n / 16 % 16), Nat.digitChar (n % 16)] := by
  have hd : n / 16 / 16 / 16 = n / 0x1000 := by omega
  have hc : n / 16 / 16 = n / 0x100 := by omega
  have hone : hexPadded 1 (n / 0x1000) = [Nat.digitChar (n / 0x1000)] := by
    rw [hexPadded, Nat.toDigits_of_lt_base (by omega)]
    rfl
  rw [hexPadded_succ (by decide), hexPadded_succ (by decide), hexPadded_succ (by decide), hd, hc,
    hone]
  rfl

theorem hexValue?_digitChar (h : n < 16) : hexValue? (Nat.digitChar n) = some n := by
  have hd : ∀ m < 16, hexValue? (Nat.digitChar m) = some m := by decide
  exact hd n h

end Sitewright.Text
