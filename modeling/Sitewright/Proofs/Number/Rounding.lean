import Sitewright.Number.Shortest
import Sitewright.Proofs.Text.Digit

namespace Sitewright.Double

variable {n d c rank : Nat} {e : Int}

theorem roundHalfEven_mul (hc : 0 < c) (n d : Nat) :
    roundHalfEven (n * c) (d * c) = roundHalfEven n d := by
  have hlt (a b : Nat) : a * c < b * c ↔ a < b := Nat.mul_lt_mul_right hc
  simp only [roundHalfEven, Nat.mul_mod_mul_right, Nat.mul_div_mul_right _ _ hc,
    ← Nat.mul_assoc, hlt]

/-- Rounding depends on the quotient alone. -/
theorem rankNear_mul (hc : 0 < c) (n d : Nat) : rankNear (n * c) (d * c) = rankNear n d := by
  simp only [rankNear, Nat.mul_div_mul_right _ _ hc]
  rw [Nat.mul_right_comm, roundHalfEven_mul hc]

theorem significand_bounds (h : doublesPerExponent ≤ rank) :
    doublesPerExponent ≤ significand rank ∧ significand rank < 2 * doublesPerExponent := by
  have hm := Nat.mod_lt rank (show 0 < doublesPerExponent by decide)
  rw [significand, if_neg (Nat.not_lt.2 h)]
  simp only [doublesPerExponent] at hm ⊢
  omega

theorem log2_units (h : doublesPerExponent ≤ rank) : (units rank).log2 = 52 + exponent rank := by
  obtain ⟨hlow, hhigh⟩ := significand_bounds h
  have hp : 0 < 2 ^ exponent rank := Nat.pow_pos (by decide)
  have hne : units rank ≠ 0 := Nat.ne_of_gt (Nat.mul_pos (Nat.lt_of_lt_of_le (by decide) hlow) hp)
  rw [Nat.log2_eq_iff hne, Nat.add_right_comm, Nat.pow_add, Nat.pow_add, units]
  exact ⟨Nat.mul_le_mul_right _ hlow, Nat.mul_lt_mul_of_pos_right hhigh hp⟩

/-- A magnitude is the nearest one to itself. -/
theorem rankNear_units (rank : Nat) : rankNear (units rank) 1 = rank := by
  have hk : (units rank).log2 - 52 = exponent rank := by
    by_cases h : rank < doublesPerExponent
    · have hx : exponent rank = 0 := by rw [exponent, Nat.div_eq_of_lt h]
      have hu : units rank = rank := by
        rw [units, hx, significand, if_pos h]
        exact Nat.mul_one rank
      rw [hx, hu]
      by_cases hz : rank = 0
      · rw [hz]; rfl
      · have hl : rank.log2 < 52 := (Nat.log2_lt hz).2 (by simpa [doublesPerExponent] using h)
        omega
    · rw [log2_units (Nat.le_of_not_lt h)]
      omega
  have hround : roundHalfEven (units rank) (1 * Nat.pow 2 (exponent rank)) = significand rank := by
    have hp : 0 < Nat.pow 2 (exponent rank) := Nat.pow_pos (by decide)
    rw [units, roundHalfEven_mul hp, roundHalfEven_one]
  simp only [rankNear, Nat.div_one, hk]
  rw [hround, rank_eq]

end Sitewright.Double
