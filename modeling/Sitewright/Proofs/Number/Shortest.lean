import Sitewright.Proofs.Number.Rounding

namespace Sitewright.Double

variable {c k rank : Nat} {e : Int} {negative : Bool}

/-- The same number with the sign that is given. -/
def withSign (negative : Bool) : Double → Double
  | nan => nan
  | infinite _ => infinite negative
  | finite _ rank => finite negative rank

theorem withSign_ofRank (negative : Bool) (rank : Nat) :
    (ofRank false rank).withSign negative = ofRank negative rank := by
  unfold ofRank
  split <;> rfl

/-- The rank of the magnitude nearest to `c * 10 ^ e`. -/
def decimalRank (c : Nat) : Int → Nat
  | .ofNat e => rankNear (c * Nat.pow 10 e * Nat.pow 2 1074) 1
  | .negSucc e => rankNear (c * Nat.pow 2 1074) (Nat.pow 10 (e + 1))

theorem ofDecimal_eq (negative : Bool) (c : Nat) (e : Int) :
    ofDecimal negative c e =
      if c = 0 ∨ (Text.decimal c).length + e ≤ -324 then ofRank negative 0
      else if 310 ≤ (Text.decimal c).length + e then .infinite negative
      else ofRank negative (decimalRank c e) := by
  cases e <;> rfl

theorem withSign_ofDecimal (negative : Bool) (c : Nat) (e : Int) :
    (ofDecimal false c e).withSign negative = ofDecimal negative c e := by
  rw [ofDecimal_eq, ofDecimal_eq]
  split
  · exact withSign_ofRank _ _
  · split
    · rfl
    · exact withSign_ofRank _ _

theorem decimalRank_mul_ten (c : Nat) (e : Int) :
    decimalRank (c * 10) (e - 1) = decimalRank c e := by
  have hswap (p : Nat) : c * 10 * p = c * p * 10 := Nat.mul_right_comm _ _ _
  match e with
  | .ofNat 0 =>
    change rankNear (c * 10 * Nat.pow 2 1074) (1 * 10) = rankNear (c * 1 * Nat.pow 2 1074) 1
    rw [hswap, rankNear_mul (by decide), Nat.mul_one]
  | .ofNat (k + 1) =>
    have hk : (Int.ofNat (k + 1) - 1) = Int.ofNat k := by simp
    have hp : Nat.pow 10 (k + 1) = Nat.pow 10 k * 10 := rfl
    rw [hk, decimalRank, decimalRank, hp, hswap, Nat.mul_assoc c]
  | .negSucc k =>
    have hk : Int.negSucc k - 1 = Int.negSucc (k + 1) := rfl
    have hp : Nat.pow 10 (k + 1 + 1) = Nat.pow 10 (k + 1) * 10 := rfl
    rw [hk, decimalRank, decimalRank, hp, hswap, rankNear_mul (by decide)]

theorem ofDecimal_mul_ten (hc : 0 < c) (negative : Bool) (e : Int) :
    ofDecimal negative (c * 10) (e - 1) = ofDecimal negative c e := by
  have hz : c * 10 ≠ 0 := Nat.ne_of_gt (Nat.mul_pos hc (by decide))
  have hl : ((Text.decimal (c * 10)).length : Int) + (e - 1) = (Text.decimal c).length + e := by
    rw [Text.decimal_mul_ten hc, List.length_append, List.length_singleton]
    omega
  rw [ofDecimal_eq, ofDecimal_eq, hl, decimalRank_mul_ten]
  simp only [hz, Nat.ne_of_gt hc]

/-- Zeros at the end of a coefficient are worth as much as its exponent. -/
theorem ofDecimal_mul_pow (hc : 0 < c) (negative : Bool) (e : Int) (k : Nat) :
    ofDecimal negative (c * Nat.pow 10 k) (e - k) = ofDecimal negative c e := by
  induction k with
  | zero => simp
  | succ k ih =>
    have hp : 0 < c * Nat.pow 10 k := Nat.mul_pos hc (Nat.pow_pos (by decide))
    have hs : c * Nat.pow 10 (k + 1) = c * Nat.pow 10 k * 10 := (Nat.mul_assoc _ _ _).symm
    have he : e - (k + 1 : Nat) = e - k - 1 := by omega
    rw [hs, he, ofDecimal_mul_ten hp, ih]

theorem units_lt_pow (hx : exponent rank ≤ k) {n : Nat} (hn : 53 + k = n) :
    units rank < Nat.pow 2 n := by
  have hs : significand rank < Nat.pow 2 53 := by
    by_cases hr : rank < doublesPerExponent
    · rw [significand, if_pos hr]
      exact Nat.lt_trans hr (by decide)
    · exact (significand_bounds (Nat.le_of_not_lt hr)).2
  have hp : 0 < Nat.pow 2 (exponent rank) := Nat.pow_pos (by decide)
  subst hn
  calc units rank < Nat.pow 2 53 * Nat.pow 2 (exponent rank) :=
        Nat.mul_lt_mul_of_pos_right hs hp
    _ = Nat.pow 2 (53 + exponent rank) := (Nat.pow_add 2 53 (exponent rank)).symm
    _ ≤ Nat.pow 2 (53 + k) := Nat.pow_le_pow_right (by decide) (Nat.add_le_add_left hx 53)

theorem units_lt (h : rank < doubleRanks) {n : Nat} (hn : n = 2098) :
    units rank < Nat.pow 2 n := by
  have hx : exponent rank ≤ 2045 := by
    have hd : rank / doublesPerExponent ≤ 2046 := by
      simp only [doubleRanks, doublesPerExponent] at h ⊢
      omega
    rw [exponent]
    omega
  exact units_lt_pow hx hn.symm

theorem units_pos (h : 0 < rank) : 0 < units rank := by
  have hs : 0 < significand rank := by
    rw [significand]
    split
    · exact h
    · exact Nat.add_pos_left (by decide) _
  exact Nat.mul_pos hs (Nat.pow_pos (by decide))

/-- Powers of two are bounded by powers of another number, step by step. -/
theorem pow_two_le {b i j k l m n s : Nat} (hstep : Nat.pow 2 i ≤ Nat.pow b j)
    (hrest : Nat.pow 2 k ≤ Nat.pow b l) (hm : i * s + k = m) (hn : j * s + l = n) :
    Nat.pow 2 m ≤ Nat.pow b n := by
  subst hm hn
  calc Nat.pow 2 (i * s + k) = Nat.pow (Nat.pow 2 i) s * Nat.pow 2 k := by
        rw [Nat.pow_eq, Nat.pow_add, Nat.pow_mul]
        rfl
    _ ≤ Nat.pow (Nat.pow b j) s * Nat.pow b l :=
        Nat.mul_le_mul (Nat.pow_le_pow_left hstep s) hrest
    _ = Nat.pow b (j * s + l) := by
        rw [Nat.pow_eq (m := b) (n := j * s + l), Nat.pow_add, Nat.pow_mul]
        rfl

theorem pow_ten_le {k m n : Nat} (h : Nat.pow 2 m ≤ Nat.pow 5 k) (hn : k + m = n) :
    Nat.pow 10 m ≤ Nat.pow 5 n := by
  subst hn
  calc Nat.pow 10 m = Nat.pow 2 m * Nat.pow 5 m := Nat.mul_pow 2 5 m
    _ ≤ Nat.pow 5 k * Nat.pow 5 m := Nat.mul_le_mul_right _ h
    _ = Nat.pow 5 (k + m) := (Nat.pow_add 5 k m).symm

theorem mul_pow_le {k l m n p : Nat} (h : Nat.pow 2 k ≤ Nat.pow 10 l) (hn : k + m = n)
    (hp : l + m = p) : Nat.pow 2 n * Nat.pow 5 m ≤ Nat.pow 10 p := by
  subst hn hp
  calc Nat.pow 2 (k + m) * Nat.pow 5 m = Nat.pow 2 k * Nat.pow 2 m * Nat.pow 5 m :=
        congrArg (· * Nat.pow 5 m) (Nat.pow_add 2 k m)
    _ = Nat.pow 2 k * Nat.pow 10 m := by
        rw [Nat.mul_assoc]
        exact congrArg (Nat.pow 2 k * ·) (Nat.mul_pow 2 5 m).symm
    _ ≤ Nat.pow 10 l * Nat.pow 10 m := Nat.mul_le_mul_right _ h
    _ = Nat.pow 10 (l + m) := (Nat.pow_add 10 l m).symm

-- The power is kept behind a name, so that nothing takes it for a number to compute.
theorem exactDecimal_eq (rank : Nat) :
    ∃ n, n = 1074 ∧ exactDecimal rank = ⟨units rank * Nat.pow 5 n, -n⟩ := ⟨1074, rfl, rfl⟩

theorem length_exactDecimal (h : rank < doubleRanks) (hr : 0 < rank) :
    750 < (Text.decimal (exactDecimal rank).coefficient).length ∧
      (Text.decimal (exactDecimal rank).coefficient).length ≤ 1383 := by
  obtain ⟨n, hn, heq⟩ := exactDecimal_eq rank
  rw [heq, ← Nat.not_le]
  generalize hlow : 750 = low
  generalize hhigh : 1383 = high
  rw [Text.length_decimal_le_iff (by omega), Text.length_decimal_le_iff (by omega), Nat.not_lt]
  constructor
  · have hstep : Nat.pow 2 44 ≤ Nat.pow 5 19 := by decide
    have hrest : Nat.pow 2 2 ≤ Nat.pow 5 1 := by decide
    obtain ⟨fives, hfives⟩ : ∃ fives, 19 * 17 + 1 = fives := ⟨_, rfl⟩
    have htwo : Nat.pow 2 low ≤ Nat.pow 5 fives :=
      pow_two_le (s := 17) hstep hrest (by omega) hfives
    have hten : Nat.pow 10 low ≤ Nat.pow 5 n := pow_ten_le htwo (by omega)
    exact Nat.le_trans hten (Nat.le_mul_of_pos_left _ (units_pos hr))
  · have hstep : Nat.pow 2 93 ≤ Nat.pow 10 28 := by decide
    have hrest : Nat.pow 2 1 ≤ Nat.pow 10 1 := by decide
    obtain ⟨bits, hbits⟩ : ∃ bits, bits = 2098 := ⟨_, rfl⟩
    obtain ⟨twos, htwos⟩ : ∃ twos, 93 * 11 + 1 = twos := ⟨_, rfl⟩
    obtain ⟨tens, htens⟩ : ∃ tens, 28 * 11 + 1 = tens := ⟨_, rfl⟩
    have htwo : Nat.pow 2 twos ≤ Nat.pow 10 tens := pow_two_le hstep hrest htwos htens
    have hten : Nat.pow 2 bits * Nat.pow 5 n ≤ Nat.pow 10 high :=
      mul_pow_le htwo (by omega) (by omega)
    have hp : 0 < Nat.pow 5 n := Nat.pow_pos (by decide)
    exact Nat.lt_of_lt_of_le (Nat.mul_lt_mul_of_pos_right (units_lt h hbits) hp) hten

theorem decimalRank_negSucc (c k : Nat) :
    ∃ n, n = 1074 ∧
      decimalRank c (.negSucc k) = rankNear (c * Nat.pow 2 n) (Nat.pow 10 (k + 1)) :=
  ⟨1074, rfl, rfl⟩

theorem decimalRank_exactDecimal (rank : Nat) :
    decimalRank (exactDecimal rank).coefficient (exactDecimal rank).exponent = rank := by
  obtain ⟨n, hn, heq⟩ := exactDecimal_eq rank
  obtain ⟨k, rfl⟩ : ∃ k, n = k + 1 := ⟨1073, hn⟩
  obtain ⟨m, hm, hrank⟩ := decimalRank_negSucc (units rank * Nat.pow 5 (k + 1)) k
  obtain rfl : k + 1 = m := hn.trans hm.symm
  have hten : Nat.pow 5 (k + 1) * Nat.pow 2 (k + 1) = Nat.pow 10 (k + 1) :=
    (Nat.mul_pow 5 2 (k + 1)).symm
  have hpos : 0 < Nat.pow 10 (k + 1) := Nat.pow_pos (by decide)
  rw [heq]
  change decimalRank (units rank * Nat.pow 5 (k + 1)) (.negSucc k) = rank
  rw [hrank, Nat.mul_assoc, hten]
  calc rankNear (units rank * Nat.pow 10 (k + 1)) (Nat.pow 10 (k + 1))
      = rankNear (units rank * Nat.pow 10 (k + 1)) (1 * Nat.pow 10 (k + 1)) := by rw [Nat.one_mul]
    _ = rankNear (units rank) 1 := rankNear_mul hpos (units rank) 1
    _ = rank := rankNear_units rank

/-- All digits of a magnitude name it. -/
theorem readsBack_exactDecimal (h : rank < doubleRanks) (hr : 0 < rank) :
    readsBack rank (exactDecimal rank) = true := by
  obtain ⟨hlow, hhigh⟩ := length_exactDecimal h hr
  obtain ⟨n, hn, heq⟩ := exactDecimal_eq rank
  have hc : (exactDecimal rank).coefficient ≠ 0 := by
    rw [heq]
    exact Nat.ne_of_gt (Nat.mul_pos (units_pos hr) (Nat.pow_pos (by decide)))
  have he : (exactDecimal rank).exponent = -1074 := rfl
  rw [readsBack, beq_iff_eq, ofDecimal_eq, decimalRank_exactDecimal, if_neg (by omega),
    if_neg (by omega)]

theorem readsBack_of_nearest? {count : Nat} {d : Decimal} (h : nearest? rank count = some d) :
    readsBack rank d = true := by
  unfold nearest? at h
  exact List.find?_some h

/-- The digits that a magnitude is written with read back as it. -/
theorem readsBack_shortest (h : rank < doubleRanks) (hr : 0 < rank) :
    readsBack rank (shortest rank) = true := by
  unfold shortest
  cases hf : (List.range 17).findSome? fun i => nearest? rank (i + 1) with
  | none => exact readsBack_exactDecimal h hr
  | some d =>
    obtain ⟨i, _, hi⟩ := List.exists_of_findSome?_eq_some hf
    exact readsBack_of_nearest? hi

theorem coefficient_shortest_pos (h : rank < doubleRanks) (hr : 0 < rank) :
    0 < (shortest rank).coefficient := by
  have hb := readsBack_shortest h hr
  rw [readsBack, beq_iff_eq, ofDecimal_eq] at hb
  refine Nat.pos_of_ne_zero fun hz => ?_
  rw [if_pos (.inl hz), ofRank, ofRank, dif_pos h, dif_pos (Nat.lt_trans hr h)] at hb
  simp only [finite.injEq, Fin.mk.injEq, true_and] at hb
  omega

end Sitewright.Double
