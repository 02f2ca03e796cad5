import Mathlib.Data.List.TakeDrop
import Sitewright.Json.Printer
import Sitewright.Json.Reader
import Sitewright.Proofs.Number.Shortest

namespace Sitewright.Json

variable {s digits whole fraction rest : List Char} {c : Nat}

/-- What follows a number does not go on with it. -/
def EndsNumber (rest : List Char) : Prop :=
  ∀ c, rest.head? = some c → c.isDigit = false ∧ c ≠ '.' ∧ c ≠ 'e' ∧ c ≠ 'E'

/-- A text that does not begin with a digit. -/
def EndsDigits (rest : List Char) : Prop := ∀ c, rest.head? = some c → c.isDigit = false

theorem EndsNumber.endsDigits (h : EndsNumber rest) : EndsDigits rest :=
  fun c hc => (h c hc).1

theorem endsDigits_cons {c : Char} (h : c.isDigit = false) : EndsDigits (c :: rest) := by
  intro d hd
  cases hd
  exact h

@[simp] theorem endsNumber_nil : EndsNumber [] := nofun

theorem endsNumber_cons {c : Char} (h : c.isDigit = false ∧ c ≠ '.' ∧ c ≠ 'e' ∧ c ≠ 'E') :
    EndsNumber (c :: rest) := by
  intro d hd
  cases hd
  exact h

theorem span_digits (hd : ∀ c ∈ digits, c.isDigit = true) (hr : EndsDigits rest) :
    (digits ++ rest).span Char.isDigit = (digits, rest) := by
  rw [List.span_eq_takeWhile_dropWhile, List.takeWhile_append_of_pos hd,
    List.dropWhile_append_of_pos hd]
  cases rest with
  | nil => simp
  | cons c rest =>
    have hc := hr c rfl
    simp [hc]

/-- Digits that can stand before a point: no zero comes before another digit. -/
structure WholeDigits (whole : List Char) : Prop where
  digits : ∀ c ∈ whole, c.isDigit = true
  nonempty : whole ≠ []
  plain : whole = ['0'] ∨ whole.head? ≠ some '0'

theorem wholePart_append (h : WholeDigits whole) (hr : EndsDigits rest) :
    wholePart (whole ++ rest) = (whole, rest) := by
  obtain rfl | hz := h.plain
  · rfl
  · obtain ⟨c, tail, rfl⟩ := List.exists_cons_of_ne_nil h.nonempty
    have hc : c ≠ '0' := fun e => hz (by rw [e, List.head?_cons])
    have hs := span_digits h.digits hr
    unfold wholePart
    split
    · next he => cases he; exact absurd rfl hc
    · exact hs

theorem fractionPart_point (hd : ∀ c ∈ fraction, c.isDigit = true) (hf : fraction ≠ [])
    (hr : EndsDigits rest) : fractionPart ('.' :: fraction ++ rest) = (fraction, rest) := by
  rw [List.cons_append, fractionPart, span_digits hd hr]
  obtain ⟨c, tail, rfl⟩ := List.exists_cons_of_ne_nil hf
  rfl

theorem fractionPart_none (hr : rest.head? ≠ some '.') : fractionPart rest = ([], rest) := by
  unfold fractionPart
  split
  · exact absurd rfl hr
  · rfl

theorem exponentPart_none (h : EndsNumber rest) : exponentPart rest = none := by
  cases rest with
  | nil => rfl
  | cons c rest =>
    obtain ⟨_, _, he, hE⟩ := h c rfl
    simp [exponentPart, he, hE]

theorem exponentPart_mark (hd : ∀ c ∈ digits, c.isDigit = true) (hn : digits ≠ [])
    (hr : EndsDigits rest) (negative : Bool) :
    exponentPart ('e' :: (if negative then '-' else '+') :: digits ++ rest) =
      some (if negative then -(Nat.ofDigitChars 10 digits 0 : Int)
        else Nat.ofDigitChars 10 digits 0, rest) := by
  have hs (b : Bool) : exponentDigits b (digits ++ rest) =
      some (if b then -(Nat.ofDigitChars 10 digits 0 : Int)
        else Nat.ofDigitChars 10 digits 0, rest) := by
    rw [exponentDigits, span_digits hd hr]
    obtain ⟨c, tail, rfl⟩ := List.exists_cons_of_ne_nil hn
    rfl
  cases negative with
  | false => exact hs false
  | true => exact hs true

/-- How a number is read once its parts are cut out. -/
theorem readNumber_parts {after left : List Char} (hw : WholeDigits whole) (ha : EndsDigits after)
    (hf : fractionPart after = (fraction, left)) (negative : Bool) :
    readNumber (Double.signText negative ++ (whole ++ after)) =
      match exponentPart left with
      | some (exponent, rest) =>
        .ok (.float (.ofDecimal negative (Nat.ofDigitChars 10 (whole ++ fraction) 0)
          (exponent - fraction.length)), rest)
      | none =>
        if !fraction.isEmpty then
          .ok (.float (.ofDecimal negative (Nat.ofDigitChars 10 (whole ++ fraction) 0)
            (-fraction.length)), left)
        else if Text.maxDigits < whole.length then .error (.halt (.long (.read whole.length)))
        else
          .ok (.int (if negative then -(Nat.ofDigitChars 10 (whole ++ fraction) 0 : Nat)
            else (Nat.ofDigitChars 10 (whole ++ fraction) 0 : Nat)), left) := by
  have hwhole := wholePart_append hw ha
  have hempty : whole.isEmpty = false := List.isEmpty_eq_false_iff.2 hw.nonempty
  cases negative with
  | true =>
    simp only [Double.signText, if_true, List.singleton_append, readNumber, hwhole, hf, hempty]
    rfl
  | false =>
    obtain ⟨c, tail, rfl⟩ := List.exists_cons_of_ne_nil hw.nonempty
    have hc : c ≠ '-' := by
      rintro rfl
      exact absurd (hw.digits '-' List.mem_cons_self) (by decide)
    unfold readNumber
    split
    next sign unsigned hm =>
      split at hm
      · next he => cases he; exact absurd rfl hc
      · next hne =>
        cases hm
        cases hexponent : exponentPart left <;>
          simp only [Double.signText, Bool.false_eq_true, if_false, List.nil_append, hwhole, hf,
            hempty, hexponent]

/-- A number without a fraction or an exponent is an integer, if it is not too long. -/
theorem readNumber_whole (hw : WholeDigits whole) (hr : EndsNumber rest) (negative : Bool) :
    readNumber (Double.signText negative ++ (whole ++ rest)) =
      if Text.maxDigits < whole.length then .error (.halt (.long (.read whole.length)))
      else
        .ok (.int (if negative then -(Nat.ofDigitChars 10 whole 0 : Nat)
          else (Nat.ofDigitChars 10 whole 0 : Nat)), rest) := by
  have hf : fractionPart rest = ([], rest) :=
    fractionPart_none fun h => (hr '.' h).2.1 rfl
  rw [readNumber_parts hw hr.endsDigits hf, exponentPart_none hr, List.append_nil]
  rfl

theorem isDigit_zero : ∀ c ∈ ['0'], c.isDigit = true := List.all_eq_true.1 rfl

theorem readNumber_point (hw : WholeDigits whole) (hd : ∀ c ∈ fraction, c.isDigit = true)
    (hf : fraction ≠ []) (hr : EndsNumber rest) (negative : Bool) :
    readNumber (Double.signText negative ++ (whole ++ ('.' :: fraction ++ rest))) =
      .ok (.float (.ofDecimal negative (Nat.ofDigitChars 10 (whole ++ fraction) 0)
        (-fraction.length)), rest) := by
  have hp := fractionPart_point hd hf hr.endsDigits
  have ha : EndsDigits ('.' :: fraction ++ rest) := endsDigits_cons (by decide)
  have hempty : fraction.isEmpty = false := List.isEmpty_eq_false_iff.2 hf
  rw [readNumber_parts hw ha hp, exponentPart_none hr, hempty]
  rfl

/-- The exponent as it is written after its mark. -/
def exponentText (exponent : Int) : List Char :=
  'e' :: (if exponent < 0 then '-' else '+') :: Text.decimalPadded 2 exponent.natAbs

theorem exponentPart_exponentText (hr : EndsDigits rest) (exponent : Int) :
    exponentPart (exponentText exponent ++ rest) = some (exponent, rest) := by
  have hn : Text.decimalPadded 2 exponent.natAbs ≠ [] := by
    simp [Text.decimalPadded, List.leftpad, Text.decimal_ne_nil]
  have hv : Nat.ofDigitChars 10 (Text.decimalPadded 2 exponent.natAbs) 0 = exponent.natAbs := by
    rw [Text.decimalPadded, List.leftpad, Nat.ofDigitChars_append, Nat.ofDigitChars_replicate_zero,
      Nat.mul_zero, Text.ofDigitChars_decimal]
  have h := exponentPart_mark (fun c => Text.isDigit_of_mem_decimalPadded) hn hr
    (decide (exponent < 0))
  simp only [decide_eq_true_eq, hv] at h
  rw [exponentText, h]
  split <;> simp only [Option.some.injEq, Prod.mk.injEq, and_true] <;> omega

theorem readNumber_mark (hw : WholeDigits whole) (exponent : Int) (hr : EndsNumber rest)
    (negative : Bool) :
    readNumber (Double.signText negative ++ (whole ++ (exponentText exponent ++ rest))) =
      .ok (.float (.ofDecimal negative (Nat.ofDigitChars 10 whole 0) exponent), rest) := by
  have hf : fractionPart (exponentText exponent ++ rest) = ([], exponentText exponent ++ rest) :=
    fractionPart_none (by simp [exponentText])
  have ha : EndsDigits (exponentText exponent ++ rest) := endsDigits_cons (by decide)
  rw [readNumber_parts hw ha hf, exponentPart_exponentText hr.endsDigits, List.append_nil]
  simp

theorem readNumber_point_mark (hw : WholeDigits whole) (hd : ∀ c ∈ fraction, c.isDigit = true)
    (hf : fraction ≠ []) (exponent : Int) (hr : EndsNumber rest) (negative : Bool) :
    readNumber (Double.signText negative ++
        (whole ++ ('.' :: fraction ++ (exponentText exponent ++ rest)))) =
      .ok (.float (.ofDecimal negative (Nat.ofDigitChars 10 (whole ++ fraction) 0)
        (exponent - fraction.length)), rest) := by
  have hr' : EndsDigits (exponentText exponent ++ rest) := endsDigits_cons (by decide)
  have hp := fractionPart_point hd hf hr'
  have ha : EndsDigits ('.' :: fraction ++ (exponentText exponent ++ rest)) :=
    endsDigits_cons (by decide)
  rw [readNumber_parts hw ha hp, exponentPart_exponentText hr.endsDigits]

theorem wholeDigits_decimal (n : Nat) : WholeDigits (Text.decimal n) where
  digits := fun _ => Text.isDigit_of_mem_decimal
  nonempty := Text.decimal_ne_nil n
  plain := by
    obtain rfl | hn := Nat.eq_zero_or_pos n
    · exact .inl (Nat.toDigits_zero 10)
    · exact .inr (Text.head?_decimal hn)

theorem readNumber_intText (hr : EndsNumber rest) (n : Int) :
    readNumber (intText n ++ rest) =
      if Text.maxDigits < (Text.decimal n.natAbs).length then
        .error (.halt (.long (.read (Text.decimal n.natAbs).length)))
      else .ok (.int n, rest) := by
  cases n with
  | ofNat n =>
    have h := readNumber_whole (wholeDigits_decimal n) hr false
    rw [Text.ofDigitChars_decimal] at h
    exact h
  | negSucc n =>
    have h := readNumber_whole (wholeDigits_decimal (n + 1)) hr true
    rw [Text.ofDigitChars_decimal] at h
    exact h

theorem WholeDigits.take (h : WholeDigits whole) (hz : whole.head? ≠ some '0') {k : Nat}
    (hk : 0 < k) : WholeDigits (whole.take k) where
  digits := fun c hc => h.digits c (List.mem_of_mem_take hc)
  nonempty := fun he => h.nonempty ((List.take_eq_nil_iff.1 he).resolve_left (Nat.ne_of_gt hk))
  plain := .inr (by rwa [List.head?_take, if_neg (Nat.ne_of_gt hk)])

/-- The point stands before all digits, with zeros to fill up. -/
theorem readNumber_below_point (hr : EndsNumber rest) (negative : Bool) (c k : Nat) :
    readNumber (Double.signText negative ++
        (['0'] ++ ('.' :: (List.replicate k '0' ++ Text.decimal c) ++ rest))) =
      .ok (.float (.ofDecimal negative c (-(k + (Text.decimal c).length : Nat))), rest) := by
  have hfraction : ∀ d ∈ List.replicate k '0' ++ Text.decimal c, d.isDigit = true := by
    intro d hd
    obtain hz | hd := List.mem_append.1 hd
    · rw [(List.mem_replicate.1 hz).2]
      rfl
    · exact Text.isDigit_of_mem_decimal hd
  have hwhole : WholeDigits ['0'] := ⟨isDigit_zero, by decide, .inl rfl⟩
  have hvalue : Nat.ofDigitChars 10 (['0'] ++ (List.replicate k '0' ++ Text.decimal c)) 0 = c := by
    rw [Nat.ofDigitChars_append, Nat.ofDigitChars_append, Nat.ofDigitChars_replicate_zero,
      show Nat.ofDigitChars 10 ['0'] 0 = 0 from rfl, Nat.mul_zero, Text.ofDigitChars_decimal]
  have h := readNumber_point hwhole hfraction (by simp [Text.decimal_ne_nil]) hr negative
  rw [hvalue, List.length_append, List.length_replicate] at h
  exact h

/-- The point stands behind all digits: zeros fill up to it, and one stands behind it. -/
theorem readNumber_above_point (hc : 0 < c) (hr : EndsNumber rest) (negative : Bool) (k : Nat) :
    readNumber (Double.signText negative ++
        (Text.decimal c ++ List.replicate k '0' ++ ('.' :: ['0'] ++ rest))) =
      .ok (.float (.ofDecimal negative c k), rest) := by
  have hpos : 0 < c * Nat.pow 10 k := Nat.mul_pos hc (Nat.pow_pos (by decide))
  have hcoefficient : Nat.ofDigitChars 10 (Text.decimal (c * Nat.pow 10 k) ++ ['0']) 0 =
      c * Nat.pow 10 (k + 1) := by
    rw [← Text.decimal_mul_ten hpos, Text.ofDigitChars_decimal]
    exact Nat.mul_assoc _ _ _
  have he : (-(['0'].length : Int)) = k - (k + 1 : Nat) := by
    simp only [List.length_singleton]
    omega
  have h := readNumber_point (wholeDigits_decimal (c * Nat.pow 10 k)) isDigit_zero (by decide) hr
    negative
  rw [hcoefficient, he, Double.ofDecimal_mul_pow hc, Text.decimal_mul_pow hc] at h
  exact h

/-- The point stands between two digits. -/
theorem readNumber_inside_point (hc : 0 < c) (hr : EndsNumber rest) (negative : Bool) {k : Nat}
    (hk : 0 < k) (hlt : k < (Text.decimal c).length) :
    readNumber (Double.signText negative ++
        ((Text.decimal c).take k ++ ('.' :: (Text.decimal c).drop k ++ rest))) =
      .ok (.float (.ofDecimal negative c (-((Text.decimal c).length - k : Nat))), rest) := by
  have hwhole := (wholeDigits_decimal c).take (Text.head?_decimal hc) hk
  have hfraction : ∀ d ∈ (Text.decimal c).drop k, d.isDigit = true :=
    fun d hd => Text.isDigit_of_mem_decimal (List.mem_of_mem_drop hd)
  have hne : (Text.decimal c).drop k ≠ [] := fun h =>
    Nat.not_le_of_lt hlt (List.drop_eq_nil_iff.1 h)
  have h := readNumber_point hwhole hfraction hne hr negative
  rw [List.take_append_drop, Text.ofDigitChars_decimal, List.length_drop] at h
  exact h

theorem readNumber_positional {point : Int} (hc : 0 < c) (hr : EndsNumber rest)
    (negative : Bool) :
    readNumber (Double.signText negative ++ (Decimal.positional (Text.decimal c) point ++ rest)) =
      .ok (.float (.ofDecimal negative c (point - (Text.decimal c).length)), rest) := by
  simp only [Decimal.positional]
  split
  · have h := readNumber_below_point hr negative c point.natAbs
    have he : -((point.natAbs + (Text.decimal c).length : Nat) : Int) =
        point - (Text.decimal c).length := by omega
    rw [he] at h
    simpa using h
  · split
    · have h := readNumber_above_point hc hr negative (point.toNat - (Text.decimal c).length)
      have he : ((point.toNat - (Text.decimal c).length : Nat) : Int) =
          point - (Text.decimal c).length := by omega
      rw [he] at h
      simpa using h
    · have h := readNumber_inside_point hc hr negative (k := point.toNat) (by omega) (by omega)
      have he : -(((Text.decimal c).length - point.toNat : Nat) : Int) =
          point - (Text.decimal c).length := by omega
      rw [he] at h
      simpa using h

theorem readNumber_scientific {exponent : Int} (hc : 0 < c) (hr : EndsNumber rest)
    (negative : Bool) :
    readNumber
        (Double.signText negative ++ (Decimal.scientific (Text.decimal c) exponent ++ rest)) =
      .ok (.float (.ofDecimal negative c (exponent + 1 - (Text.decimal c).length)), rest) := by
  have hw := wholeDigits_decimal c
  have hz := Text.head?_decimal hc
  have hvalue := Text.ofDigitChars_decimal c
  simp only [Decimal.scientific]
  generalize Text.decimal c = digits at hw hz hvalue
  split
  · next first second tail =>
    have hwhole := hw.take hz (k := 1) (by decide)
    have hfraction : ∀ d ∈ second :: tail, d.isDigit = true :=
      fun d hd => hw.digits d (List.mem_cons_of_mem _ hd)
    have h := readNumber_point_mark hwhole hfraction (by simp) exponent hr negative
    have he : exponent - ((second :: tail).length : Int) =
        exponent + 1 - ((first :: second :: tail).length : Int) := by
      simp only [List.length_cons]
      omega
    have happend : (first :: second :: tail).take 1 ++ (second :: tail) =
      first :: second :: tail := rfl
    rw [happend, hvalue, he] at h
    simpa [exponentText] using h
  · next hshort =>
    have hlen : digits.length = 1 := by
      match digits, hw.nonempty with
      | [_], _ => rfl
      | first :: second :: tail, _ => exact absurd rfl (hshort first second tail)
    have h := readNumber_mark hw exponent hr negative
    rw [hvalue] at h
    simpa [exponentText, hlen] using h

theorem readNumber_decimalText {d : Decimal} (hd : 0 < d.coefficient) (hr : EndsNumber rest)
    (negative : Bool) :
    readNumber (Double.signText negative ++ (d.text ++ rest)) =
      .ok (.float (.ofDecimal negative d.coefficient d.exponent), rest) := by
  have he : ((Text.decimal d.coefficient).length : Int) + d.exponent -
      (Text.decimal d.coefficient).length = d.exponent := by omega
  simp only [Decimal.text]
  split
  · rw [readNumber_positional hd hr, he]
  · rw [readNumber_scientific hd hr, Int.sub_add_cancel, he]

/-- A finite double is read as it was written. -/
theorem readNumber_finite (rank : Fin doubleRanks) (hr : EndsNumber rest) (negative : Bool) :
    readNumber ((Double.finite negative rank).text doubleSpelling ++ rest) =
      .ok (.float (.finite negative rank), rest) := by
  obtain hz | hp := Nat.eq_zero_or_pos rank.val
  · have hwhole : WholeDigits ['0'] := ⟨isDigit_zero, by decide, .inl rfl⟩
    have h := readNumber_point hwhole isDigit_zero (by decide) hr negative
    have hzero : Double.ofDecimal negative (Nat.ofDigitChars 10 ['0', '0'] 0) (-1) =
        .finite negative rank := by
      rw [Double.ofDecimal_eq, if_pos (.inl rfl), Double.ofRank, dif_pos (by decide)]
      exact congrArg _ (Fin.ext hz.symm)
    rw [Double.text, if_pos hz, List.append_assoc]
    exact hzero ▸ h
  · have hb := Double.readsBack_shortest rank.isLt hp
    have hc := Double.coefficient_shortest_pos rank.isLt hp
    rw [Double.readsBack, beq_iff_eq] at hb
    rw [Double.text, if_neg (Nat.ne_of_gt hp), List.append_assoc, readNumber_decimalText hc hr,
      ← Double.withSign_ofDecimal, hb, Double.withSign_ofRank, Double.ofRank, dif_pos rank.isLt]

end Sitewright.Json
