import Sitewright.Proofs.Json.Acceptance
import Sitewright.Proofs.Json.Document

namespace Sitewright.Json

open Text.Utf16

variable {s rest digits : List Char} {v w : Json} {room more : Nat}

theorem Blanks.append (h : Blanks s rest) (tail : List Char) :
    Blanks (s ++ tail) (rest ++ tail) := by
  induction h with
  | none => exact .none _
  | next hc _ ih => exact .next hc ih

theorem Inside.append {t : Spelled} {text : String} (h : Inside t s text rest) (tail : List Char) :
    Inside t (s ++ tail) text (rest ++ tail) := by
  induction h with
  | close => exact .close _ _
  | plain hquote hslash hcontrol _ ih => exact .plain hquote hslash hcontrol ih
  | escape he _ ih => exact .escape he ih
  | unit hn _ ih => exact .unit hn ih

theorem Fraction.append (h : Fraction s digits rest) (tail : List Char) :
    Fraction (s ++ tail) digits (rest ++ tail) := by
  cases h with
  | none => exact .none _
  | point hd hn =>
    rw [List.cons_append, List.cons_append, List.append_assoc]
    exact .point hd hn _

theorem Exponent.append {exponent : Option Int} (h : Exponent s exponent rest) (tail : List Char) :
    Exponent (s ++ tail) exponent (rest ++ tail) := by
  cases h with
  | none => exact .none _
  | mark hm hs hd hn =>
    rw [List.cons_append, List.append_assoc, List.append_assoc]
    exact .mark hm hs hd hn _

theorem Numeral.append (h : Numeral s v rest) (tail : List Char) :
    Numeral (s ++ tail) v (rest ++ tail) := by
  cases h with
  | int negative hw hl =>
    rw [List.append_assoc, List.append_assoc]
    exact .int negative hw hl _
  | float negative hw hf he h =>
    rw [List.append_assoc, List.append_assoc]
    exact .float negative hw (hf.append tail) (he.append tail) h

mutual

/-- What spells a value does so with more text behind it and with more room. -/
theorem Spells.append {room more : Nat} {s rest : List Char} {v : Json} (hm : room ≤ more)
    (tail : List Char) : Spells room s v rest → Spells more (s ++ tail) v (rest ++ tail)
  | .word hw _ => by
    rw [List.append_assoc]
    exact .word hw _
  | .number h => .number (h.append tail)
  | .string h => .string (h.append tail)
  | .emptyArray h => by
    obtain ⟨inside, rfl, -⟩ := exists_room hm
    exact .emptyArray (h.append tail)
  | .array hb h => by
    obtain ⟨inside, rfl, hi⟩ := exists_room hm
    exact .array (hb.append tail) (h.append hi tail)
  | .emptyObject h => by
    obtain ⟨inside, rfl, -⟩ := exists_room hm
    exact .emptyObject (h.append tail)
  | .object hb h => by
    obtain ⟨inside, rfl, hi⟩ := exists_room hm
    exact .object (hb.append tail) (h.append hi tail)

theorem SpellsItems.append {room more : Nat} {s rest : List Char} {items : List Json}
    (hm : room ≤ more) (tail : List Char) :
    SpellsItems room s items rest → SpellsItems more (s ++ tail) items (rest ++ tail)
  | .last hv hb => .last (hv.append hm tail) (hb.append tail)
  | .next hv hb hb' h =>
    .next (hv.append hm tail) (hb.append tail) (hb'.append tail) (h.append hm tail)

theorem SpellsEntries.append {room more : Nat} {s rest : List Char}
    {entries : List (String × Json)} (hm : room ≤ more) (tail : List Char) :
    SpellsEntries room s entries rest → SpellsEntries more (s ++ tail) entries (rest ++ tail)
  | .last hn hc hc' hv hb =>
    .last (hn.append tail) (hc.append tail) (hc'.append tail) (hv.append hm tail) (hb.append tail)
  | .next hn hc hc' hv hb hb' h =>
    .next (hn.append tail) (hc.append tail) (hc'.append tail) (hv.append hm tail) (hb.append tail)
      (hb'.append tail) (h.append hm tail)

end

theorem not_numeral_brace : ¬Numeral ('{' :: s) v rest := by
  intro h
  have hsigned {negative : Bool} {whole t : List Char} (hw : WholeDigits whole) :
      '{' :: s ≠ Double.signText negative ++ (whole ++ t) := by
    intro he
    cases negative with
    | true => cases he
    | false =>
      obtain ⟨d, whole, rfl⟩ := List.exists_cons_of_ne_nil hw.nonempty
      have hd := hw.digits d (.head _)
      obtain rfl := (List.cons.inj he).1
      cases hd
  generalize hall : '{' :: s = all at h
  cases h with
  | int negative hw => exact hsigned hw hall
  | float negative hw => exact hsigned hw hall

/-- What begins with a brace is read as an object, whatever comes after that. -/
theorem readValue_brace (h : Spells room ('{' :: s) v rest) {steps : Nat}
    (hs : 2 * ('{' :: s).length < steps) : readValue steps room ('{' :: s) = .ok (v, rest) := by
  obtain ⟨steps, rfl⟩ := Nat.exists_eq_succ_of_ne_zero (Nat.ne_zero_of_lt hs)
  generalize hall : '{' :: s = all at h
  cases h with
  | word hw =>
    simp only [words, List.mem_cons, List.not_mem_nil, or_false] at hw
    obtain rfl | rfl | rfl | rfl | rfl | rfl := hw <;> cases hall
  | number h => exact absurd (hall ▸ h) not_numeral_brace
  | string => cases hall
  | emptyArray => cases hall
  | array => cases hall
  | emptyObject h =>
    obtain rfl := (List.cons.inj hall).2
    exact readValue_emptyObject h ..
  | object hb h =>
    obtain rfl := (List.cons.inj hall).2
    exact (readIn steps).object_succ hb h hs

/-- The text of an object that breaks off before its end is no document. -/
theorem Document.eq_of_prefix {setting : Setting} (hset : setting.Sound) {fields : Fields}
    (hv : (obj fields).Distinct) (hp : s <+: textWith setting 0 (.obj fields))
    (h : Document room s w) : s = textWith setting 0 (.obj fields) ∧ w = .obj fields := by
  obtain ⟨tail, htext⟩ := hp
  obtain ⟨inside, hbrace⟩ : ∃ inside, textWith setting 0 (.obj fields) = '{' :: inside := by
    cases fields with
    | nil => exact ⟨_, rfl⟩
    | cons field fields => exact ⟨_, textWith_obj ..⟩
  cases s with
  | nil => cases readChars_eq_ok_iff.2 h
  | cons c s =>
    obtain rfl : c = '{' := (List.cons.inj (htext.trans hbrace)).1
    obtain ⟨s₁, s₂, hb, hspells, -⟩ := h
    obtain _ | ⟨hc, -⟩ := hb
    · -- Read to its end, the text gives what was written, and what its beginning spells.
      have hmore := hspells.append (Nat.le_max_left room (obj fields).depth) tail
      have hbegun := readValue_brace hmore (Nat.lt_succ_self _)
      have hwhole := readValue_textWith hset (.obj fields) hv (2 * ('{' :: s ++ tail).length + 1)
        (max room (obj fields).depth) 0 [] (Nat.le_max_right ..) (htext ▸ Nat.lt_succ_self _)
        endsNumber_nil
      rw [List.append_nil, ← htext] at hwhole
      replace hwhole := hbegun.symm.trans hwhole
      cases hlong : (obj fields).long? with
      | some e =>
        rw [hlong] at hwhole
        cases hwhole
      | none =>
        rw [hlong, unlessLong, Except.ok.injEq, Prod.mk.injEq] at hwhole
        obtain rfl := (List.append_eq_nil_iff.1 hwhole.2).2
        rw [List.append_nil] at htext
        exact ⟨htext, hwhole.1⟩
    · cases hc

end Sitewright.Json
