import Sitewright.Proofs.Except
import Sitewright.Proofs.Json.Grammar
import Sitewright.Proofs.Json.Reading

namespace Sitewright.Json

open Text.Utf16

section Soundness

variable {room : Nat} {s rest : List Char} {v : Json}

theorem blanks_skipBlank (s : List Char) : Blanks s (skipBlank s) := by
  induction s with
  | nil => exact .none []
  | cons c s ih =>
    by_cases hc : isBlank c = true
    · rw [skipBlank, List.dropWhile_cons_of_pos hc]
      exact .next hc ih
    · rw [skipBlank, List.dropWhile_cons_of_neg hc]
      exact .none _

theorem blanks_of_skipBlank {c : Char} (h : skipBlank s = c :: rest) : Blanks s (c :: rest) :=
  h ▸ blanks_skipBlank s

theorem inside_of_readString {start : List Char} {t : Spelled} {text : String}
    (h : readString start t s = .ok (text, rest)) : Inside t s text rest := by
  fun_induction readString start t s with
  | case1 => cases h
  | case2 =>
    cases h
    exact .close _ _
  | case3 => cases h
  | case4 _ _ _ _ _ _ _ _ hn _ ih => exact .unit hn (ih h)
  | case5 => cases h
  | case6 _ _ _ _ _ he _ ih => exact .escape he (ih h)
  | case7 => cases h
  | case8 => cases h
  | case9 => cases h
  | case10 _ c rest hquote hslash hcontrol ih =>
    exact .plain hquote hslash (Nat.le_of_not_lt hcontrol) (ih h)

theorem digits_of_span {digits : List Char} (h : s.span Char.isDigit = (digits, rest)) :
    s = digits ++ rest ∧ ∀ c ∈ digits, c.isDigit = true := by
  rw [List.span_eq_takeWhile_dropWhile] at h
  cases h
  exact ⟨(List.takeWhile_append_dropWhile).symm, fun c hc => List.mem_takeWhile_imp hc⟩

theorem wholeDigits_wholePart (h : (wholePart s).1 ≠ []) : WholeDigits (wholePart s).1 := by
  refine ⟨(wholePart_spec s).2, h, ?_⟩
  unfold wholePart at h ⊢
  split
  · exact .inl rfl
  · next hzero =>
    right
    intro hz
    rw [List.span_eq_takeWhile_dropWhile] at hz
    match s with
    | [] => cases hz
    | c :: tail =>
      obtain rfl : c = '0' := by
        by_cases hc : c.isDigit = true
        · rw [List.takeWhile_cons_of_pos hc] at hz
          exact Option.some.inj hz
        · rw [List.takeWhile_cons_of_neg hc] at hz
          cases hz
      exact hzero tail rfl

theorem fraction_fractionPart (s : List Char) :
    Fraction s (fractionPart s).1 (fractionPart s).2 := by
  unfold fractionPart
  split
  · next rest =>
    split
    · exact .none _
    · next hne =>
      cases hs : rest.span Char.isDigit with
      | mk digits after =>
        obtain ⟨rfl, hd⟩ := digits_of_span hs
        exact .point hd (fun he => hne after (by rw [hs, he])) after
  · exact .none _

theorem Fraction.rest_eq (h : Fraction s [] rest) : s = rest := by
  cases h with
  | none => rfl
  | point hd hn => exact absurd rfl hn

theorem exponent_of_exponentDigits {negative : Bool} {exponent : Int}
    (h : exponentDigits negative s = some (exponent, rest)) :
    ∃ digits, digits ≠ [] ∧ (∀ c ∈ digits, c.isDigit = true) ∧ s = digits ++ rest ∧
      exponent = wholeNumber negative digits := by
  unfold exponentDigits at h
  split at h
  · cases h
  · next digits after hne hs =>
    obtain ⟨rfl, hd⟩ := digits_of_span hs
    cases h
    exact ⟨digits, hne, hd, rfl, rfl⟩

theorem exponent_of_exponentPart {exponent : Int}
    (h : exponentPart s = some (exponent, rest)) : Exponent s (some exponent) rest := by
  unfold exponentPart at h
  split at h
  · split_ifs at h with hm
    split at h
    · obtain ⟨digits, hn, hd, rfl, rfl⟩ := exponent_of_exponentDigits h
      exact .mark hm .minus hd hn rest
    · obtain ⟨digits, hn, hd, rfl, rfl⟩ := exponent_of_exponentDigits h
      exact .mark hm .plus hd hn rest
    · obtain ⟨digits, hn, hd, rfl, rfl⟩ := exponent_of_exponentDigits h
      exact .mark hm .none hd hn rest
  · cases h

theorem numeral_of_readNumber (h : readNumber s = .ok (v, rest)) : Numeral s v rest := by
  unfold readNumber at h
  split at h
  next negative unsigned hu =>
  have hs : s = Double.signText negative ++ unsigned := by
    split at hu <;> cases hu <;> rfl
  have hsplit := (wholePart_spec unsigned).1
  have hw (h : (wholePart unsigned).1 ≠ []) := wholeDigits_wholePart h
  have hf := fraction_fractionPart (wholePart unsigned).2
  dsimp only at h
  generalize wholePart unsigned = parts at h hsplit hw hf
  obtain ⟨whole, after⟩ := parts
  dsimp only at h hsplit hw hf
  generalize fractionPart after = parts at h hf
  obtain ⟨fraction, left⟩ := parts
  dsimp only at h hf
  split at h
  · cases h
  next hempty =>
  replace hw := hw fun he => hempty (List.isEmpty_iff.2 he)
  rw [hs, hsplit]
  split at h
  · next exponent after he =>
    cases h
    exact .float negative hw hf (exponent_of_exponentPart he) (.inr rfl)
  · split at h
    · next hfraction =>
      cases h
      have hne : fraction ≠ [] := by
        rintro rfl
        cases hfraction
      have hnumeral := Numeral.float negative hw hf (.none rest) (.inl hne)
      rw [Option.getD_none, Int.zero_sub] at hnumeral
      exact hnumeral
    · next hfraction =>
      split at h
      · cases h
      · next hlong =>
        cases h
        rw [Bool.not_eq_true', Bool.not_eq_false, List.isEmpty_iff] at hfraction
        subst hfraction
        rw [hf.rest_eq, List.append_nil]
        exact .int negative hw (Nat.le_of_not_lt hlong) rest

theorem spells_of_readWord? {found : Json × List Char} (h : readWord? s = some found) :
    Spells room s found.1 found.2 := by
  obtain ⟨w, hw, hf⟩ := List.exists_of_findSome?_eq_some h
  split at hf
  · next hprefix =>
    cases hf
    obtain ⟨rest, rfl⟩ := List.isPrefixOf_iff_prefix.1 hprefix
    rw [List.drop_left]
    exact .word hw rest
  · cases hf

/-- What is read in so many steps has been spelled. -/
structure SpelledIn (steps : Nat) : Prop where
  value : ∀ {room s v rest}, readValue steps room s = .ok (v, rest) → Spells room s v rest
  items : ∀ {room s items rest}, readItems steps room s = .ok (items, rest) →
    SpellsItems room s items rest
  fields : ∀ {room done s fields rest}, readFields steps room done s = .ok (fields, rest) →
    ∃ entries, SpellsEntries room s entries rest ∧
      fields = entries.foldl (fun m entry => Keyed.put entry.1 entry.2 m) done

variable {steps : Nat}

theorem SpelledIn.value_succ (ih : SpelledIn steps)
    (h : readValue (steps + 1) room s = .ok (v, rest)) : Spells room s v rest := by
  rw [readValue.eq_def] at h
  dsimp only at h
  split at h
  · obtain ⟨⟨text, after⟩, hr, he⟩ := map_eq_ok_iff.1 h
    cases he
    exact .string (inside_of_readString hr)
  · next inside =>
    split at h
    · cases h
    · split at h
      · next after hb =>
        cases h
        exact .emptyArray (blanks_of_skipBlank hb)
      · obtain ⟨⟨items, after⟩, hr, he⟩ := map_eq_ok_iff.1 h
        cases he
        exact .array (blanks_skipBlank inside) (ih.items hr)
  · next inside =>
    split at h
    · cases h
    · split at h
      · next after hb =>
        cases h
        exact .emptyObject (blanks_of_skipBlank hb)
      · obtain ⟨⟨fields, after⟩, hr, he⟩ := map_eq_ok_iff.1 h
        obtain ⟨entries, hentries, rfl⟩ := ih.fields hr
        cases he
        exact .object (blanks_skipBlank inside) hentries
  · split at h
    · next found hf =>
      cases h
      exact spells_of_readWord? hf
    · exact .number (numeral_of_readNumber h)

theorem SpelledIn.items_succ {items : List Json} (ih : SpelledIn steps)
    (h : readItems (steps + 1) room s = .ok (items, rest)) : SpellsItems room s items rest := by
  rw [readItems] at h
  split at h
  · cases h
  · next item afterItem hv =>
    split at h
    · next after hb =>
      cases h
      exact .last (ih.value hv) (blanks_of_skipBlank hb)
    · next after hb =>
      obtain ⟨⟨others, _⟩, hr, he⟩ := map_eq_ok_iff.1 h
      cases he
      exact .next (ih.value hv) (blanks_of_skipBlank hb) (blanks_skipBlank after) (ih.items hr)
    · cases h

theorem SpelledIn.fields_succ {done fields : Fields} (ih : SpelledIn steps)
    (h : readFields (steps + 1) room done s = .ok (fields, rest)) :
    ∃ entries, SpellsEntries room s entries rest ∧
      fields = entries.foldl (fun m entry => Keyed.put entry.1 entry.2 m) done := by
  rw [readFields.eq_def] at h
  dsimp only at h
  split at h
  · split at h
    · cases h
    · next name afterName hn =>
      split at h
      · next beforeValue hc =>
        split at h
        · cases h
        · next value afterValue hv =>
          have hname := inside_of_readString hn
          have hcolon := blanks_of_skipBlank hc
          have hbefore := blanks_skipBlank beforeValue
          split at h
          · next after hb =>
            cases h
            exact ⟨[(name, value)],
              .last hname hcolon hbefore (ih.value hv) (blanks_of_skipBlank hb), rfl⟩
          · next after hb =>
            obtain ⟨entries, hentries, rfl⟩ := ih.fields h
            exact ⟨(name, value) :: entries, .next hname hcolon hbefore (ih.value hv)
              (blanks_of_skipBlank hb) (blanks_skipBlank after) hentries, rfl⟩
          · cases h
      · cases h
  · cases h

theorem spelledIn (steps : Nat) : SpelledIn steps := by
  induction steps with
  | zero =>
    refine ⟨fun h => ?_, fun h => ?_, fun h => ?_⟩
    · rw [readValue] at h
      cases h
    · rw [readItems] at h
      cases h
    · rw [readFields] at h
      cases h
  | succ steps ih => exact ⟨ih.value_succ, ih.items_succ, ih.fields_succ⟩

theorem document_of_readChars (h : readChars room s = .ok v) : Document room s v := by
  rw [readChars, mapError_eq_ok_iff, readWhole] at h
  split at h
  · cases h
  · next value after hv =>
    split at h
    · next hb =>
      cases h
      exact ⟨_, _, blanks_skipBlank s, (spelledIn _).value hv, hb ▸ blanks_skipBlank after⟩
    · cases h

end Soundness

section Completeness

variable {room : Nat} {s rest : List Char} {v : Json}

theorem readString_of_inside {t : Spelled} {text : String} (h : Inside t s text rest)
    (start : List Char) : readString start t s = .ok (text, rest) := by
  induction h with
  | close t rest =>
    rw [readString.eq_def]
    exact if_pos rfl
  | plain hquote hslash hcontrol h ih =>
    rw [readString.eq_def]
    dsimp only
    rw [if_neg hquote, if_neg hslash, if_neg (Nat.not_lt.2 hcontrol), ih]
  | escape he h ih =>
    rw [readString.eq_def]
    dsimp only
    rw [if_neg (by decide), if_pos rfl]
    split
    · next hnil => cases hnil
    · next hunit =>
      cases hunit
      cases he
    · next hescape =>
      cases hescape
      rw [he]
      exact ih
  | @unit t a b c d n s _ _ hn h ih =>
    have hne : s.isEmpty = false := by cases h <;> rfl
    rw [readString.eq_def]
    dsimp only
    rw [if_neg (by decide), if_pos rfl]
    simp only [hn, hne, ih]

theorem exponentDigits_append {digits : List Char} (hd : ∀ c ∈ digits, c.isDigit = true)
    (hn : digits ≠ []) (hr : EndsDigits rest) (negative : Bool) :
    exponentDigits negative (digits ++ rest) = some (wholeNumber negative digits, rest) := by
  rw [exponentDigits, span_digits hd hr]
  obtain ⟨c, tail, rfl⟩ := List.exists_cons_of_ne_nil hn
  rfl

theorem exponentPart_of_exponent {exponent : Int} (h : Exponent s (some exponent) rest)
    (hr : EndsDigits rest) : exponentPart s = some (exponent, rest) := by
  cases h with
  | @mark m sign digits negative hm hs hd hn =>
    have hdigits := exponentDigits_append hd hn hr
    rw [exponentPart.eq_def]
    dsimp only
    rw [if_pos hm]
    cases hs with
    | plus => exact hdigits false
    | minus => exact hdigits true
    | none =>
      obtain ⟨c, tail, rfl⟩ := List.exists_cons_of_ne_nil hn
      have hc := hd c List.mem_cons_self
      rw [List.nil_append]
      split
      · next he =>
        cases he
        cases hc
      · next he =>
        cases he
        cases hc
      · exact hdigits false

theorem Exponent.endsNumber {exponent : Option Int} (h : Exponent s exponent rest)
    (hr : EndsNumber rest) : EndsDigits s ∧ s.head? ≠ some '.' := by
  cases h with
  | none => exact ⟨hr.endsDigits, fun h => (hr '.' h).2.1 rfl⟩
  | mark hm =>
    obtain rfl | rfl := hm <;> exact ⟨endsDigits_cons rfl, by simp⟩

theorem readNumber_of_numeral (h : Numeral s v rest) (hr : EndsNumber rest) :
    readNumber s = .ok (v, rest) := by
  cases h with
  | int negative hw hl =>
    rw [readNumber_whole hw hr, if_neg (Nat.not_lt.2 hl)]
    rfl
  | @float whole s fraction after _ exponent negative hw hf he h =>
    obtain ⟨hdigits, hpoint⟩ := he.endsNumber hr
    have hparts : EndsDigits s ∧ fractionPart s = (fraction, after) := by
      cases hf with
      | none => exact ⟨hdigits, fractionPart_none hpoint⟩
      | point hd hn => exact ⟨endsDigits_cons rfl, fractionPart_point hd hn hdigits⟩
    rw [readNumber_parts hw hparts.1 hparts.2]
    cases exponent with
    | some exponent =>
      rw [exponentPart_of_exponent he hr.endsDigits]
      rfl
    | none =>
      cases he
      have hne : fraction.isEmpty = false :=
        List.isEmpty_eq_false_iff.2 (h.resolve_right nofun)
      rw [exponentPart_none hr, hne, Option.getD_none, Int.zero_sub]
      rfl

/-- What has been spelled is read in so many steps, if they are enough for the text. -/
structure ReadIn (steps : Nat) : Prop where
  value : ∀ {room s v rest}, Spells room s v rest → EndsNumber rest → 2 * s.length < steps →
    readValue steps room s = .ok (v, rest)
  items : ∀ {room s items rest}, SpellsItems room s items rest → 2 * s.length + 1 < steps →
    readItems steps room s = .ok (items, rest)
  fields : ∀ {room s entries rest} (done : Fields), SpellsEntries room s entries rest →
    2 * s.length + 1 < steps → readFields steps room done s =
      .ok (entries.foldl (fun m entry => Keyed.put entry.1 entry.2 m) done, rest)

variable {steps : Nat}

theorem length_le_of_readValue (h : readValue steps room s = .ok (v, rest)) :
    rest.length ≤ s.length := by
  have hs := (readsIn steps).value room s
  rw [h] at hs
  exact hs.2.length_le

theorem skipBlank_of_readValue_eq {r : Json × List Char} (h : readValue steps room s = .ok r) :
    skipBlank s = s := by
  obtain ⟨_, _, _, _, hb⟩ := skipBlank_of_readValue fun s' he => by
    rw [h] at he
    cases he
  exact hb

theorem readValue_emptyObject (h : Blanks s ('}' :: rest)) (steps room : Nat) :
    readValue (steps + 1) (room + 1) ('{' :: s) = .ok (.obj [], rest) := by
  rw [readValue, h.skipBlank_cons rfl]
  rfl

/-- An object ends with its brace, whatever comes after that. -/
theorem ReadIn.object_succ {s₁ : List Char} {entries : List (String × Json)} (ih : ReadIn steps)
    (hb : Blanks s s₁) (h : SpellsEntries room s₁ entries rest)
    (hs : 2 * ('{' :: s).length < steps + 1) :
    readValue (steps + 1) (room + 1) ('{' :: s) = .ok (.obj (Keyed.ofList entries), rest) := by
  rw [List.length_cons] at hs
  have hlen := hb.length_le
  have hf := ih.fields [] h (by omega)
  obtain ⟨inside, rfl⟩ : ∃ inside, s₁ = '"' :: inside := by cases h <;> exact ⟨_, rfl⟩
  rw [readValue_obj (hb.skipBlank_cons rfl) (by decide), hf]
  rfl

theorem ReadIn.value_succ (ih : ReadIn steps) (h : Spells room s v rest) (hr : EndsNumber rest)
    (hs : 2 * s.length < steps + 1) : readValue (steps + 1) room s = .ok (v, rest) := by
  cases h with
  | word hw =>
    simp only [words, List.mem_cons, List.not_mem_nil, or_false] at hw
    obtain rfl | rfl | rfl | rfl | rfl | rfl := hw <;> rfl
  | number h => exact readValue_of_readNumber (l := none) (readNumber_of_numeral h hr) steps
  | string h =>
    rw [readValue, readString_of_inside h]
    rfl
  | emptyArray h =>
    rw [readValue, h.skipBlank_cons rfl]
    rfl
  | emptyObject h => exact readValue_emptyObject h ..
  | @array _ s s₁ _ items hb h =>
    rw [List.length_cons] at hs
    have hlen := hb.length_le
    have hi := ih.items h (by omega)
    obtain ⟨c, tail, rfl, hc, hskip⟩ := skipBlank_of_readItems fun s' he => by
      rw [hi] at he
      cases he
    rw [readValue_arr (hb.skipBlank_eq.trans hskip) hc, hi]
    rfl
  | object hb h => exact ih.object_succ hb h hs

theorem ReadIn.items_succ {items : List Json} (ih : ReadIn steps)
    (h : SpellsItems room s items rest) (hs : 2 * s.length + 1 < steps + 1) :
    readItems (steps + 1) room s = .ok (items, rest) := by
  cases h with
  | last hv hb =>
    have hvalue := ih.value hv (hb.endsNumber (endsNumber_cons (by decide))) (by omega)
    exact readItems_last hvalue (hb.skipBlank_cons rfl)
  | @next _ _ s₁ s₂ s₃ _ item items hv hb hb' h =>
    have hvalue := ih.value hv (hb.endsNumber (endsNumber_cons (by decide))) (by omega)
    have hlen := length_le_of_readValue hvalue
    have hlen₁ := hb.length_le
    have hlen₂ := hb'.length_le
    rw [List.length_cons] at hlen₁
    have hi := ih.items h (by omega)
    obtain ⟨_, _, _, _, hskip⟩ := skipBlank_of_readItems fun s' he => by
      rw [hi] at he
      cases he
    rw [readItems_next hvalue (hb.skipBlank_cons rfl), hb'.skipBlank_eq, hskip, hi]
    rfl

theorem readFields_inside {s₁ s₂ s₃ : List Char} {name : String} (hn : Inside {} s name s₁)
    (hc : Blanks s₁ (':' :: s₂)) (hc' : Blanks s₂ s₃) {value : Json} {s₄ : List Char}
    (hv : readValue steps room s₃ = .ok (value, s₄)) (done : Fields) :
    readFields (steps + 1) room done ('"' :: s) =
      match skipBlank s₄ with
      | '}' :: after => .ok (done.put name value, after)
      | ',' :: after => readFields steps room (done.put name value) (skipBlank after)
      | other => .error (.fault .comma other) := by
  have hvalue : readValue steps room (skipBlank s₂) = .ok (value, s₄) := by
    rw [hc'.skipBlank_eq, skipBlank_of_readValue_eq hv, hv]
  rw [readFields, readString_of_inside hn]
  dsimp only
  rw [hc.skipBlank_cons rfl]
  split
  · next rest heq =>
    obtain rfl : s₂ = rest := (List.cons.inj heq).2
    generalize readValue steps room (skipBlank s₂) = given at hvalue ⊢
    subst hvalue
    rfl
  · next hcolon => exact absurd rfl (hcolon s₂)

theorem ReadIn.fields_succ {entries : List (String × Json)} (ih : ReadIn steps) (done : Fields)
    (h : SpellsEntries room s entries rest) (hs : 2 * s.length + 1 < steps + 1) :
    readFields (steps + 1) room done s =
      .ok (entries.foldl (fun m entry => Keyed.put entry.1 entry.2 m) done, rest) := by
  cases h with
  | last hn hc hc' hv hb =>
    have hlen := hn.length_lt
    have hlen₁ := hc.length_le
    have hlen₂ := hc'.length_le
    rw [List.length_cons] at hs hlen₁
    have hvalue := ih.value hv (hb.endsNumber (endsNumber_cons (by decide))) (by omega)
    rw [readFields_inside hn hc hc' hvalue, hb.skipBlank_cons rfl]
    rfl
  | @next _ _ _ _ _ _ _ s₆ _ name value _ hn hc hc' hv hb hb' h =>
    have hlen := hn.length_lt
    have hlen₁ := hc.length_le
    have hlen₂ := hc'.length_le
    have hlen₃ := hb.length_le
    have hlen₄ := hb'.length_le
    rw [List.length_cons] at hs hlen₁ hlen₃
    have hvalue := ih.value hv (hb.endsNumber (endsNumber_cons (by decide))) (by omega)
    have hlen₅ := length_le_of_readValue hvalue
    have hquote : skipBlank s₆ = s₆ := by cases h <;> exact skipBlank_cons rfl _
    have hskip := hb'.skipBlank_eq.trans hquote
    have hf := ih.fields (done.put name value) h (by omega)
    rw [readFields_inside hn hc hc' hvalue, hb.skipBlank_cons rfl]
    rw [← hskip] at hf
    exact hf

theorem readIn (steps : Nat) : ReadIn steps := by
  induction steps with
  | zero =>
    refine ⟨fun _ _ hs => ?_, fun _ hs => ?_, fun _ _ hs => ?_⟩ <;>
      exact absurd hs (Nat.not_lt_zero _)
  | succ steps ih => exact ⟨ih.value_succ, ih.items_succ, ih.fields_succ⟩

/-- A text is read as a value just if it is a document of that value. -/
theorem readChars_eq_ok_iff : readChars room s = .ok v ↔ Document room s v := by
  refine ⟨document_of_readChars, ?_⟩
  rintro ⟨s₁, s₂, hb, hv, hb'⟩
  have hlen := hb.length_le
  have hvalue : readValue (2 * s.length + 2) room s₁ = .ok (v, s₂) :=
    (readIn _).value hv (hb'.endsNumber endsNumber_nil) (by omega)
  rw [readChars, mapError_eq_ok_iff, readWhole, hb.skipBlank_eq,
    skipBlank_of_readValue_eq hvalue, hvalue]
  dsimp only
  rw [hb'.skipBlank_eq]
  rfl

theorem Document.distinct (h : Document room s v) : v.Distinct :=
  distinct_of_readChars (readChars_eq_ok_iff.2 h)

theorem readChars_mark (s : List Char) : readChars room ('\ufeff' :: s) ≠ .ok v := by
  have hword : readWord? ('\ufeff' :: s) = none := by simp [readWord?, words]
  have hends : EndsDigits ('\ufeff' :: s) := endsDigits_cons rfl
  have hnumber := readNumber_other hends (by simp)
  rw [Ne, readChars, mapError_eq_ok_iff, readWhole, skipBlank_cons rfl,
    readValue_number (by decide) (by decide) (by decide) hword, hnumber]
  intro h
  cases h

/-- No document begins with a byte order mark, so there is no harm in refusing one. -/
theorem read_eq_ok_iff {text : String} : read room text = .ok v ↔ Document room text.toList v := by
  rw [read, ← readChars_eq_ok_iff]
  split
  · next hmark =>
    refine iff_of_false nofun fun h => ?_
    obtain ⟨rest, hrest⟩ := List.head?_eq_some_iff.1 hmark
    rw [hrest] at h
    exact readChars_mark rest h
  · exact Iff.rfl

end Completeness

end Sitewright.Json
