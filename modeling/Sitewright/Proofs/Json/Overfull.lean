import Sitewright.Proofs.Json.Acceptance
import Sitewright.Proofs.Json.LineEnds

namespace Sitewright.Json

open Text

mutual

/-- The front of a value that goes one bracket deeper than there is room for. What comes after
that bracket may be anything. -/
inductive Overfills : Nat → List Char → TooDeep → Prop where
  | array (s : List Char) : Overfills 0 ('[' :: s) .array
  | object (s : List Char) : Overfills 0 ('{' :: s) .object
  | items {room : Nat} {s s₁ : List Char} {e : TooDeep} (hb : Blanks s s₁)
    (h : ItemsOverfill room s₁ e) : Overfills (room + 1) ('[' :: s) e
  | entries {room : Nat} {s s₁ : List Char} {e : TooDeep} (hb : Blanks s s₁)
    (h : EntriesOverfill room s₁ e) : Overfills (room + 1) ('{' :: s) e

/-- Items of which the last goes too deep. -/
inductive ItemsOverfill : Nat → List Char → TooDeep → Prop where
  | last {room : Nat} {s : List Char} {e : TooDeep} (h : Overfills room s e) :
    ItemsOverfill room s e
  | next {room : Nat} {s s₁ s₂ s₃ : List Char} {item : Json} {e : TooDeep}
    (hv : Spells room s item s₁) (hb : Blanks s₁ (',' :: s₂)) (hb' : Blanks s₂ s₃)
    (h : ItemsOverfill room s₃ e) : ItemsOverfill room s e

/-- Entries of which the last has a value that goes too deep. -/
inductive EntriesOverfill : Nat → List Char → TooDeep → Prop where
  | last {room : Nat} {s s₁ s₂ s₃ : List Char} {name : String} {e : TooDeep}
    (hn : Inside {} s name s₁) (hc : Blanks s₁ (':' :: s₂)) (hc' : Blanks s₂ s₃)
    (h : Overfills room s₃ e) : EntriesOverfill room ('"' :: s) e
  | next {room : Nat} {s s₁ s₂ s₃ s₄ s₅ s₆ : List Char} {name : String} {value : Json}
    {e : TooDeep} (hn : Inside {} s name s₁) (hc : Blanks s₁ (':' :: s₂)) (hc' : Blanks s₂ s₃)
    (hv : Spells room s₃ value s₄) (hb : Blanks s₄ (',' :: s₅)) (hb' : Blanks s₅ s₆)
    (h : EntriesOverfill room s₆ e) : EntriesOverfill room ('"' :: s) e

end

/-- A text that begins as a document does and then goes deeper than there is room for. -/
def Overfull (room : Nat) (s : List Char) (e : TooDeep) : Prop :=
  ∃ s₁, Blanks s s₁ ∧ Overfills room s₁ e

variable {room steps : Nat} {s rest : List Char} {e : TooDeep}

theorem Overfills.skipBlank_eq (h : Overfills room s e) :
    skipBlank s = s ∧ ∃ c tail, s = c :: tail ∧ c ≠ ']' := by
  cases h with
  | array | items => exact ⟨rfl, _, _, rfl, by decide⟩
  | object | entries => exact ⟨rfl, _, _, rfl, by decide⟩

theorem Overfull.exists_bracket (h : Overfull room s e) : ∃ c ∈ s, c = '[' ∨ c = '{' := by
  obtain ⟨s₁, hb, h⟩ := h
  obtain ⟨pad, rfl, _⟩ := hb.exists_pad
  cases h with
  | array | items => exact ⟨'[', by simp, .inl rfl⟩
  | object | entries => exact ⟨'{', by simp, .inr rfl⟩

theorem readString_ne_deep (start : List Char) (t : Utf16.Spelled) (s : List Char) :
    readString start t s ≠ .error (.halt (.deep e)) := by
  fun_induction readString start t s with
  | case4 _ _ _ _ _ _ _ _ _ _ ih => exact ih
  | case6 _ _ _ _ _ _ _ ih => exact ih
  | case10 _ _ _ _ _ _ ih => exact ih
  | _ => intro h; cases h

theorem readNumber_ne_deep (s : List Char) : readNumber s ≠ .error (.halt (.deep e)) := by
  unfold readNumber
  split
  next negative unsigned hu =>
  dsimp only
  split
  · exact nofun
  · split
    · exact nofun
    · split
      · exact nofun
      · split
        · exact nofun
        · exact nofun

section Soundness

/-- Where reading stops for want of room, the text goes too deep. -/
structure OverfilledIn (steps : Nat) : Prop where
  value : ∀ {room s e}, readValue steps room s = .error (.halt (.deep e)) → Overfills room s e
  items : ∀ {room s e}, readItems steps room s = .error (.halt (.deep e)) → ItemsOverfill room s e
  fields : ∀ {room done s e}, readFields steps room done s = .error (.halt (.deep e)) →
    EntriesOverfill room s e

theorem OverfilledIn.value_succ (ih : OverfilledIn steps)
    (h : readValue (steps + 1) room s = .error (.halt (.deep e))) : Overfills room s e := by
  rw [readValue.eq_def] at h
  dsimp only at h
  split at h
  · exact absurd (map_eq_error_iff.1 h) (readString_ne_deep _ _ _)
  · next inside =>
    split at h
    · cases h
      exact .array inside
    · split at h
      · cases h
      · exact .items (blanks_skipBlank inside) (ih.items (map_eq_error_iff.1 h))
  · next inside =>
    split at h
    · cases h
      exact .object inside
    · split at h
      · cases h
      · exact .entries (blanks_skipBlank inside) (ih.fields (map_eq_error_iff.1 h))
  · split at h
    · cases h
    · exact absurd h (readNumber_ne_deep s)

theorem OverfilledIn.items_succ (ih : OverfilledIn steps)
    (h : readItems (steps + 1) room s = .error (.halt (.deep e))) : ItemsOverfill room s e := by
  rw [readItems] at h
  split at h
  · next hv =>
    cases h
    exact .last (ih.value hv)
  · next hv =>
    split at h
    · cases h
    · next after hb =>
      exact .next ((spelledIn steps).value hv) (blanks_of_skipBlank hb) (blanks_skipBlank after)
        (ih.items (map_eq_error_iff.1 h))
    · cases h

theorem OverfilledIn.fields_succ {done : Fields} (ih : OverfilledIn steps)
    (h : readFields (steps + 1) room done s = .error (.halt (.deep e))) :
    EntriesOverfill room s e := by
  rw [readFields.eq_def] at h
  dsimp only at h
  split at h
  · split at h
    · next hn =>
      cases h
      exact absurd hn (readString_ne_deep _ _ _)
    · next hn =>
      have hname := inside_of_readString hn
      split at h
      · next beforeValue hc =>
        have hcolon := blanks_of_skipBlank hc
        have hbefore := blanks_skipBlank beforeValue
        split at h
        · next hv =>
          cases h
          exact .last hname hcolon hbefore (ih.value hv)
        · next hv =>
          split at h
          · cases h
          · next after hb =>
            exact .next hname hcolon hbefore ((spelledIn steps).value hv)
              (blanks_of_skipBlank hb) (blanks_skipBlank after) (ih.fields h)
          · cases h
      · cases h
  · cases h

theorem overfilledIn (steps : Nat) : OverfilledIn steps := by
  induction steps with
  | zero =>
    apply OverfilledIn.mk
    · intro room s e h
      rw [readValue] at h
      cases h
    · intro room s e h
      rw [readItems] at h
      cases h
    · intro room done s e h
      rw [readFields] at h
      cases h
  | succ steps ih => exact ⟨ih.value_succ, ih.items_succ, ih.fields_succ⟩

end Soundness

section Completeness

/-- A text that goes too deep stops the reader, if the steps are enough for it. -/
structure StopsIn (steps : Nat) : Prop where
  value : ∀ {room s e}, Overfills room s e → 2 * s.length < steps →
    readValue steps room s = .error (.halt (.deep e))
  items : ∀ {room s e}, ItemsOverfill room s e → 2 * s.length + 1 < steps →
    readItems steps room s = .error (.halt (.deep e))
  fields : ∀ {room s e} (done : Fields), EntriesOverfill room s e → 2 * s.length + 1 < steps →
    readFields steps room done s = .error (.halt (.deep e))

theorem skipBlank_of_stop (h : readItems steps room s = .error (.halt (.deep e))) :
    ∃ c tail, s = c :: tail ∧ c ≠ ']' ∧ skipBlank s = s := by
  apply skipBlank_of_readItems
  intro s' hs
  rw [h] at hs
  cases hs

theorem EntriesOverfill.eq_cons (h : EntriesOverfill room s e) : ∃ inside, s = '"' :: inside := by
  cases h with
  | last | next => exact ⟨_, rfl⟩

theorem StopsIn.value_succ (ih : StopsIn steps) (h : Overfills room s e)
    (hs : 2 * s.length < steps + 1) : readValue (steps + 1) room s = .error (.halt (.deep e)) := by
  cases h with
  | array | object => rw [readValue]
  | @items _ s s₁ _ hb h =>
    have hlen := hb.length_le
    rw [List.length_cons] at hs
    have hi := ih.items h (by omega)
    obtain ⟨c, tail, rfl, hc, hskip⟩ := skipBlank_of_stop hi
    rw [readValue_arr (hb.skipBlank_eq.trans hskip) hc, hi]
    rfl
  | @entries _ s s₁ _ hb h =>
    have hlen := hb.length_le
    rw [List.length_cons] at hs
    have hf := ih.fields [] h (by omega)
    obtain ⟨inside, rfl⟩ := h.eq_cons
    rw [readValue_obj (hb.skipBlank_cons rfl) (by decide), hf]
    rfl

theorem StopsIn.items_succ (ih : StopsIn steps) (h : ItemsOverfill room s e)
    (hs : 2 * s.length + 1 < steps + 1) :
    readItems (steps + 1) room s = .error (.halt (.deep e)) := by
  cases h with
  | last h => rw [readItems, ih.value h (by omega)]
  | @next _ s s₁ s₂ s₃ _ _ hv hb hb' h =>
    have hvalue := (readIn steps).value hv (hb.endsNumber (endsNumber_cons (by decide))) (by omega)
    have hlen := length_le_of_readValue hvalue
    have hlen₁ := hb.length_le
    have hlen₂ := hb'.length_le
    rw [List.length_cons] at hlen₁
    have hi := ih.items h (by omega)
    obtain ⟨_, _, _, _, hskip⟩ := skipBlank_of_stop hi
    rw [readItems_next hvalue (hb.skipBlank_cons rfl), hb'.skipBlank_eq, hskip, hi]
    rfl

theorem StopsIn.fields_succ (ih : StopsIn steps) (done : Fields) (h : EntriesOverfill room s e)
    (hs : 2 * s.length + 1 < steps + 1) :
    readFields (steps + 1) room done s = .error (.halt (.deep e)) := by
  cases h with
  | @last _ _ _ s₂ _ _ _ hn hc hc' h =>
    have hlen := hn.length_lt
    have hlen₁ := hc.length_le
    have hlen₂ := hc'.length_le
    rw [List.length_cons] at hs hlen₁
    have hvalue : readValue steps room (skipBlank s₂) = .error (.halt (.deep e)) := by
      rw [hc'.skipBlank_eq, h.skipBlank_eq.1]
      exact ih.value h (by omega)
    rw [readFields, readString_of_inside hn]
    dsimp only
    rw [hc.skipBlank_cons rfl]
    split
    · next rest heq =>
      obtain rfl : s₂ = rest := (List.cons.inj heq).2
      rw [hvalue]
    · next hcolon => exact absurd rfl (hcolon s₂)
  | @next _ _ _ _ _ _ _ s₆ name value _ hn hc hc' hv hb hb' h =>
    have hlen := hn.length_lt
    have hlen₁ := hc.length_le
    have hlen₂ := hc'.length_le
    have hlen₃ := hb.length_le
    have hlen₄ := hb'.length_le
    rw [List.length_cons] at hs hlen₁ hlen₃
    have hvalue := (readIn steps).value hv (hb.endsNumber (endsNumber_cons (by decide))) (by omega)
    have hlen₅ := length_le_of_readValue hvalue
    have hf := ih.fields (done.put name value) h (by omega)
    obtain ⟨inside, rfl⟩ := h.eq_cons
    have hskip := hb'.skipBlank_cons rfl
    rw [readFields_inside hn hc hc' hvalue, hb.skipBlank_cons rfl]
    rw [← hskip] at hf
    exact hf

theorem stopsIn (steps : Nat) : StopsIn steps := by
  induction steps with
  | zero =>
    apply StopsIn.mk
    · exact fun _ hs => absurd hs (Nat.not_lt_zero _)
    · exact fun _ hs => absurd hs (Nat.not_lt_zero _)
    · exact fun _ _ hs => absurd hs (Nat.not_lt_zero _)
  | succ steps ih => exact ⟨ih.value_succ, ih.items_succ, ih.fields_succ⟩

end Completeness

theorem readChars_deep_iff : readChars room s = .error (.halt (.deep e)) ↔ Overfull room s e := by
  have hread : readChars room s = .error (.halt (.deep e)) ↔
      readValue (2 * s.length + 2) room (skipBlank s) = .error (.halt (.deep e)) := by
    rw [readChars, mapError_eq_error_iff, readWhole]
    cases readValue (2 * s.length + 2) room (skipBlank s) with
    | error stop => cases stop <;> simp [Stop.toError]
    | ok r =>
      dsimp only
      cases skipBlank r.2 <;> simp [Stop.toError]
  rw [hread]
  constructor
  · intro h
    exact ⟨_, blanks_skipBlank s, (overfilledIn _).value h⟩
  · rintro ⟨s₁, hb, h⟩
    have hlen := hb.length_le
    rw [hb.skipBlank_eq, h.skipBlank_eq.1]
    exact (stopsIn _).value h (by omega)

/-- Reading a text stops for want of room just if the text goes deeper than the room. -/
theorem read_deep_iff {text : String} :
    read room text = .error (.halt (.deep e)) ↔ Overfull room text.toList e := by
  rw [read]
  split
  · next hmark =>
    apply iff_of_false
    · intro h
      cases h
    · rintro ⟨s₁, hb, h⟩
      obtain ⟨rest, hrest⟩ := List.head?_eq_some_iff.1 hmark
      rw [hrest] at hb
      cases hb with
      | none => cases h
      | next hc => exact absurd hc (by decide)
  · exact readChars_deep_iff

section LineEnds

variable {t : List Char}

mutual

theorem Overfills.alike {room : Nat} {s t : List Char} {e : TooDeep} :
    Overfills room s e → Alike s t → Overfills room t e
  | .array _, ha => by
    obtain ⟨t', rfl, _⟩ := ha.of_cons rfl
    exact .array t'
  | .object _, ha => by
    obtain ⟨t', rfl, _⟩ := ha.of_cons rfl
    exact .object t'
  | .items hb h, ha => by
    obtain ⟨t', rfl, hs⟩ := ha.of_cons rfl
    obtain ⟨inside, hs, hb⟩ := hb.alike hs
    exact .items hb (h.alike hs)
  | .entries hb h, ha => by
    obtain ⟨t', rfl, hs⟩ := ha.of_cons rfl
    obtain ⟨inside, hs, hb⟩ := hb.alike hs
    exact .entries hb (h.alike hs)

theorem ItemsOverfill.alike {room : Nat} {s t : List Char} {e : TooDeep} :
    ItemsOverfill room s e → Alike s t → ItemsOverfill room t e
  | .last h, ha => .last (h.alike ha)
  | .next hv hb hb' h, ha => by
    obtain ⟨after, ha, hv⟩ := hv.alike ha
    obtain ⟨afterComma, ha, hb⟩ := hb.alike_cons ha rfl
    obtain ⟨others, ha, hb'⟩ := hb'.alike ha
    exact .next hv hb hb' (h.alike ha)

theorem EntriesOverfill.alike {room : Nat} {s t : List Char} {e : TooDeep} :
    EntriesOverfill room s e → Alike s t → EntriesOverfill room t e
  | .last hn hc hc' h, ha => by
    obtain ⟨inName, rfl, hs⟩ := ha.of_cons rfl
    obtain ⟨afterName, hs, hn⟩ := hn.alike hs
    obtain ⟨afterColon, hs, hc⟩ := hc.alike_cons hs rfl
    obtain ⟨value, hs, hc'⟩ := hc'.alike hs
    exact .last hn hc hc' (h.alike hs)
  | .next hn hc hc' hv hb hb' h, ha => by
    obtain ⟨inName, rfl, hs⟩ := ha.of_cons rfl
    obtain ⟨afterName, hs, hn⟩ := hn.alike hs
    obtain ⟨afterColon, hs, hc⟩ := hc.alike_cons hs rfl
    obtain ⟨value, hs, hc'⟩ := hc'.alike hs
    obtain ⟨after, hs, hv⟩ := hv.alike hs
    obtain ⟨afterComma, hs, hb⟩ := hb.alike_cons hs rfl
    obtain ⟨others, hs, hb'⟩ := hb'.alike hs
    exact .next hn hc hc' hv hb hb' (h.alike hs)

end

theorem Overfull.alike (h : Overfull room s e) (ha : Alike s t) : Overfull room t e := by
  obtain ⟨s₁, hb, h⟩ := h
  obtain ⟨t₁, ha, hb⟩ := hb.alike ha
  exact ⟨t₁, hb, h.alike ha⟩

theorem overfull_universalLines : Overfull room (universalLines s) e ↔ Overfull room s e := by
  constructor
  · intro h
    exact h.alike (alike_universalLines s)
  · intro h
    exact h.alike (alike_universalLines s).symm

end LineEnds

/-- Nothing is both: a document of some value does not go too deep. -/
theorem Document.not_overfull {v : Json} (h : Document room s v) : ¬Overfull room s e := by
  intro ho
  have hread := readChars_eq_ok_iff.2 h
  rw [readChars_deep_iff.2 ho] at hread
  cases hread

theorem overfills_brackets (room : Nat) (s : List Char) :
    Overfills room (List.replicate (room + 1) '[' ++ s) .array := by
  induction room with
  | zero => exact .array s
  | succ room ih =>
    rw [List.replicate_succ, List.cons_append]
    exact .items (.none _) (.last ih)

/-- So many opening brackets as there is room for, and one more, are too many. -/
theorem overfull_brackets {n : Nat} (h : room < n) :
    Overfull room (List.replicate n '[') .array := by
  obtain ⟨more, rfl⟩ := Nat.exists_eq_add_of_lt h
  rw [show room + more + 1 = (room + 1) + more by omega, List.replicate_add]
  exact ⟨_, .none _, overfills_brackets room _⟩

end Sitewright.Json
