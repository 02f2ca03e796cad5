import Sitewright.Proofs.Json.RoundTrip

namespace Sitewright.Json

open Text.Utf16

/-- Any number of blanks. As all relations of the grammar it holds of a text, of what stands at its
front, and of the text that is left after that. -/
inductive Blanks : List Char → List Char → Prop where
  | none (rest : List Char) : Blanks rest rest
  | next {c : Char} {s rest : List Char} (hc : isBlank c = true) (h : Blanks s rest) :
    Blanks (c :: s) rest

/-- The inside of a string up to its closing quote, after some of it has been spelled. -/
inductive Inside : Spelled → List Char → String → List Char → Prop where
  | close (t : Spelled) (rest : List Char) : Inside t ('"' :: rest) t.text rest
  | plain {t : Spelled} {c : Char} {s : List Char} {text : String} {rest : List Char}
    (hquote : c ≠ '"') (hslash : c ≠ '\\') (hcontrol : 0x20 ≤ c.toNat)
    (h : Inside (t.push c) s text rest) : Inside t (c :: s) text rest
  | escape {t : Spelled} {e c : Char} {s : List Char} {text : String} {rest : List Char}
    (he : escaped? e = some c) (h : Inside (t.push c) s text rest) :
    Inside t ('\\' :: e :: s) text rest
  | unit {t : Spelled} {a b c d : Char} {n : Nat} {s : List Char} {text : String}
    {rest : List Char} (hn : codeUnit? a b c d = some n)
    (h : Inside (t.pushUnit n) s text rest) :
    Inside t ('\\' :: 'u' :: a :: b :: c :: d :: s) text rest

/-- The digits after a point, if there is one. -/
inductive Fraction : List Char → List Char → List Char → Prop where
  | none (rest : List Char) : Fraction rest [] rest
  | point {digits : List Char} (hd : ∀ c ∈ digits, c.isDigit = true) (hn : digits ≠ [])
    (rest : List Char) : Fraction ('.' :: digits ++ rest) digits rest

/-- The sign of an exponent, which may be left out if it is a plus. -/
inductive Sign : List Char → Bool → Prop where
  | none : Sign [] false
  | plus : Sign ['+'] false
  | minus : Sign ['-'] true

/-- A whole number from its sign and its digits. -/
def wholeNumber (negative : Bool) (digits : List Char) : Int :=
  if negative then -(Nat.ofDigitChars 10 digits 0 : Nat) else (Nat.ofDigitChars 10 digits 0 : Nat)

inductive Exponent : List Char → Option Int → List Char → Prop where
  | none (rest : List Char) : Exponent rest none rest
  | mark {m : Char} {sign digits : List Char} {negative : Bool} (hm : m = 'e' ∨ m = 'E')
    (hs : Sign sign negative) (hd : ∀ c ∈ digits, c.isDigit = true) (hn : digits ≠ [])
    (rest : List Char) :
    Exponent (m :: (sign ++ (digits ++ rest))) (some (wholeNumber negative digits)) rest

/-- A number: an integer, if it has neither a fraction nor an exponent. -/
inductive Numeral : List Char → Json → List Char → Prop where
  | int {whole : List Char} (negative : Bool) (hw : WholeDigits whole)
    (hl : whole.length ≤ Text.maxDigits) (rest : List Char) :
    Numeral (Double.signText negative ++ (whole ++ rest)) (.int (wholeNumber negative whole)) rest
  | float {whole s fraction after rest : List Char} {exponent : Option Int} (negative : Bool)
    (hw : WholeDigits whole) (hf : Fraction s fraction after) (he : Exponent after exponent rest)
    (h : fraction ≠ [] ∨ exponent.isSome) :
    Numeral (Double.signText negative ++ (whole ++ s))
      (.float (.ofDecimal negative (Nat.ofDigitChars 10 (whole ++ fraction) 0)
        (exponent.getD 0 - fraction.length))) rest

mutual

/-- A value, where there is room for so many arrays and objects inside one another. Of the entries
of an object that have one name the last counts. -/
inductive Spells : Nat → List Char → Json → List Char → Prop where
  | word {room : Nat} {w : List Char × Json} (h : w ∈ words) (rest : List Char) :
    Spells room (w.1 ++ rest) w.2 rest
  | number {room : Nat} {s rest : List Char} {v : Json} (h : Numeral s v rest) :
    Spells room s v rest
  | string {room : Nat} {s rest : List Char} {text : String} (h : Inside {} s text rest) :
    Spells room ('"' :: s) (.str text) rest
  | emptyArray {room : Nat} {s rest : List Char} (h : Blanks s (']' :: rest)) :
    Spells (room + 1) ('[' :: s) (.arr []) rest
  | array {room : Nat} {s s₁ rest : List Char} {items : List Json} (hb : Blanks s s₁)
    (h : SpellsItems room s₁ items rest) : Spells (room + 1) ('[' :: s) (.arr items) rest
  | emptyObject {room : Nat} {s rest : List Char} (h : Blanks s ('}' :: rest)) :
    Spells (room + 1) ('{' :: s) (.obj []) rest
  | object {room : Nat} {s s₁ rest : List Char} {entries : List (String × Json)}
    (hb : Blanks s s₁) (h : SpellsEntries room s₁ entries rest) :
    Spells (room + 1) ('{' :: s) (.obj (Keyed.ofList entries)) rest

/-- Items up to the closing bracket. -/
inductive SpellsItems : Nat → List Char → List Json → List Char → Prop where
  | last {room : Nat} {s s₁ rest : List Char} {item : Json} (hv : Spells room s item s₁)
    (hb : Blanks s₁ (']' :: rest)) : SpellsItems room s [item] rest
  | next {room : Nat} {s s₁ s₂ s₃ rest : List Char} {item : Json} {items : List Json}
    (hv : Spells room s item s₁) (hb : Blanks s₁ (',' :: s₂)) (hb' : Blanks s₂ s₃)
    (h : SpellsItems room s₃ items rest) : SpellsItems room s (item :: items) rest

/-- Entries up to the closing brace. -/
inductive SpellsEntries : Nat → List Char → List (String × Json) → List Char → Prop where
  | last {room : Nat} {s s₁ s₂ s₃ s₄ rest : List Char} {name : String} {value : Json}
    (hn : Inside {} s name s₁) (hc : Blanks s₁ (':' :: s₂)) (hc' : Blanks s₂ s₃)
    (hv : Spells room s₃ value s₄) (hb : Blanks s₄ ('}' :: rest)) :
    SpellsEntries room ('"' :: s) [(name, value)] rest
  | next {room : Nat} {s s₁ s₂ s₃ s₄ s₅ s₆ rest : List Char} {name : String} {value : Json}
    {entries : List (String × Json)} (hn : Inside {} s name s₁) (hc : Blanks s₁ (':' :: s₂))
    (hc' : Blanks s₂ s₃) (hv : Spells room s₃ value s₄) (hb : Blanks s₄ (',' :: s₅))
    (hb' : Blanks s₅ s₆) (h : SpellsEntries room s₆ entries rest) :
    SpellsEntries room ('"' :: s) ((name, value) :: entries) rest

end

/-- A whole text that stands for a value: blanks may come before it and after it, and nothing
else. -/
def Document (room : Nat) (s : List Char) (v : Json) : Prop :=
  ∃ s₁ s₂, Blanks s s₁ ∧ Spells room s₁ v s₂ ∧ Blanks s₂ []

variable {room : Nat} {s rest : List Char} {v : Json}

theorem Blanks.exists_pad (h : Blanks s rest) :
    ∃ pad, s = pad ++ rest ∧ ∀ c ∈ pad, isBlank c = true := by
  induction h with
  | none rest => exact ⟨[], rfl, nofun⟩
  | @next c _ _ hc _ ih =>
    obtain ⟨pad, rfl, hpad⟩ := ih
    exact ⟨c :: pad, rfl, List.forall_mem_cons.2 ⟨hc, hpad⟩⟩

theorem Blanks.skipBlank_eq (h : Blanks s rest) : skipBlank s = skipBlank rest := by
  obtain ⟨pad, rfl, hpad⟩ := h.exists_pad
  exact skipBlank_append hpad rest

theorem Blanks.skipBlank_cons {c : Char} (h : Blanks s (c :: rest)) (hc : isBlank c = false) :
    skipBlank s = c :: rest :=
  h.skipBlank_eq.trans (Json.skipBlank_cons hc rest)

theorem Blanks.length_le (h : Blanks s rest) : rest.length ≤ s.length := by
  obtain ⟨pad, rfl, _⟩ := h.exists_pad
  rw [List.length_append]
  exact Nat.le_add_left _ _

theorem Blanks.endsNumber (h : Blanks s rest) (hr : EndsNumber rest) : EndsNumber s := by
  obtain ⟨pad, rfl, hpad⟩ := h.exists_pad
  exact endsNumber_pad hpad hr

theorem Inside.length_lt {t : Spelled} {text : String} (h : Inside t s text rest) :
    rest.length < s.length := by
  induction h with
  | close => exact Nat.lt_succ_self _
  | plain _ _ _ _ ih => exact Nat.lt_succ_of_lt ih
  | escape _ _ ih => exact Nat.lt_succ_of_lt (Nat.lt_succ_of_lt ih)
  | unit _ _ ih =>
    simp only [List.length_cons]
    omega

theorem length_decimal_wholeNumber {digits : List Char} (hw : WholeDigits digits)
    (negative : Bool) :
    (Text.decimal (wholeNumber negative digits).natAbs).length ≤ digits.length := by
  have hn : (wholeNumber negative digits).natAbs = Nat.ofDigitChars 10 digits 0 := by
    cases negative
    · exact Int.natAbs_natCast _
    · exact (Int.natAbs_neg _).trans (Int.natAbs_natCast _)
  rw [hn]
  exact Text.length_decimal_ofDigitChars hw.digits hw.nonempty

theorem Numeral.long?_eq_none (h : Numeral s v rest) : v.long? = none := by
  cases h with
  | float => rfl
  | int negative hw hl =>
    rw [long?]
    exact if_neg (Nat.not_lt.2 (Nat.le_trans (length_decimal_wholeNumber hw negative) hl))

theorem fieldsLong?_put {fields : Fields} {value : Json} (hf : fieldsLong? fields = none)
    (hv : value.long? = none) (name : String) :
    fieldsLong? (Keyed.put name value fields) = none := by
  induction fields with
  | nil =>
    change value.long?.or none = none
    rw [hv, Option.none_or]
  | cons entry fields ih =>
    rw [fieldsLong?, Option.or_eq_none_iff] at hf
    rw [Keyed.put, Keyed.alter]
    split
    · rw [fieldsLong?, hv, hf.2, Option.none_or]
    · rw [fieldsLong?, hf.1, Option.none_or]
      exact ih hf.2

theorem fieldsLong?_ofList {entries : List (String × Json)} (h : fieldsLong? entries = none) :
    fieldsLong? (Keyed.ofList entries) = none := by
  have hfold (done : Fields) (hd : fieldsLong? done = none) :
      fieldsLong? (entries.foldl (fun m entry => Keyed.put entry.1 entry.2 m) done) = none := by
    induction entries generalizing done with
    | nil => exact hd
    | cons entry entries ih =>
      rw [fieldsLong?, Option.or_eq_none_iff] at h
      exact ih h.2 _ (fieldsLong?_put hd h.1 entry.1)
  exact hfold [] rfl

mutual

theorem Spells.long?_eq_none {room : Nat} {s rest : List Char} {v : Json} :
    Spells room s v rest → v.long? = none
  | .word hw _ => by
    simp only [words, List.mem_cons, List.not_mem_nil, or_false] at hw
    obtain rfl | rfl | rfl | rfl | rfl | rfl := hw <;> rfl
  | .number h => h.long?_eq_none
  | .string _ => rfl
  | .emptyArray _ => rfl
  | .array _ h => h.itemsLong?_eq_none
  | .emptyObject _ => rfl
  | .object _ h => fieldsLong?_ofList h.fieldsLong?_eq_none

theorem SpellsItems.itemsLong?_eq_none {room : Nat} {s rest : List Char} {items : List Json} :
    SpellsItems room s items rest → itemsLong? items = none
  | .last hv _ => by rw [itemsLong?, hv.long?_eq_none, itemsLong?, Option.none_or]
  | .next hv _ _ h => by
    rw [itemsLong?, hv.long?_eq_none, h.itemsLong?_eq_none, Option.none_or]

theorem SpellsEntries.fieldsLong?_eq_none {room : Nat} {s rest : List Char}
    {entries : List (String × Json)} :
    SpellsEntries room s entries rest → fieldsLong? entries = none
  | .last _ _ _ hv _ => by rw [fieldsLong?, hv.long?_eq_none, fieldsLong?, Option.none_or]
  | .next _ _ _ hv _ _ h => by
    rw [fieldsLong?, hv.long?_eq_none, h.fieldsLong?_eq_none, Option.none_or]

end

theorem Document.long?_eq_none (h : Document room s v) : v.long? = none := by
  obtain ⟨_, _, _, hv, _⟩ := h
  exact hv.long?_eq_none

theorem Numeral.depth_eq_zero (h : Numeral s v rest) : v.depth = 0 := by
  cases h <;> rfl

theorem fieldsDepth_put {fields : Fields} {value : Json} (hf : fieldsDepth fields ≤ room)
    (hv : value.depth ≤ room) (name : String) :
    fieldsDepth (Keyed.put name value fields) ≤ room := by
  induction fields with
  | nil => exact Nat.max_le.2 ⟨hv, Nat.zero_le _⟩
  | cons entry fields ih =>
    obtain ⟨hentry, hf⟩ := Nat.max_le.1 hf
    rw [Keyed.put, Keyed.alter]
    split
    · exact Nat.max_le.2 ⟨hv, hf⟩
    · exact Nat.max_le.2 ⟨hentry, ih hf⟩

theorem fieldsDepth_ofList {entries : List (String × Json)} (h : fieldsDepth entries ≤ room) :
    fieldsDepth (Keyed.ofList entries) ≤ room := by
  have hfold (done : Fields) (hd : fieldsDepth done ≤ room) :
      fieldsDepth (entries.foldl (fun m entry => Keyed.put entry.1 entry.2 m) done) ≤ room := by
    induction entries generalizing done with
    | nil => exact hd
    | cons entry entries ih =>
      obtain ⟨hentry, h⟩ := Nat.max_le.1 h
      exact ih h _ (fieldsDepth_put hd hentry entry.1)
  exact hfold [] (Nat.zero_le _)

mutual

theorem Spells.depth_le {room : Nat} {s rest : List Char} {v : Json} :
    Spells room s v rest → v.depth ≤ room
  | .word hw _ => by
    simp only [words, List.mem_cons, List.not_mem_nil, or_false] at hw
    obtain rfl | rfl | rfl | rfl | rfl | rfl := hw <;> exact Nat.zero_le _
  | .number h => h.depth_eq_zero ▸ Nat.zero_le _
  | .string _ => Nat.zero_le _
  | .emptyArray _ => Nat.succ_le_succ (Nat.zero_le _)
  | .array _ h => Nat.succ_le_succ h.itemsDepth_le
  | .emptyObject _ => Nat.succ_le_succ (Nat.zero_le _)
  | .object _ h => Nat.succ_le_succ (fieldsDepth_ofList h.fieldsDepth_le)

theorem SpellsItems.itemsDepth_le {room : Nat} {s rest : List Char} {items : List Json} :
    SpellsItems room s items rest → itemsDepth items ≤ room
  | .last hv _ => Nat.max_le.2 ⟨hv.depth_le, Nat.zero_le _⟩
  | .next hv _ _ h => Nat.max_le.2 ⟨hv.depth_le, h.itemsDepth_le⟩

theorem SpellsEntries.fieldsDepth_le {room : Nat} {s rest : List Char}
    {entries : List (String × Json)} : SpellsEntries room s entries rest →
    fieldsDepth entries ≤ room
  | .last _ _ _ hv _ => Nat.max_le.2 ⟨hv.depth_le, Nat.zero_le _⟩
  | .next _ _ _ hv _ _ h => Nat.max_le.2 ⟨hv.depth_le, h.fieldsDepth_le⟩

end

/-- Nothing is deeper than the room in which it was spelled. -/
theorem Document.depth_le (h : Document room s v) : v.depth ≤ room := by
  obtain ⟨_, _, _, hv, _⟩ := h
  exact hv.depth_le

end Sitewright.Json
