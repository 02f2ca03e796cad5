import Sitewright.Json.Display
import Sitewright.Proofs.Json.Escape
import Sitewright.Proofs.Json.Numeral
import Sitewright.Proofs.Keyed

namespace Sitewright.Json

variable {setting : Setting} {s rest pad : List Char} {steps room depth : Nat}

mutual

/-- Whether no object inside a value has two fields of one name. -/
def Distinct : Json → Prop
  | .arr items => ItemsDistinct items
  | .obj fields => (Keyed.keys fields).Nodup ∧ FieldsDistinct fields
  | _ => True

def ItemsDistinct : List Json → Prop
  | [] => True
  | item :: items => item.Distinct ∧ ItemsDistinct items

def FieldsDistinct : List (String × Json) → Prop
  | [] => True
  | (_, value) :: fields => value.Distinct ∧ FieldsDistinct fields

end

/-- A result, unless an integer is in its way. -/
def unlessLong {α : Type} : Option Nat → α → Except Stop α
  | none, a => .ok a
  | some n, _ => .error (.halt (.long (.read n)))

theorem map_unlessLong {α β : Type} (f : α → β) (l : Option Nat) (a : α) :
    (unlessLong l a).map f = unlessLong l (f a) := by
  cases l <;> rfl

/-- A setting sets parts apart by blanks, and by one comma. -/
structure Setting.Sound (setting : Setting) : Prop where
  opening : ∀ depth, ∀ c ∈ setting.opening depth, isBlank c = true
  between : ∀ depth, ∃ pad, setting.between depth = ',' :: pad ∧ ∀ c ∈ pad, isBlank c = true
  closing : ∀ depth, ∀ c ∈ setting.closing depth, isBlank c = true

theorem sound_oneLine : oneLine.Sound where
  opening := fun _ => nofun
  between := fun _ => ⟨[' '], rfl, List.all_eq_true.1 rfl⟩
  closing := fun _ => nofun

theorem isBlank_of_mem_lineAt {c : Char} (h : c ∈ lineAt depth) : isBlank c = true := by
  obtain rfl | h := List.mem_cons.1 h
  · rfl
  · rw [(List.mem_replicate.1 h).2]
    rfl

theorem sound_indented : indented.Sound where
  opening := fun _ _ => isBlank_of_mem_lineAt
  between := fun depth => ⟨lineAt (depth + 1), rfl, fun _ => isBlank_of_mem_lineAt⟩
  closing := fun _ _ => isBlank_of_mem_lineAt

theorem skipBlank_append (h : ∀ c ∈ pad, isBlank c = true) (s : List Char) :
    skipBlank (pad ++ s) = skipBlank s :=
  List.dropWhile_append_of_pos h

theorem skipBlank_cons {c : Char} (h : isBlank c = false) (s : List Char) :
    skipBlank (c :: s) = c :: s := by
  simp [skipBlank, h]

theorem endsNumber_pad (h : ∀ c ∈ pad, isBlank c = true) (hr : EndsNumber rest) :
    EndsNumber (pad ++ rest) := by
  cases pad with
  | nil => exact hr
  | cons c pad =>
    have hc := h c List.mem_cons_self
    simp only [isBlank, Bool.or_eq_true, beq_iff_eq] at hc
    apply endsNumber_cons
    obtain ((rfl | rfl) | rfl) | rfl := hc <;> decide

theorem readWord?_of_isDigit {c : Char} (h : c.isDigit = true) (s : List Char) :
    readWord? (c :: s) = none := by
  have hne (d : Char) (hd : d.isDigit = false) : ¬ d = c := by
    rintro rfl
    rw [h] at hd
    cases hd
  simp [readWord?, words, hne]

theorem readWord?_of_minus {d : Char} (h : d.isDigit = true) (s : List Char) :
    readWord? ('-' :: d :: s) = none := by
  have hd : ¬ 'I' = d := by
    rintro rfl
    cases h
  simp [readWord?, words, hd]

theorem wholePart_eq_nil (h : EndsDigits s) : (wholePart s).1 = [] := by
  cases s with
  | nil => rfl
  | cons c s =>
    have hc := h c rfl
    have hz : c ≠ '0' := by
      rintro rfl
      exact absurd hc (by decide)
    unfold wholePart
    split
    · next he => cases he; exact absurd rfl hz
    · rw [List.span_eq_takeWhile_dropWhile, List.takeWhile_cons_of_neg (by rw [hc]; decide)]

theorem readNumber_minus (h : EndsDigits s) :
    readNumber ('-' :: s) = .error (.fault .value ('-' :: s)) := by
  simp [readNumber, wholePart_eq_nil h]

theorem readNumber_other (h : EndsDigits s) (hm : s.head? ≠ some '-') :
    readNumber s = .error (.fault .value s) := by
  unfold readNumber
  split
  next sign unsigned he =>
    split at he
    · exact absurd rfl hm
    · cases he
      simp [wholePart_eq_nil h]

theorem unlessLong_ne_fault {α : Type} (l : Option Nat) (a : α) (what : Fault) :
    unlessLong l a ≠ .error (.fault what s) := by
  cases l <;> exact nofun

theorem readValue_number {c : Char} {tail : List Char} (hq : c ≠ '"') (ha : c ≠ '[')
    (ho : c ≠ '{') (hw : readWord? (c :: tail) = none) (steps : Nat) :
    readValue (steps + 1) room (c :: tail) = readNumber (c :: tail) := by
  rw [readValue.eq_def]
  dsimp only
  split
  · next he => cases he; exact absurd rfl hq
  · next he => cases he; exact absurd rfl ha
  · next he => cases he; exact absurd rfl ho
  · rw [hw]

/-- What is read as a number is read as a value. -/
theorem readValue_of_readNumber {l : Option Nat} {r : Json × List Char}
    (h : readNumber s = unlessLong l r) (steps : Nat) :
    readValue (steps + 1) room s = unlessLong l r := by
  have hstop {what : Fault} {s' : List Char} : readNumber s ≠ .error (.fault what s') := by
    rw [h]
    exact unlessLong_ne_fault l r what
  match s with
  | [] => exact absurd rfl hstop
  | c :: tail =>
    by_cases hc : c.isDigit = true
    · have hne (d : Char) (hd : d.isDigit = false) : c ≠ d := by
        rintro rfl
        exact absurd hc (by rw [hd]; decide)
      rw [readValue_number (hne _ rfl) (hne _ rfl) (hne _ rfl) (readWord?_of_isDigit hc tail), h]
    · by_cases hm : c = '-'
      · subst hm
        match tail with
        | [] => exact absurd (readNumber_minus endsNumber_nil.endsDigits) hstop
        | d :: tail =>
          by_cases hd : d.isDigit = true
          · have hword := readWord?_of_minus hd tail
            rw [readValue_number (by decide) (by decide) (by decide) hword, h]
          · exact absurd (readNumber_minus (endsDigits_cons (by simpa using hd))) hstop
      · exact absurd (readNumber_other (endsDigits_cons (by simpa using hc)) (by simpa using hm))
          hstop

theorem readValue_int (n : Int) (hr : EndsNumber rest) (steps : Nat) :
    readValue (steps + 1) room (intText n ++ rest) =
      unlessLong (Json.int n).long? (.int n, rest) := by
  apply readValue_of_readNumber
  rw [readNumber_intText hr, long?]
  split <;> rfl

theorem readValue_float (x : Double) (hr : EndsNumber rest) (steps : Nat) :
    readValue (steps + 1) room (x.text doubleSpelling ++ rest) = .ok (.float x, rest) := by
  cases x with
  | nan => rfl
  | infinite negative => cases negative <;> rfl
  | finite negative rank =>
    exact readValue_of_readNumber (l := none) (readNumber_finite rank hr negative) steps

theorem readValue_str (text : String) (rest : List Char) (steps : Nat) :
    readValue (steps + 1) room (stringText text ++ rest) = .ok (.str text, rest) := by
  have h := readString_stringText (stringText text ++ rest) text rest
  simp only [stringText, List.cons_append, List.append_assoc, List.nil_append] at h ⊢
  rw [readValue, h]
  rfl

/-- Reading does not begin at a blank or at a closing bracket. -/
theorem skipBlank_of_readValue (hstop : ∀ s', readValue steps room s ≠ .error (.fault .value s')) :
    ∃ c tail, s = c :: tail ∧ c ≠ ']' ∧ skipBlank s = s := by
  match steps, s with
  | 0, s => exact absurd (by rw [readValue]) (hstop s)
  | steps + 1, [] => exact absurd rfl (hstop [])
  | steps + 1, c :: tail =>
    have hfault (hd : c ∈ [']', ' ', '\t', '\n', '\r']) : False := by
      simp only [List.mem_cons, List.not_mem_nil, or_false] at hd
      obtain rfl | rfl | rfl | rfl | rfl := hd <;> exact absurd rfl (hstop _)
    refine ⟨c, tail, rfl, ?_, skipBlank_cons ?_ tail⟩
    · rintro rfl
      exact hfault (by decide)
    · rw [Bool.eq_false_iff]
      intro hb
      apply hfault
      simp only [isBlank, Bool.or_eq_true, beq_iff_eq] at hb
      simp only [List.mem_cons, List.not_mem_nil, or_false]
      tauto

theorem skipBlank_of_readItems (hstop : ∀ s', readItems steps room s ≠ .error (.fault .value s')) :
    ∃ c tail, s = c :: tail ∧ c ≠ ']' ∧ skipBlank s = s := by
  match steps with
  | 0 => exact absurd (by rw [readItems]) (hstop s)
  | steps + 1 =>
    have hvalue : ∀ s', readValue steps room s ≠ .error (.fault .value s') := by
      intro s' h
      exact hstop s' (by rw [readItems, h])
    exact skipBlank_of_readValue hvalue

theorem readValue_arr {c : Char} {tail : List Char} (h : skipBlank s = c :: tail) (hc : c ≠ ']')
    (steps : Nat) :
    readValue (steps + 1) (room + 1) ('[' :: s) =
      (readItems steps room (c :: tail)).map fun r => (.arr r.1, r.2) := by
  rw [readValue, h]
  split
  · next he => cases he; exact absurd rfl hc
  · rfl

theorem readValue_obj {c : Char} {tail : List Char} (h : skipBlank s = c :: tail) (hc : c ≠ '}')
    (steps : Nat) :
    readValue (steps + 1) (room + 1) ('{' :: s) =
      (readFields steps room [] (c :: tail)).map fun r => (.obj r.1, r.2) := by
  rw [readValue, h]
  split
  · next he => cases he; exact absurd rfl hc
  · rfl

theorem readItems_last {item : Json} {after : List Char}
    (hv : readValue steps room s = .ok (item, rest)) (h : skipBlank rest = ']' :: after) :
    readItems (steps + 1) room s = .ok ([item], after) := by
  rw [readItems, hv]
  dsimp only
  rw [h]
  rfl

theorem readItems_next {item : Json} {after : List Char}
    (hv : readValue steps room s = .ok (item, rest)) (h : skipBlank rest = ',' :: after) :
    readItems (steps + 1) room s =
      (readItems steps room (skipBlank after)).map fun r => (item :: r.1, r.2) := by
  rw [readItems, hv]
  dsimp only
  rw [h]
  rfl

theorem readItems_stop {halt : Halt} (hv : readValue steps room s = .error (.halt halt)) :
    readItems (steps + 1) room s = .error (.halt halt) := by
  rw [readItems, hv]

theorem readFields_name (name : String) (done : Fields) (s : List Char) (steps : Nat) :
    readFields (steps + 1) room done (stringText name ++ ':' :: s) =
      match readValue steps room (skipBlank s) with
      | .error stop => .error stop
      | .ok (value, rest) =>
        match skipBlank rest with
        | '}' :: after => .ok (done.put name value, after)
        | ',' :: after => readFields steps room (done.put name value) (skipBlank after)
        | other => .error (.fault .comma other) := by
  have h := readString_stringText (stringText name ++ ':' :: s) name (':' :: s)
  simp only [stringText, List.cons_append, List.append_assoc, List.nil_append] at h ⊢
  rw [readFields, h]
  dsimp only
  rw [skipBlank_cons (by decide)]
  rfl

theorem readFields_value {l : Option Nat} {value : Json}
    (hv : readValue steps room s = unlessLong l (value, rest)) (name : String) (done : Fields) :
    readFields (steps + 1) room done (stringText name ++ ':' :: ' ' :: s) =
      match (unlessLong l (value, rest) : Except Stop (Json × List Char)) with
      | .error stop => .error stop
      | .ok (value, rest) =>
        match skipBlank rest with
        | '}' :: after => .ok (done.put name value, after)
        | ',' :: after => readFields steps room (done.put name value) (skipBlank after)
        | other => .error (.fault .comma other) := by
  obtain ⟨_, _, _, _, hb⟩ := skipBlank_of_readValue fun s' h =>
    unlessLong_ne_fault _ _ _ (hv.symm.trans h)
  have hblank : skipBlank (' ' :: s) = s := hb
  rw [readFields_name, hblank, hv]

theorem readFields_last {value : Json} {after : List Char}
    (hv : readValue steps room s = .ok (value, rest)) (h : skipBlank rest = '}' :: after)
    (name : String) (done : Fields) :
    readFields (steps + 1) room done (stringText name ++ ':' :: ' ' :: s) =
      .ok (done.put name value, after) := by
  rw [readFields_value (l := none) hv]
  simp only [unlessLong]
  rw [h]
  rfl

theorem readFields_next {value : Json} {after : List Char}
    (hv : readValue steps room s = .ok (value, rest)) (h : skipBlank rest = ',' :: after)
    (name : String) (done : Fields) :
    readFields (steps + 1) room done (stringText name ++ ':' :: ' ' :: s) =
      readFields steps room (done.put name value) (skipBlank after) := by
  rw [readFields_value (l := none) hv]
  simp only [unlessLong]
  rw [h]
  rfl

def itemsBody (setting : Setting) (depth : Nat) : List Json → List Char
  | [] => []
  | item :: items => textWith setting (depth + 1) item ++ itemsText setting depth items

def fieldsBody (setting : Setting) (depth : Nat) : List (String × Json) → List Char
  | [] => []
  | (name, value) :: fields =>
    stringText name ++ (':' :: ' ' :: textWith setting (depth + 1) value) ++
      fieldsText setting depth fields

theorem textWith_arr (setting : Setting) (depth : Nat) (item : Json) (items : List Json) :
    textWith setting depth (.arr (item :: items)) =
      '[' :: (setting.opening depth ++ (itemsBody setting depth (item :: items) ++
        (setting.closing depth ++ [']']))) := by
  simp only [textWith, itemsBody, List.cons_append, List.append_assoc]

theorem textWith_obj (setting : Setting) (depth : Nat) (field : String × Json)
    (fields : List (String × Json)) :
    textWith setting depth (.obj (field :: fields)) =
      '{' :: (setting.opening depth ++ (fieldsBody setting depth (field :: fields) ++
        (setting.closing depth ++ ['}']))) := by
  simp only [textWith, fieldsBody, List.cons_append, List.append_assoc]

theorem itemsText_cons (setting : Setting) (depth : Nat) (item : Json) (items : List Json) :
    itemsText setting depth (item :: items) =
      setting.between depth ++ itemsBody setting depth (item :: items) := by
  simp only [itemsText, itemsBody, List.append_assoc]

theorem fieldsText_cons (setting : Setting) (depth : Nat) (field : String × Json)
    (fields : List (String × Json)) :
    fieldsText setting depth (field :: fields) =
      setting.between depth ++ fieldsBody setting depth (field :: fields) := by
  simp only [fieldsText, fieldsBody, List.cons_append, List.append_assoc]

variable (hset : setting.Sound)

include hset

theorem endsNumber_closing {c : Char} (hc : EndsNumber (c :: rest)) (depth : Nat) :
    EndsNumber (setting.closing depth ++ c :: rest) :=
  endsNumber_pad (hset.closing depth) hc

theorem endsNumber_between (depth : Nat) (s : List Char) :
    EndsNumber (setting.between depth ++ s) := by
  obtain ⟨pad, hb, _⟩ := hset.between depth
  rw [hb]
  exact endsNumber_cons (by decide)

theorem skipBlank_closing {c : Char} (hc : isBlank c = false) (depth : Nat) (rest : List Char) :
    skipBlank (setting.closing depth ++ c :: rest) = c :: rest := by
  rw [skipBlank_append (hset.closing depth), skipBlank_cons hc]

theorem endsNumber_itemsText (items : List Json) (depth : Nat) (rest : List Char) :
    EndsNumber (itemsText setting depth items ++ (setting.closing depth ++ ']' :: rest)) := by
  cases items with
  | nil => exact endsNumber_closing hset (endsNumber_cons (by decide)) depth
  | cons item items =>
    rw [itemsText_cons, List.append_assoc]
    exact endsNumber_between hset depth _

theorem endsNumber_fieldsText (fields : List (String × Json)) (depth : Nat) (rest : List Char) :
    EndsNumber (fieldsText setting depth fields ++ (setting.closing depth ++ '}' :: rest)) := by
  cases fields with
  | nil => exact endsNumber_closing hset (endsNumber_cons (by decide)) depth
  | cons field fields =>
    rw [fieldsText_cons, List.append_assoc]
    exact endsNumber_between hset depth _

omit hset in
theorem not_mem_of_nodup_append {done fields : Fields} {name : String} {value : Json}
    (h : (Keyed.keys (done ++ (name, value) :: fields)).Nodup) : name ∉ done.keys := by
  rw [Keyed.keys, List.map_append] at h
  exact fun hm => (List.nodup_append.1 h).2.2 name hm name List.mem_cons_self rfl

theorem length_between_pos (depth : Nat) : 0 < (setting.between depth).length := by
  obtain ⟨pad, hb, _⟩ := hset.between depth
  simp [hb]

/-- What comes after an item of a list, or after a field of an object: more of them, or the end. -/
theorem skipBlank_between (depth : Nat) (s : List Char) :
    ∃ after, skipBlank (setting.between depth ++ s) = ',' :: after ∧
      skipBlank after = skipBlank s := by
  obtain ⟨pad, hb, hpad⟩ := hset.between depth
  exact ⟨pad ++ s, by rw [hb]; exact skipBlank_cons (by decide) _, skipBlank_append hpad s⟩

omit hset in
/-- What stands inside an array or an object has one place less. -/
theorem exists_room {n : Nat} (h : n + 1 ≤ room) : ∃ inside, room = inside + 1 ∧ n ≤ inside :=
  ⟨room - 1, by omega, by omega⟩

mutual

/-- A value with distinct names, for which there is room, is read as it was written, unless an
integer in it is too long. -/
theorem readValue_textWith : (v : Json) → v.Distinct →
    ∀ (steps room depth : Nat) (rest : List Char), v.depth ≤ room →
    2 * (textWith setting depth v).length < steps → EndsNumber rest →
    readValue steps room (textWith setting depth v ++ rest) = unlessLong v.long? (v, rest)
  | .null, _, steps + 1, _, _, _, _, _, _ => rfl
  | .bool true, _, steps + 1, _, _, _, _, _, _ => rfl
  | .bool false, _, steps + 1, _, _, _, _, _, _ => rfl
  | .int n, _, steps + 1, _, _, _, _, _, hr => readValue_int n hr steps
  | .float x, _, steps + 1, _, _, _, _, _, hr => readValue_float x hr steps
  | .str text, _, steps + 1, _, _, rest, _, _, _ => readValue_str text rest steps
  | .arr [], _, steps + 1, _, _, _, hroom, _, _ => by
    obtain ⟨room, rfl, -⟩ := exists_room hroom
    rfl
  | .obj [], _, steps + 1, _, _, _, hroom, _, _ => by
    obtain ⟨room, rfl, -⟩ := exists_room hroom
    rfl
  | .arr (item :: items), hd, steps + 1, _, depth, rest, hroom, hs, hr => by
    obtain ⟨room, rfl, hinside⟩ := exists_room hroom
    rw [textWith_arr] at hs
    simp only [List.length_cons, List.length_append, List.length_nil] at hs
    have hi := readItems_itemsBody (item :: items) (by simp) hd steps room depth rest hinside
      (by omega)
    obtain ⟨c, tail, hc, hne, hb⟩ := skipBlank_of_readItems fun s' h =>
      unlessLong_ne_fault _ _ _ (hi.symm.trans h)
    have hopen := (skipBlank_append (hset.opening depth) _).trans (hb.trans hc)
    simp only [textWith_arr, List.cons_append, List.append_assoc, List.nil_append]
    rw [readValue_arr hopen hne, ← hc, hi, map_unlessLong]
    rfl
  | .obj ((name, value) :: fields), hd, steps + 1, _, depth, rest, hroom, hs, hr => by
    obtain ⟨room, rfl, hinside⟩ := exists_room hroom
    rw [textWith_obj] at hs
    simp only [List.length_cons, List.length_append, List.length_nil] at hs
    have hf := readFields_fieldsBody ((name, value) :: fields) (by simp) hd.2 steps room depth []
      rest hd.1 hinside (by omega)
    have hopen := skipBlank_append (hset.opening depth)
      (fieldsBody setting depth ((name, value) :: fields) ++ (setting.closing depth ++ '}' :: rest))
    simp only [textWith_obj, List.cons_append, List.append_assoc, List.nil_append]
    rw [readValue_obj (hopen.trans (skipBlank_cons (by decide) _)) (by decide)]
    exact (congrArg _ hf).trans (map_unlessLong _ _ _)

theorem readItems_itemsBody : (items : List Json) → items ≠ [] → ItemsDistinct items →
    ∀ (steps room depth : Nat) (rest : List Char), itemsDepth items ≤ room →
    2 * (itemsBody setting depth items).length + 1 < steps →
    readItems steps room (itemsBody setting depth items ++ (setting.closing depth ++ ']' :: rest)) =
      unlessLong (itemsLong? items) (items, rest)
  | [], hn, _, _, _, _, _, _, _ => absurd rfl hn
  | [item], _, hd, steps + 1, room, depth, rest, hroom, hs => by
    rw [itemsBody, List.length_append] at hs
    have hv := readValue_textWith item hd.1 steps room (depth + 1) _ (Nat.max_le.1 hroom).1
      (by omega)
      (endsNumber_itemsText hset [] depth rest)
    have hl : itemsLong? [item] = item.long? := by simp [itemsLong?]
    rw [itemsBody, List.append_assoc, hl]
    cases he : item.long? with
    | none =>
      rw [he] at hv
      exact readItems_last hv (skipBlank_closing hset (by decide) depth rest)
    | some e =>
      rw [he] at hv
      exact readItems_stop hv
  | item :: next :: items, _, hd, steps + 1, room, depth, rest, hroom, hs => by
    obtain ⟨hitem, hrest⟩ := Nat.max_le.1 hroom
    have hpos := length_between_pos hset depth
    rw [itemsBody, itemsText_cons, List.length_append, List.length_append] at hs
    have hv := readValue_textWith item hd.1 steps room (depth + 1) _ hitem (by omega)
      (endsNumber_itemsText hset (next :: items) depth rest)
    have hi := readItems_itemsBody (next :: items) (by simp) hd.2 steps room depth rest hrest
      (by omega)
    have hl : itemsLong? (item :: next :: items) = item.long?.or (itemsLong? (next :: items)) := rfl
    rw [itemsBody, List.append_assoc, hl]
    cases he : item.long? with
    | none =>
      rw [he, itemsText_cons, List.append_assoc] at hv
      obtain ⟨after, hcomma, hafter⟩ := skipBlank_between hset depth
        (itemsBody setting depth (next :: items) ++ (setting.closing depth ++ ']' :: rest))
      obtain ⟨_, _, _, _, hb⟩ := skipBlank_of_readItems fun s' h =>
        unlessLong_ne_fault _ _ _ (hi.symm.trans h)
      rw [itemsText_cons, List.append_assoc, readItems_next hv hcomma, hafter, hb, hi,
        map_unlessLong]
      rfl
    | some e =>
      rw [he] at hv
      exact readItems_stop hv

theorem readFields_fieldsBody : (fields : List (String × Json)) → fields ≠ [] →
    FieldsDistinct fields → ∀ (steps room depth : Nat) (done : Fields) (rest : List Char),
    (Keyed.keys (done ++ fields)).Nodup → fieldsDepth fields ≤ room →
    2 * (fieldsBody setting depth fields).length + 1 < steps →
    readFields steps room done
        (fieldsBody setting depth fields ++ (setting.closing depth ++ '}' :: rest)) =
      unlessLong (fieldsLong? fields) (done ++ fields, rest)
  | [], hn, _, _, _, _, _, _, _, _, _ => absurd rfl hn
  | [(name, value)], _, hd, steps + 1, room, depth, done, rest, hk, hroom, hs => by
    simp only [fieldsBody, List.length_append, List.length_cons] at hs
    have hv := readValue_textWith value hd.1 steps room (depth + 1) _ (Nat.max_le.1 hroom).1
      (by omega)
      (endsNumber_fieldsText hset [] depth rest)
    have hl : fieldsLong? [(name, value)] = value.long? := by simp [fieldsLong?]
    simp only [fieldsBody, List.append_assoc, List.cons_append]
    rw [hl]
    cases he : value.long? with
    | none =>
      rw [he] at hv
      rw [readFields_last hv (skipBlank_closing hset (by decide) depth rest),
        Keyed.put_of_not_mem (not_mem_of_nodup_append hk)]
      rfl
    | some e => rw [readFields_value hv, he]; rfl
  | (name, value) :: next :: fields, _, hd, steps + 1, room, depth, done, rest, hk, hroom, hs => by
    obtain ⟨hvalue, hrest⟩ := Nat.max_le.1 hroom
    have hpos := length_between_pos hset depth
    have hbody : fieldsBody setting depth ((name, value) :: next :: fields) =
        stringText name ++ (':' :: ' ' :: textWith setting (depth + 1) value) ++
          (setting.between depth ++ fieldsBody setting depth (next :: fields)) := by
      rw [fieldsBody, fieldsText_cons]
    simp only [hbody, List.length_append, List.length_cons] at hs
    have hv := readValue_textWith value hd.1 steps room (depth + 1) _ hvalue (by omega)
      (endsNumber_fieldsText hset (next :: fields) depth rest)
    have hf := readFields_fieldsBody (next :: fields) (by simp) hd.2 steps room depth
      (done ++ [(name, value)]) rest (by rwa [List.append_assoc]) hrest (by omega)
    have hl : fieldsLong? ((name, value) :: next :: fields) =
        value.long?.or (fieldsLong? (next :: fields)) := rfl
    simp only [fieldsBody, List.append_assoc, List.cons_append]
    rw [hl]
    cases he : value.long? with
    | none =>
      rw [he, fieldsText_cons, List.append_assoc] at hv
      obtain ⟨after, hcomma, hafter⟩ := skipBlank_between hset depth
        (fieldsBody setting depth (next :: fields) ++ (setting.closing depth ++ '}' :: rest))
      have hquote : skipBlank (fieldsBody setting depth (next :: fields) ++
          (setting.closing depth ++ '}' :: rest)) = _ := skipBlank_cons (by decide) _
      rw [fieldsText_cons, List.append_assoc, readFields_next hv hcomma,
        Keyed.put_of_not_mem (not_mem_of_nodup_append hk), hafter, hquote]
      rw [List.append_assoc] at hf
      exact hf
    | some e => rw [readFields_value hv, he]; rfl

end

omit hset

theorem length_textWith_lt (v : Json) :
    2 * (textWith setting 0 v).length < 2 * (textWith setting 0 v).length + 2 := by omega

/-- What comes back of a value that was written: the value, unless an integer in it is too long. -/
def readBack (v : Json) : Except ReadError Json :=
  match v.long? with
  | none => .ok v
  | some n => .error (.halt (.long (.read n)))

theorem readChars_textWith (hset : setting.Sound) {v : Json} (hv : v.Distinct)
    (hroom : v.depth ≤ room) : readChars room (textWith setting 0 v) = v.readBack := by
  have h := readValue_textWith hset v hv _ room 0 [] hroom (length_textWith_lt v) endsNumber_nil
  obtain ⟨_, _, _, _, hb⟩ := skipBlank_of_readValue fun s' h' =>
    unlessLong_ne_fault _ _ _ (h.symm.trans h')
  rw [List.append_nil] at h hb
  rw [readChars, readWhole, hb, h, readBack]
  cases v.long? <;> rfl

end Sitewright.Json
