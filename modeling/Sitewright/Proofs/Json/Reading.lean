import Mathlib.Data.List.Infix
import Mathlib.Data.List.TakeWhile
import Sitewright.Proofs.Except
import Sitewright.Proofs.Json.RoundTrip

namespace Sitewright.Json

variable {s t rest : List Char} {steps room : Nat}

/-- Whether what is blamed is a run of digits in a text, with more of them than an integer may
have. -/
def LongRun (s : List Char) (e : Text.LongInteger) : Prop :=
  ∃ run, e = .read run.length ∧ Text.maxDigits < run.length ∧ run <:+: s ∧
    ∀ c ∈ run, c.isDigit = true

/-- What reading may come to: something good and an end of the text, or a stop, which blames an
integer only for a run of digits. -/
def Reads {α : Type} (good : α → Prop) (s : List Char) : Except Stop (α × List Char) → Prop
  | .ok r => good r.1 ∧ r.2 <:+ s
  | .error stop => ∀ e, stop = .halt (.long e) → LongRun s e

theorem LongRun.of_suffix {e : Text.LongInteger} (h : LongRun t e) (hs : t <:+ s) :
    LongRun s e := by
  obtain ⟨run, he, hlong, hrun, hd⟩ := h
  exact ⟨run, he, hlong, hrun.trans hs.isInfix, hd⟩

theorem Reads.fault {α : Type} {good : α → Prop} (what : Fault) (place : List Char) :
    Reads (α := α) good s (.error (.fault what place)) := nofun

theorem Reads.deep {α : Type} {good : α → Prop} (e : TooDeep) :
    Reads (α := α) good s (.error (.halt (.deep e))) := nofun

theorem Reads.of_suffix {α : Type} {good : α → Prop} {o : Except Stop (α × List Char)}
    (h : Reads good t o) (hs : t <:+ s) : Reads good s o := by
  match o with
  | .ok r => exact ⟨h.1, h.2.trans hs⟩
  | .error stop => exact fun e he => (h e he).of_suffix hs

theorem Reads.map {α β : Type} {P : α → Prop} {Q : β → Prop} {f : α → β}
    {o : Except Stop (α × List Char)} (h : Reads P s o) (hf : ∀ a, P a → Q (f a)) :
    Reads Q s (o.map fun r => (f r.1, r.2)) := by
  match o with
  | .ok r => exact ⟨hf r.1 h.1, h.2⟩
  | .error stop => exact h

theorem skipBlank_suffix (s : List Char) : skipBlank s <:+ s := List.dropWhile_suffix _

theorem suffix_of_skipBlank {c : Char} {after : List Char} (h : skipBlank s = c :: after) :
    after <:+ s :=
  (List.suffix_cons c after).trans (h ▸ skipBlank_suffix s)

theorem readString_reads (start : List Char) (t : Text.Utf16.Spelled) (s : List Char) :
    Reads (fun _ => True) s (readString start t s) := by
  fun_induction readString start t s with
  | case2 => exact ⟨trivial, List.suffix_cons _ _⟩
  | case4 _ a b c d after _ _ _ _ ih => exact ih.of_suffix ⟨['\\', 'u', a, b, c, d], rfl⟩
  | case6 _ e after _ _ _ _ ih => exact ih.of_suffix ⟨['\\', e], rfl⟩
  | case1 | case3 | case5 | case7 | case8 | case9 => exact Reads.fault _ _
  | case10 _ c rest _ _ _ ih => exact ih.of_suffix (List.suffix_cons c rest)

theorem span_suffix (p : Char → Bool) (s : List Char) : (s.span p).2 <:+ s := by
  rw [List.span_eq_takeWhile_dropWhile]
  exact List.dropWhile_suffix p

theorem fractionPart_suffix (s : List Char) : (fractionPart s).2 <:+ s := by
  unfold fractionPart
  split
  · next rest =>
    split
    · exact List.suffix_refl _
    · exact (span_suffix Char.isDigit rest).trans (List.suffix_cons _ _)
  · exact List.suffix_refl _

theorem exponentDigits_suffix {negative : Bool} {exponent : Int}
    (h : exponentDigits negative s = some (exponent, rest)) : rest <:+ s := by
  have hs := span_suffix Char.isDigit s
  unfold exponentDigits at h
  split at h
  · cases h
  · next he =>
    rw [he] at hs
    cases h
    exact hs

theorem exponentPart_suffix {exponent : Int} (h : exponentPart s = some (exponent, rest)) :
    rest <:+ s := by
  unfold exponentPart at h
  split at h
  · split at h
    · refine List.IsSuffix.trans ?_ (List.suffix_cons _ _)
      split at h
      · exact (exponentDigits_suffix h).trans (List.suffix_cons _ _)
      · exact (exponentDigits_suffix h).trans (List.suffix_cons _ _)
      · exact exponentDigits_suffix h
    · cases h
  · cases h

theorem wholePart_spec (s : List Char) :
    s = (wholePart s).1 ++ (wholePart s).2 ∧ ∀ c ∈ (wholePart s).1, c.isDigit = true := by
  unfold wholePart
  split
  · exact ⟨rfl, fun c hc => List.mem_singleton.1 hc ▸ rfl⟩
  · rw [List.span_eq_takeWhile_dropWhile]
    exact ⟨(List.takeWhile_append_dropWhile).symm, fun c hc => List.mem_takeWhile_imp hc⟩

theorem readNumber_reads (s : List Char) : Reads Distinct s (readNumber s) := by
  unfold readNumber
  split
  next negative unsigned hu =>
  have hs : unsigned <:+ s := by
    split at hu
    · cases hu
      exact List.suffix_cons _ _
    · cases hu
      exact List.suffix_refl _
  obtain ⟨hwhole, hdigits⟩ := wholePart_spec unsigned
  have hfraction := fractionPart_suffix (wholePart unsigned).2
  have hafter : (wholePart unsigned).2 <:+ unsigned := ⟨_, hwhole.symm⟩
  dsimp only
  split
  · exact Reads.fault _ _
  · split
    · next he => exact ⟨trivial, ((exponentPart_suffix he).trans hfraction).trans (hafter.trans hs)⟩
    · split
      · exact ⟨trivial, hfraction.trans (hafter.trans hs)⟩
      · split
        · next hlong =>
          intro e he
          cases he
          have hrun : (wholePart unsigned).1 <:+: unsigned :=
            ⟨[], (wholePart unsigned).2, hwhole.symm⟩
          exact LongRun.of_suffix ⟨_, rfl, hlong, hrun, hdigits⟩ hs
        · exact ⟨trivial, hfraction.trans (hafter.trans hs)⟩

theorem readWord?_reads {found : Json × List Char} (h : readWord? s = some found) :
    found.1.Distinct ∧ found.2 <:+ s := by
  obtain ⟨w, hw, hf⟩ := List.exists_of_findSome?_eq_some h
  split at hf
  · cases hf
    refine ⟨?_, List.drop_suffix _ s⟩
    simp only [words, List.mem_cons, List.not_mem_nil, or_false] at hw
    obtain rfl | rfl | rfl | rfl | rfl | rfl := hw <;> trivial
  · cases hf

theorem fieldsDistinct_put {fields : Fields} {value : Json} (h : FieldsDistinct fields)
    (name : String) (hv : value.Distinct) :
    FieldsDistinct (Keyed.put name value fields) := by
  induction fields with
  | nil => exact ⟨hv, trivial⟩
  | cons entry fields ih =>
    obtain ⟨he, hr⟩ := h
    rw [Keyed.put, Keyed.alter]
    split
    · exact ⟨hv, hr⟩
    · exact ⟨he, ih hr⟩

/-- What holds of a value, of items and of fields, read in so many steps. -/
structure ReadsIn (steps : Nat) : Prop where
  value : ∀ room s, Reads Distinct s (readValue steps room s)
  items : ∀ room s, Reads ItemsDistinct s (readItems steps room s)
  fields : ∀ room (done : Fields) s, (Keyed.keys done).Nodup → FieldsDistinct done →
    Reads (fun fields => (Keyed.keys fields).Nodup ∧ FieldsDistinct fields) s
      (readFields steps room done s)

theorem ReadsIn.value_succ (h : ReadsIn steps) (room : Nat) (s : List Char) :
    Reads Distinct s (readValue (steps + 1) room s) := by
  rw [readValue.eq_def]
  dsimp only
  split
  · next rest =>
    exact ((readString_reads _ _ rest).map fun _ _ => trivial).of_suffix (List.suffix_cons _ _)
  · next rest =>
    split
    · exact Reads.deep _
    · split
      · next after hb => exact ⟨trivial, (suffix_of_skipBlank hb).trans (List.suffix_cons _ _)⟩
      · exact ((h.items _ _).map (f := Json.arr) fun _ hi => hi).of_suffix
          ((skipBlank_suffix rest).trans (List.suffix_cons _ _))
  · next rest =>
    split
    · exact Reads.deep _
    · split
      · next after hb =>
        exact ⟨⟨List.nodup_nil, trivial⟩, (suffix_of_skipBlank hb).trans (List.suffix_cons _ _)⟩
      · refine Reads.of_suffix ?_ ((skipBlank_suffix rest).trans (List.suffix_cons _ _))
        exact (h.fields _ [] _ List.nodup_nil trivial).map (f := Json.obj) fun _ hf => hf
  · split
    · next found hf => exact readWord?_reads hf
    · exact readNumber_reads s

theorem ReadsIn.items_succ (h : ReadsIn steps) (room : Nat) (s : List Char) :
    Reads ItemsDistinct s (readItems (steps + 1) room s) := by
  have hv := h.value room s
  rw [readItems]
  split
  · next stop he =>
    rw [he] at hv
    exact hv
  · next item rest he =>
    rw [he] at hv
    obtain ⟨hitem, hrest⟩ := hv
    split
    · next after hb => exact ⟨⟨hitem, trivial⟩, (suffix_of_skipBlank hb).trans hrest⟩
    · next after hb =>
      have hi := (h.items room (skipBlank after)).map (Q := ItemsDistinct) (f := (item :: ·))
        fun _ hi => ⟨hitem, hi⟩
      exact hi.of_suffix (((skipBlank_suffix after).trans (suffix_of_skipBlank hb)).trans hrest)
    · exact Reads.fault _ _

theorem ReadsIn.fields_succ (h : ReadsIn steps) (room : Nat) (done : Fields) (s : List Char)
    (hk : (Keyed.keys done).Nodup) (hd : FieldsDistinct done) :
    Reads (fun fields => (Keyed.keys fields).Nodup ∧ FieldsDistinct fields) s
      (readFields (steps + 1) room done s) := by
  rw [readFields.eq_def]
  dsimp only
  split
  · next inName =>
    have hn := readString_reads ('"' :: inName) {} inName
    split
    · next stop he =>
      rw [he] at hn
      exact fun e hstop => (hn e hstop).of_suffix (List.suffix_cons _ _)
    · next name afterName he =>
      rw [he] at hn
      have hname := hn.2.trans (List.suffix_cons '"' inName)
      split
      · next beforeValue hb =>
        have hbefore := (suffix_of_skipBlank hb).trans hname
        have hv := (h.value room (skipBlank beforeValue)).of_suffix
          ((skipBlank_suffix beforeValue).trans hbefore)
        split
        · next stop hvalue =>
          rw [hvalue] at hv
          exact hv
        · next value afterValue hvalue =>
          rw [hvalue] at hv
          obtain ⟨hvd, hvs⟩ := hv
          have hk' := Keyed.nodup_keys_alter hk name fun _ => value
          have hd' := fieldsDistinct_put hd name hvd
          split
          · next after hb => exact ⟨⟨hk', hd'⟩, (suffix_of_skipBlank hb).trans hvs⟩
          · next after hb =>
            exact (h.fields _ _ _ hk' hd').of_suffix
              (((skipBlank_suffix after).trans (suffix_of_skipBlank hb)).trans hvs)
          · exact Reads.fault _ _
      · exact Reads.fault _ _
  · exact Reads.fault _ _

theorem readsIn (steps : Nat) : ReadsIn steps := by
  induction steps with
  | zero =>
    refine ⟨fun room s => ?_, fun room s => ?_, fun room done s _ _ => ?_⟩
    · rw [readValue]
      exact Reads.fault _ _
    · rw [readItems]
      exact Reads.fault _ _
    · rw [readFields]
      exact Reads.fault _ _
  | succ steps ih => exact ⟨ih.value_succ, ih.items_succ, ih.fields_succ⟩

theorem readWhole_reads (room : Nat) (s : List Char) :
    Reads Distinct s ((readWhole room s).map fun v => (v, [])) := by
  have h := ((readsIn (2 * s.length + 2)).value room (skipBlank s)).of_suffix (skipBlank_suffix s)
  rw [readWhole]
  split
  · next stop he =>
    rw [he] at h
    exact h
  · next value rest he =>
    rw [he] at h
    split
    · exact ⟨h.1, List.nil_suffix⟩
    · exact Reads.fault _ _

/-- Nothing that is read has an object with two fields of one name. -/
theorem distinct_of_readChars {v : Json} (h : readChars room s = .ok v) : v.Distinct := by
  have hr := readWhole_reads room s
  rw [readChars] at h
  cases hw : readWhole room s with
  | error stop =>
    rw [hw] at h
    cases h
  | ok value =>
    rw [hw] at h hr
    exact Except.ok.inj h ▸ hr.1

/-- An integer is too long only where a text has that many digits in a row. -/
theorem longRun_of_read {text : String} {e : Text.LongInteger}
    (h : read room text = .error (.halt (.long e))) : LongRun text.toList e := by
  have hr := readWhole_reads room text.toList
  unfold read at h
  split at h
  · cases h
  · rw [readChars] at h
    obtain ⟨stop, hw, hstop⟩ := mapError_eq_error_iff.1 h
    rw [hw] at hr
    cases stop with
    | fault what rest => cases hstop
    | halt e' =>
      cases hstop
      exact hr e rfl

end Sitewright.Json
