import Sitewright.Files.Document
import Sitewright.Proofs.Json.RoundTrip
import Sitewright.Proofs.Text.Plain

namespace Sitewright

open Text

section Numbers

variable {digits : List Char}

theorem plain_decimal (n : Nat) : Plain (decimal n) :=
  fun _ h => isPlain_of_isDigit (isDigit_of_mem_decimal h)

theorem Decimal.plain_positional (h : Plain digits) (point : Int) :
    Plain (positional digits point) := by
  have hzeros (n : Nat) : Plain (List.replicate n '0') := plain_replicate n (by decide)
  unfold positional
  split
  · exact plain_cons (by decide) (plain_cons (by decide) (plain_append (hzeros _) h))
  · dsimp only
    split
    · exact plain_append (plain_append h (hzeros _)) (by decide)
    · have htake : Plain (digits.take point.toNat) := fun c hc => h c (List.mem_of_mem_take hc)
      have hdrop : Plain (digits.drop point.toNat) := fun c hc => h c (List.mem_of_mem_drop hc)
      exact plain_append htake (plain_cons (by decide) hdrop)

theorem Decimal.plain_scientific (h : Plain digits) (exponent : Int) :
    Plain (scientific digits exponent) := by
  have hpadded : Plain (decimalPadded 2 exponent.natAbs) :=
    fun _ hc => isPlain_of_isDigit (isDigit_of_mem_decimalPadded hc)
  have hsign : isPlain (if exponent < 0 then '-' else '+') = true := by
    split <;> decide
  unfold scientific
  refine plain_append ?_ (plain_cons (by decide) (plain_cons hsign hpadded))
  split
  · next first second rest =>
    obtain ⟨hfirst, hrest⟩ := List.forall_mem_cons.1 h
    exact plain_cons hfirst (plain_cons (by decide) hrest)
  · exact h

theorem Decimal.plain_text (d : Decimal) : Plain d.text := by
  unfold Decimal.text
  dsimp only
  split
  · exact plain_positional (plain_decimal _) _
  · exact plain_scientific (plain_decimal _) _

theorem Double.plain_signText (negative : Bool) : Plain (signText negative) := by
  cases negative
  · exact plain_nil
  · exact plain_cons (by decide) plain_nil

end Numbers

namespace Json

theorem plain_intText (n : Int) : Plain (intText n) := by
  cases n with
  | ofNat n => exact plain_decimal n
  | negSucc n => exact plain_cons (by decide) (plain_decimal _)

theorem plain_doubleText (x : Double) : Plain (x.text doubleSpelling) := by
  cases x with
  | nan => decide
  | infinite negative => exact plain_append (Double.plain_signText _) (by decide)
  | finite negative rank =>
    refine plain_append (Double.plain_signText _) ?_
    split
    · decide
    · exact Decimal.plain_text _

theorem plain_unitText {n : Nat} (h : n < 0x10000) : Plain (unitText n) := by
  have hd : ∀ m < 16, isPlain (Nat.digitChar m) = true := by decide
  rw [unitText, hexPadded_four h]
  refine plain_cons (by decide) (plain_cons (by decide) (plain_cons (hd _ (by omega))
    (plain_cons (hd _ (by omega)) (plain_cons (hd _ (by omega)) (plain_cons (hd _ (by omega))
      plain_nil)))))

theorem plain_escape (c : Char) : Plain (escape c) := by
  unfold escape
  split_ifs with h₁ h₂ h₃ h₄ h₅ h₆ h₇ h₈ h₉
  iterate 7 exact plain_cons (by decide) (plain_cons (by decide) plain_nil)
  · have hc : isPlain c = true := by
      simp only [isPlain, Bool.and_eq_true, decide_eq_true_eq, bne_iff_ne]
      exact ⟨by omega, h₄⟩
    exact plain_cons hc plain_nil
  · exact plain_unitText h₉
  · obtain ⟨high, low, he, hh, hl, _⟩ := Utf16.surrogates_eq (Nat.le_of_not_lt h₉)
    simp only [Utf16.isHighSurrogate, Utf16.isLowSurrogate, Bool.and_eq_true,
      decide_eq_true_eq] at hh hl
    rw [he, List.flatMap_cons, List.flatMap_singleton]
    exact plain_append (plain_unitText (by omega)) (plain_unitText (by omega))

theorem plain_stringText (s : String) : Plain (stringText s) := by
  refine plain_append (plain_cons (by decide) ?_) (plain_cons (by decide) plain_nil)
  intro c hc
  obtain ⟨d, _, hd⟩ := List.mem_flatMap.1 hc
  exact plain_escape d c hd

theorem plain_atomText (v : Json) : Plain (atomText v) := by
  cases v with
  | null => decide
  | bool b => cases b <;> decide
  | int n => exact plain_intText n
  | float x => exact plain_doubleText x
  | str s => exact plain_stringText s
  | arr items => exact plain_cons (by decide) (plain_cons (by decide) plain_nil)
  | obj fields => exact plain_cons (by decide) (plain_cons (by decide) plain_nil)

structure Setting.Plain (setting : Setting) : Prop where
  opening : ∀ depth, Text.Plain (setting.opening depth)
  between : ∀ depth, Text.Plain (setting.between depth)
  closing : ∀ depth, Text.Plain (setting.closing depth)

theorem plain_lineAt (depth : Nat) : Plain (lineAt depth) :=
  plain_cons (by decide) (plain_replicate _ (by decide))

theorem plain_indented : indented.Plain where
  opening := fun _ => plain_lineAt _
  between := fun _ => plain_cons (by decide) (plain_lineAt _)
  closing := plain_lineAt

theorem plain_oneLine : oneLine.Plain where
  opening := fun _ => plain_nil
  between := fun _ => plain_cons (by decide) (plain_cons (by decide) plain_nil)
  closing := fun _ => plain_nil

section

variable {setting : Setting} (hset : setting.Plain)

include hset

mutual

theorem plain_textWith : (v : Json) → (depth : Nat) → Plain (textWith setting depth v)
  | .null, _ | .bool _, _ | .int _, _ | .float _, _ | .str _, _ | .arr [], _ | .obj [], _ => by
    simp only [textWith]
    exact plain_atomText _
  | .arr (item :: items), depth => by
    rw [textWith_arr]
    exact plain_cons (by decide) (plain_append (hset.opening depth)
      (plain_append (plain_itemsBody (item :: items) depth)
        (plain_append (hset.closing depth) (plain_cons (by decide) plain_nil))))
  | .obj ((name, value) :: fields), depth => by
    rw [textWith_obj]
    exact plain_cons (by decide) (plain_append (hset.opening depth)
      (plain_append (plain_fieldsBody ((name, value) :: fields) depth)
        (plain_append (hset.closing depth) (plain_cons (by decide) plain_nil))))

theorem plain_itemsBody : (items : List Json) → (depth : Nat) →
    Plain (itemsBody setting depth items)
  | [], _ => plain_nil
  | [item], depth => plain_append (plain_textWith item (depth + 1)) plain_nil
  | item :: next :: items, depth => by
    rw [itemsBody, itemsText_cons]
    exact plain_append (plain_textWith item (depth + 1))
      (plain_append (hset.between depth) (plain_itemsBody (next :: items) depth))

theorem plain_fieldsBody : (fields : List (String × Json)) → (depth : Nat) →
    Plain (fieldsBody setting depth fields)
  | [], _ => plain_nil
  | [(name, value)], depth => by
    exact plain_append (plain_append (plain_stringText name) (plain_cons (by decide)
      (plain_cons (by decide) (plain_textWith value (depth + 1))))) plain_nil
  | (name, value) :: next :: fields, depth => by
    rw [fieldsBody, fieldsText_cons]
    exact plain_append (plain_append (plain_stringText name) (plain_cons (by decide)
      (plain_cons (by decide) (plain_textWith value (depth + 1)))))
      (plain_append (hset.between depth) (plain_fieldsBody (next :: fields) depth))

end

end

theorem read_ofList {s : List Char} (h : Text.Plain s) (room : Nat) :
    read room (String.ofList s) = readChars room s := by
  have hmark : s.head? ≠ some '\ufeff' := by
    intro he
    exact absurd (h _ (List.mem_of_mem_head? he)) (by decide)
  rw [read, String.toList_ofList, if_neg hmark]

theorem read_textWith {setting : Setting} (hsound : setting.Sound) (hplain : setting.Plain)
    {v : Json} {room : Nat} (hv : v.Distinct) (hroom : v.depth ≤ room) :
    read room (String.ofList (textWith setting 0 v)) = v.readBack := by
  rw [read_ofList (plain_textWith hplain v 0), readChars_textWith hsound hv hroom]

theorem read_text {v : Json} {room : Nat} (hv : v.Distinct) (hroom : v.depth ≤ room) :
    read room v.text = v.readBack :=
  read_textWith sound_oneLine plain_oneLine hv hroom

/-- Values that are written alike are one value. -/
theorem text_inj {v w : Json} (hv : v.Distinct) (hw : w.Distinct) (hl : v.long? = none)
    (h : v.text = w.text) : v = w := by
  have hread := read_text hv (Nat.le_max_left v.depth w.depth)
  rw [readBack, hl, h, read_text hw (Nat.le_max_right _ _), readBack] at hread
  cases hlong : w.long? with
  | none =>
    rw [hlong] at hread
    exact (Except.ok.inj hread).symm
  | some e =>
    rw [hlong] at hread
    cases hread

end Json

theorem Files.read_of_get? {files : Files} {path : Path} {bytes : List UInt8} {modified : Int}
    (h : files.get? path = some (.file bytes modified)) : files.read path = .ok bytes := by
  rw [read, find, h]

theorem Files.readJson_indentedText {files : Files} {path : Path} {v : Json} {modified : Int}
    {room : Nat} (hv : v.Distinct) (hroom : v.depth ≤ room)
    (h : files.get? path = some (.file (Text.Utf8.encode v.indentedText.toList) modified)) :
    files.readJson room path = v.readBack.mapError .json := by
  have htext : files.readText path = .ok v.indentedText := by
    rw [readText, read_of_get? h, Json.indentedText, String.toList_ofList]
    simp only [textOfBytes_encode (Json.plain_textWith Json.plain_indented v 0), Except.mapError]
  have hread := Json.read_textWith Json.sound_indented Json.plain_indented hv hroom
  rw [← Json.indentedText] at hread
  simp only [readJson, htext, hread]

end Sitewright
