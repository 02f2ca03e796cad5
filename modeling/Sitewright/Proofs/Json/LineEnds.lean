import Sitewright.Proofs.Json.Grammar
import Sitewright.Text.Lines

namespace Sitewright

namespace Text

variable {s t r w : List Char} {c : Char}

def isLineEnd (c : Char) : Bool := c == '\r' || c == '\n'

theorem isLineEnd_iff : isLineEnd c = true ↔ c = '\r' ∨ c = '\n' := by
  rw [isLineEnd, Bool.or_eq_true, beq_iff_eq, beq_iff_eq]

theorem isLineEnd_eq_false {p : Char → Prop} (h : p c) (hreturn : ¬p '\r') (hfeed : ¬p '\n') :
    isLineEnd c = false := by
  rw [Bool.eq_false_iff]
  intro hc
  obtain rfl | rfl := isLineEnd_iff.1 hc
  · exact hreturn h
  · exact hfeed h

/-- Whether two texts are the same once their line ends are made plain. -/
def Alike (s t : List Char) : Prop := universalLines s = universalLines t

theorem universalLines_cons (h : c ≠ '\r') (s : List Char) :
    universalLines (c :: s) = c :: universalLines s := by
  rw [universalLines]
  · exact fun _ hc _ => h hc
  · exact h

theorem universalLines_return (h : ∀ rest, s ≠ '\n' :: rest) :
    universalLines ('\r' :: s) = '\n' :: universalLines s := by
  rw [universalLines]
  exact h

theorem alike_universalLines (s : List Char) : Alike (universalLines s) s := by
  unfold Alike
  fun_induction universalLines s with
  | case1 => rfl
  | case2 rest ih => rw [universalLines_cons (by decide), ih]
  | case3 rest _ ih => rw [universalLines_cons (by decide), ih]
  | case4 c rest _ h ih => rw [universalLines_cons h, ih]

/-- A line end of any spelling becomes one line feed. -/
theorem exists_of_universalLines (h : universalLines s = c :: r) :
    ∃ pad rest, s = pad ++ rest ∧ universalLines rest = r ∧
      (isLineEnd c = false → pad = [c]) ∧ (c = '\n' → ∀ d ∈ pad, isLineEnd d = true) := by
  rw [universalLines.eq_def] at h
  split at h
  · cases h
  · next rest =>
    cases h
    exact ⟨['\r', '\n'], rest, rfl, rfl, nofun, fun _ => by simp [isLineEnd]⟩
  · next rest _ =>
    cases h
    exact ⟨['\r'], rest, rfl, rfl, nofun, fun _ => by simp [isLineEnd]⟩
  · next d rest _ _ =>
    cases h
    refine ⟨[c], rest, rfl, rfl, fun _ => rfl, ?_⟩
    rintro rfl
    simp [isLineEnd]

theorem Alike.eq_nil (h : Alike [] t) : t = [] := by
  rw [Alike, universalLines, eq_comm, universalLines.eq_def] at h
  split at h
  · rfl
  all_goals cases h

theorem Alike.of_cons (h : Alike (c :: s) t) (hc : isLineEnd c = false) :
    ∃ t', t = c :: t' ∧ Alike s t' := by
  have hne : c ≠ '\r' := by
    rintro rfl
    cases hc
  rw [Alike, universalLines_cons hne] at h
  obtain ⟨pad, t', rfl, hs, hpad, _⟩ := exists_of_universalLines h.symm
  rw [hpad hc]
  exact ⟨t', rfl, hs.symm⟩

theorem Alike.of_append (h : Alike (w ++ s) t) (hw : ∀ c ∈ w, isLineEnd c = false) :
    ∃ t', t = w ++ t' ∧ Alike s t' := by
  induction w generalizing t with
  | nil => exact ⟨t, rfl, h⟩
  | cons c w ih =>
    obtain ⟨hc, hw⟩ := List.forall_mem_cons.1 hw
    obtain ⟨t', rfl, hs⟩ := h.of_cons hc
    obtain ⟨t'', rfl, hs'⟩ := ih hs hw
    exact ⟨t'', rfl, hs'⟩

/-- A line end has line ends in its place, or none if it goes on. -/
theorem Alike.of_lineEnd (h : Alike (c :: s) t) (hc : isLineEnd c = true) :
    ∃ pad t', t = pad ++ t' ∧ (∀ d ∈ pad, isLineEnd d = true) ∧ Alike s t' := by
  have hfeed (h : '\n' :: universalLines s = universalLines t) :
      ∃ pad t', t = pad ++ t' ∧ (∀ d ∈ pad, isLineEnd d = true) ∧ Alike s t' := by
    obtain ⟨pad, t', rfl, hs, _, hpad⟩ := exists_of_universalLines h.symm
    exact ⟨pad, t', rfl, hpad rfl, hs.symm⟩
  obtain rfl | rfl := isLineEnd_iff.1 hc
  · by_cases hs : ∃ rest, s = '\n' :: rest
    · obtain ⟨rest, rfl⟩ := hs
      refine ⟨[], t, rfl, nofun, ?_⟩
      rw [Alike, universalLines] at h
      rwa [Alike, universalLines_cons (by decide)]
    · rw [Alike, universalLines_return fun rest he => hs ⟨rest, he⟩] at h
      exact hfeed h
  · rw [Alike, universalLines_cons (by decide)] at h
    exact hfeed h

end Text

namespace Json

open Text Text.Utf16

variable {room : Nat} {s t rest : List Char} {v : Json}

theorem Blanks.pad {pad : List Char} (hpad : ∀ c ∈ pad, isBlank c = true) (h : Blanks s rest) :
    Blanks (pad ++ s) rest := by
  induction pad with
  | nil => exact h
  | cons c pad ih =>
    obtain ⟨hc, hpad⟩ := List.forall_mem_cons.1 hpad
    exact .next hc (ih hpad)

theorem isBlank_of_isLineEnd {c : Char} (h : isLineEnd c = true) : isBlank c = true := by
  obtain rfl | rfl := isLineEnd_iff.1 h <;> rfl

theorem Blanks.alike (h : Blanks s rest) (ha : Alike s t) :
    ∃ rest', Alike rest rest' ∧ Blanks t rest' := by
  induction h generalizing t with
  | none rest => exact ⟨t, ha, .none t⟩
  | @next c s rest hc h ih =>
    by_cases he : isLineEnd c = true
    · obtain ⟨pad, t', rfl, hpad, hs⟩ := ha.of_lineEnd he
      obtain ⟨rest', hr, hb⟩ := ih hs
      exact ⟨rest', hr, hb.pad fun d hd => isBlank_of_isLineEnd (hpad d hd)⟩
    · obtain ⟨t', rfl, hs⟩ := ha.of_cons (Bool.not_eq_true _ ▸ he)
      obtain ⟨rest', hr, hb⟩ := ih hs
      exact ⟨rest', hr, .next hc hb⟩

/-- Blanks up to a sign are found up to that sign, however their lines end. -/
theorem Blanks.alike_cons {c : Char} (h : Blanks s (c :: rest)) (ha : Alike s t)
    (hc : isLineEnd c = false) : ∃ rest', Alike rest rest' ∧ Blanks t (c :: rest') := by
  obtain ⟨_, hr, hb⟩ := h.alike ha
  obtain ⟨rest', rfl, hs⟩ := hr.of_cons hc
  exact ⟨rest', hs, hb⟩

theorem isLineEnd_of_le {c : Char} (h : 0x20 ≤ c.toNat) : isLineEnd c = false :=
  isLineEnd_eq_false (p := fun c => 0x20 ≤ c.toNat) h (by decide) (by decide)

theorem isLineEnd_of_isDigit {c : Char} (h : c.isDigit = true) : isLineEnd c = false :=
  isLineEnd_eq_false (p := fun c => c.isDigit = true) h (by decide) (by decide)

theorem isLineEnd_of_escaped? {e c : Char} (h : escaped? e = some c) : isLineEnd e = false :=
  isLineEnd_eq_false (p := fun e => escaped? e = some c) h nofun nofun

theorem isLineEnd_of_hexValue? {c : Char} {n : Nat} (h : hexValue? c = some n) :
    isLineEnd c = false :=
  isLineEnd_eq_false (p := fun c => hexValue? c = some n) h nofun nofun

theorem isLineEnd_of_codeUnit? {a b c d : Char} {n : Nat} (h : codeUnit? a b c d = some n) :
    ∀ e ∈ [a, b, c, d], isLineEnd e = false := by
  simp only [codeUnit?, Option.bind_eq_bind, Option.bind_eq_some_iff] at h
  obtain ⟨_, ha, _, hb, _, hc, _, hd, _⟩ := h
  simp only [List.forall_mem_cons, isLineEnd_of_hexValue? ha, isLineEnd_of_hexValue? hb,
    isLineEnd_of_hexValue? hc, isLineEnd_of_hexValue? hd, true_and]
  exact List.forall_mem_nil _

theorem Inside.alike {u : Spelled} {text : String} (h : Inside u s text rest) (ha : Alike s t) :
    ∃ rest', Alike rest rest' ∧ Inside u t text rest' := by
  induction h generalizing t with
  | close u rest =>
    obtain ⟨rest', rfl, hs⟩ := ha.of_cons rfl
    exact ⟨rest', hs, .close u rest'⟩
  | plain hquote hslash hcontrol _ ih =>
    obtain ⟨t', rfl, hs⟩ := ha.of_cons (isLineEnd_of_le hcontrol)
    obtain ⟨rest', hr, h⟩ := ih hs
    exact ⟨rest', hr, .plain hquote hslash hcontrol h⟩
  | escape he _ ih =>
    obtain ⟨t', rfl, hs⟩ := ha.of_cons rfl
    obtain ⟨t'', rfl, hs'⟩ := hs.of_cons (isLineEnd_of_escaped? he)
    obtain ⟨rest', hr, h⟩ := ih hs'
    exact ⟨rest', hr, .escape he h⟩
  | @unit u a b c d n s text rest hn _ ih =>
    have hplain : ∀ e ∈ ['\\', 'u', a, b, c, d], isLineEnd e = false :=
      List.forall_mem_cons.2 ⟨rfl, List.forall_mem_cons.2 ⟨rfl, isLineEnd_of_codeUnit? hn⟩⟩
    obtain ⟨t', rfl, hs⟩ := Alike.of_append (w := ['\\', 'u', a, b, c, d]) ha hplain
    obtain ⟨rest', hr, h⟩ := ih hs
    exact ⟨rest', hr, .unit hn h⟩

theorem Fraction.alike {digits : List Char} (h : Fraction s digits rest) (ha : Alike s t) :
    ∃ rest', Alike rest rest' ∧ Fraction t digits rest' := by
  cases h with
  | none => exact ⟨t, ha, .none t⟩
  | point hd hn =>
    obtain ⟨t', rfl, hs⟩ := ha.of_append (List.forall_mem_cons.2
      ⟨rfl, fun c hc => isLineEnd_of_isDigit (hd c hc)⟩)
    exact ⟨t', hs, .point hd hn t'⟩

theorem Exponent.alike {exponent : Option Int} (h : Exponent s exponent rest) (ha : Alike s t) :
    ∃ rest', Alike rest rest' ∧ Exponent t exponent rest' := by
  cases h with
  | none => exact ⟨t, ha, .none t⟩
  | @mark m sign _ _ hm hsign hd hn =>
    have hmark : isLineEnd m = false := by obtain rfl | rfl := hm <;> rfl
    have hplain : ∀ c ∈ sign, isLineEnd c = false := by
      cases hsign <;> simp [isLineEnd]
    obtain ⟨t', rfl, hs⟩ := ha.of_cons hmark
    obtain ⟨t'', rfl, hs'⟩ := hs.of_append hplain
    obtain ⟨rest', rfl, hs''⟩ := hs'.of_append fun c hc => isLineEnd_of_isDigit (hd c hc)
    exact ⟨rest', hs'', .mark hm hsign hd hn rest'⟩

theorem Numeral.alike (h : Numeral s v rest) (ha : Alike s t) :
    ∃ rest', Alike rest rest' ∧ Numeral t v rest' := by
  have hsign (negative : Bool) : ∀ c ∈ Double.signText negative, isLineEnd c = false := by
    cases negative <;> simp [Double.signText, isLineEnd]
  cases h with
  | int negative hw hl =>
    obtain ⟨t', rfl, hs⟩ := ha.of_append (hsign negative)
    obtain ⟨rest', rfl, hs'⟩ := hs.of_append fun c hc => isLineEnd_of_isDigit (hw.digits c hc)
    exact ⟨rest', hs', .int negative hw hl rest'⟩
  | float negative hw hf he h =>
    obtain ⟨t', rfl, hs⟩ := ha.of_append (hsign negative)
    obtain ⟨t'', rfl, hs'⟩ := hs.of_append fun c hc => isLineEnd_of_isDigit (hw.digits c hc)
    obtain ⟨after', hs', hf⟩ := hf.alike hs'
    obtain ⟨rest', hs', he⟩ := he.alike hs'
    exact ⟨rest', hs', .float negative hw hf he h⟩

theorem isLineEnd_of_mem_words {w : List Char × Json} (hw : w ∈ words) :
    ∀ c ∈ w.1, isLineEnd c = false := by
  simp only [words, List.mem_cons, List.not_mem_nil, or_false] at hw
  obtain rfl | rfl | rfl | rfl | rfl | rfl := hw <;> simp [isLineEnd]

mutual

theorem Spells.alike {room : Nat} {s t rest : List Char} {v : Json} :
    Spells room s v rest → Alike s t → ∃ rest', Alike rest rest' ∧ Spells room t v rest'
  | .word hw _, ha => by
    obtain ⟨rest', rfl, hs⟩ := ha.of_append (isLineEnd_of_mem_words hw)
    exact ⟨rest', hs, .word hw rest'⟩
  | .number h, ha => by
    obtain ⟨rest', ha, h⟩ := h.alike ha
    exact ⟨rest', ha, .number h⟩
  | .string h, ha => by
    obtain ⟨t', rfl, hs⟩ := ha.of_cons rfl
    obtain ⟨rest', hs, h⟩ := h.alike hs
    exact ⟨rest', hs, .string h⟩
  | .emptyArray h, ha => by
    obtain ⟨t', rfl, hs⟩ := ha.of_cons rfl
    obtain ⟨rest', hs, h⟩ := h.alike_cons hs rfl
    exact ⟨rest', hs, .emptyArray h⟩
  | .array hb h, ha => by
    obtain ⟨t', rfl, hs⟩ := ha.of_cons rfl
    obtain ⟨inside, hs, hb⟩ := hb.alike hs
    obtain ⟨rest', hs, h⟩ := h.alike hs
    exact ⟨rest', hs, .array hb h⟩
  | .emptyObject h, ha => by
    obtain ⟨t', rfl, hs⟩ := ha.of_cons rfl
    obtain ⟨rest', hs, h⟩ := h.alike_cons hs rfl
    exact ⟨rest', hs, .emptyObject h⟩
  | .object hb h, ha => by
    obtain ⟨t', rfl, hs⟩ := ha.of_cons rfl
    obtain ⟨inside, hs, hb⟩ := hb.alike hs
    obtain ⟨rest', hs, h⟩ := h.alike hs
    exact ⟨rest', hs, .object hb h⟩

theorem SpellsItems.alike {room : Nat} {s t rest : List Char} {items : List Json} :
    SpellsItems room s items rest → Alike s t →
    ∃ rest', Alike rest rest' ∧ SpellsItems room t items rest'
  | .last hv hb, ha => by
    obtain ⟨after, ha, hv⟩ := hv.alike ha
    obtain ⟨rest', ha, hb⟩ := hb.alike_cons ha rfl
    exact ⟨rest', ha, .last hv hb⟩
  | .next hv hb hb' h, ha => by
    obtain ⟨after, ha, hv⟩ := hv.alike ha
    obtain ⟨afterComma, ha, hb⟩ := hb.alike_cons ha rfl
    obtain ⟨others, ha, hb'⟩ := hb'.alike ha
    obtain ⟨rest', ha, h⟩ := h.alike ha
    exact ⟨rest', ha, .next hv hb hb' h⟩

theorem SpellsEntries.alike {room : Nat} {s t rest : List Char}
    {entries : List (String × Json)} :
    SpellsEntries room s entries rest → Alike s t →
    ∃ rest', Alike rest rest' ∧ SpellsEntries room t entries rest'
  | .last hn hc hc' hv hb, ha => by
    obtain ⟨inName, rfl, hs⟩ := ha.of_cons rfl
    obtain ⟨afterName, hs, hn⟩ := hn.alike hs
    obtain ⟨afterColon, hs, hc⟩ := hc.alike_cons hs rfl
    obtain ⟨value, hs, hc'⟩ := hc'.alike hs
    obtain ⟨after, hs, hv⟩ := hv.alike hs
    obtain ⟨rest', hs, hb⟩ := hb.alike_cons hs rfl
    exact ⟨rest', hs, .last hn hc hc' hv hb⟩
  | .next hn hc hc' hv hb hb' h, ha => by
    obtain ⟨inName, rfl, hs⟩ := ha.of_cons rfl
    obtain ⟨afterName, hs, hn⟩ := hn.alike hs
    obtain ⟨afterColon, hs, hc⟩ := hc.alike_cons hs rfl
    obtain ⟨value, hs, hc'⟩ := hc'.alike hs
    obtain ⟨after, hs, hv⟩ := hv.alike hs
    obtain ⟨afterComma, hs, hb⟩ := hb.alike_cons hs rfl
    obtain ⟨others, hs, hb'⟩ := hb'.alike hs
    obtain ⟨rest', hs, h⟩ := h.alike hs
    exact ⟨rest', hs, .next hn hc hc' hv hb hb' h⟩

end

theorem Document.alike (h : Document room s v) (ha : Alike s t) : Document room t v := by
  obtain ⟨s₁, s₂, hb, hv, hb'⟩ := h
  obtain ⟨t₁, ha, hb⟩ := hb.alike ha
  obtain ⟨t₂, ha, hv⟩ := hv.alike ha
  obtain ⟨t₃, ha, hb'⟩ := hb'.alike ha
  exact ⟨t₁, t₂, hb, hv, ha.eq_nil ▸ hb'⟩

/-- Line ends are only blanks in a document: it does not matter how they are spelled. -/
theorem document_universalLines : Document room (universalLines s) v ↔ Document room s v :=
  ⟨fun h => h.alike (alike_universalLines s), fun h => h.alike (alike_universalLines s).symm⟩

end Json

end Sitewright
