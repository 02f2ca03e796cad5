import Mathlib.Tactic.SplitIfs
import Mathlib.Data.List.Basic
import Sitewright.Text.Markup
import Sitewright.Text.Replace

namespace Sitewright.Text

variable {c d k : Char} {s value : List Char}

theorem replaceAll_singleton (k : Char) (value s : List Char) :
    replaceAll [k] value s = s.flatMap fun c => if c = k then value else [c] := by
  change replaceEach [k] value 0 s = _
  induction s with
  | nil => rfl
  | cons c s ih =>
    rw [replaceEach, List.flatMap_cons, ← ih]
    by_cases hc : c = k
    · subst hc
      rw [if_pos rfl]
      exact if_pos (by simp)
    · rw [if_neg hc]
      exact if_neg (by simpa using Ne.symm hc)

/-- Escapes a text by one replacement after the other. Ampersands come first, since every
replacement after that writes new ones. -/
def escapedInTurn (s : List Char) : List Char :=
  let s := replaceAll ['&'] "&amp;".toList s
  let s := replaceAll ['<'] "&lt;".toList s
  let s := replaceAll ['>'] "&gt;".toList s
  let s := replaceAll ['"'] "&quot;".toList s
  replaceAll ['\''] "&#x27;".toList s

theorem escapedInTurn_eq (s : List Char) : escapedInTurn s = s.flatMap escapeMarkup := by
  simp only [escapedInTurn, replaceAll_singleton, List.flatMap_assoc]
  congr 1
  funext c
  unfold escapeMarkup
  split_ifs with hamp hlt hgt hquot happ
  iterate 5
    subst c
    rfl
  simp only [List.flatMap_cons, List.flatMap_nil, if_neg, hlt, hgt, hquot, happ,
    not_false_eq_true, List.append_nil]

/-- Reads the names of characters back, from left to right and once. -/
def unescape : List Char → List Char
  | '&' :: 'a' :: 'm' :: 'p' :: ';' :: rest => '&' :: unescape rest
  | '&' :: 'l' :: 't' :: ';' :: rest => '<' :: unescape rest
  | '&' :: 'g' :: 't' :: ';' :: rest => '>' :: unescape rest
  | '&' :: 'q' :: 'u' :: 'o' :: 't' :: ';' :: rest => '"' :: unescape rest
  | '&' :: '#' :: 'x' :: '2' :: '7' :: ';' :: rest => '\'' :: unescape rest
  | c :: rest => c :: unescape rest
  | [] => []

theorem unescape_cons (h : c ≠ '&') (rest : List Char) :
    unescape (c :: rest) = c :: unescape rest := by
  rw [unescape.eq_def]
  split <;> simp_all

theorem unescape_escapeMarkup (c : Char) (rest : List Char) :
    unescape (escapeMarkup c ++ rest) = c :: unescape rest := by
  unfold escapeMarkup
  split_ifs with hamp hlt hgt hquot happ
  iterate 5
    subst c
    rfl
  exact unescape_cons hamp rest

theorem unescape_flatMap_escapeMarkup (s : List Char) : unescape (s.flatMap escapeMarkup) = s := by
  induction s with
  | nil => rfl
  | cons c s ih => rw [List.flatMap_cons, unescape_escapeMarkup, ih]

/-- Whether a character can neither end a value nor open or close a tag. -/
def isInert (c : Char) : Bool := c != '"' && c != '<' && c != '>'

theorem isInert_iff : isInert c = true ↔ c ≠ '"' ∧ c ≠ '<' ∧ c ≠ '>' := by
  simp only [isInert, Bool.and_eq_true, bne_iff_ne, and_assoc]

theorem isInert_of_mem_escapeMarkup (h : d ∈ escapeMarkup c) : isInert d = true := by
  unfold escapeMarkup at h
  split_ifs at h with hamp hlt hgt hquot happ
  iterate 5 exact List.all_eq_true.1 rfl d h
  rw [List.mem_singleton.1 h]
  exact isInert_iff.2 ⟨hquot, hlt, hgt⟩

theorem ne_of_mem_escaped (h : d ∈ s.flatMap escapeMarkup) : d ≠ '"' ∧ d ≠ '<' ∧ d ≠ '>' := by
  obtain ⟨c, -, hd⟩ := List.mem_flatMap.1 h
  exact isInert_iff.1 (isInert_of_mem_escapeMarkup hd)

/-- What stands between the name and the end of a tag that holds nothing but attributes. -/
def tagBody? (name : String) (tag : List Char) : Option (List Char) :=
  (tag.dropPrefix? ('<' :: name.toList ++ [' '])).bind (List.dropSuffix? · [' ', '/', '>'])

/-- Reads attributes off the parts of a text that is cut at its quotes: a name and a value take
turns, and nothing comes after the last value. -/
def attributesOfParts? : List (List Char) → Option (List (String × String))
  | [[]] => some []
  | name :: value :: parts => do
    let name ← (name.dropWhile (· == ' ')).dropSuffix? ['=']
    let attributes ← attributesOfParts? parts
    return (String.ofList name, String.ofList (unescape value)) :: attributes
  | _ => none

def attributesOf? (name : String) (tag : List Char) : Option (List (String × String)) :=
  (tagBody? name tag).bind fun body => attributesOfParts? (body.splitOn '"')

/-- Whether a name is made of letters. -/
def IsAttributeName (name : String) : Prop := ∀ c ∈ name.toList, c.isAlpha = true

variable {name : String} {attributes : List (String × String)}

theorem IsAttributeName.ne (h : IsAttributeName name) (hc : c ∈ name.toList)
    (hd : d.isAlpha = false) : c ≠ d := by
  rintro rfl
  exact Bool.noConfusion (hd.symm.trans (h c hc))

theorem dropWhile_name (h : IsAttributeName name) {pad : List Char} (hpad : ∀ c ∈ pad, c = ' ') :
    (pad ++ (name.toList ++ ['='])).dropWhile (· == ' ') = name.toList ++ ['='] := by
  rw [List.dropWhile_append_of_pos fun c hc => beq_iff_eq.2 (hpad c hc)]
  cases hname : name.toList with
  | nil => rfl
  | cons c rest =>
    have hc : c ≠ ' ' := h.ne (by rw [hname]; exact List.mem_cons_self) rfl
    exact List.dropWhile_cons_of_neg (by simpa using hc)

/-- An attribute is the first that is read, with blanks before it or none, and the rest of the
text is left to the others. -/
theorem attributesOfParts?_attributeText (h : IsAttributeName name) {pad : List Char}
    (hpad : ∀ c ∈ pad, c = ' ') (value rest : List Char) :
    attributesOfParts? ((pad ++ (attributeText name value ++ rest)).splitOn '"') =
      (attributesOfParts? (rest.splitOn '"')).map ((name, String.ofList value) :: ·) := by
  have hsplit : pad ++ (attributeText name value ++ rest) =
      (pad ++ (name.toList ++ ['='])) ++ '"' :: (value.flatMap escapeMarkup ++ '"' :: rest) := by
    simp [attributeText]
  have hname : ∀ c ∈ pad ++ (name.toList ++ ['=']), (c == '"') = false := by
    intro c hc
    apply beq_false_of_ne
    rcases List.mem_append.1 hc with hc | hc
    · rw [hpad c hc]
      decide
    · rcases List.mem_append.1 hc with hc | hc
      · exact h.ne hc rfl
      · rw [List.mem_singleton.1 hc]
        decide
  have hvalue : ∀ c ∈ value.flatMap escapeMarkup, (c == '"') = false :=
    fun c hc => beq_false_of_ne (ne_of_mem_escaped hc).1
  have hdrop : (name.toList ++ ['=']).dropSuffix? ['='] = some name.toList :=
    List.dropSuffix?_eq_some_iff.2 ⟨_, rfl, beq_self_eq_true _⟩
  rw [hsplit, List.splitOn, List.splitOnP_append_cons_of_forall_mem hname '"' rfl,
    List.splitOnP_append_cons_of_forall_mem hvalue '"' rfl, attributesOfParts?,
    dropWhile_name h hpad, hdrop, unescape_flatMap_escapeMarkup, List.splitOn]
  change (do
    let attributes ← attributesOfParts? (rest.splitOnP (· == '"'))
    return (String.ofList name.toList, String.ofList value) :: attributes) = _
  rw [String.ofList_toList]
  cases attributesOfParts? (rest.splitOnP (· == '"')) <;> rfl

theorem attributesOfParts?_flatMap (h : ∀ a ∈ attributes, IsAttributeName a.1) :
    attributesOfParts? ((attributes.flatMap fun a => ' ' :: attributeText a.1 a.2.toList).splitOn
      '"') = some attributes := by
  induction attributes with
  | nil => rfl
  | cons a attributes ih =>
    obtain ⟨ha, hrest⟩ := List.forall_mem_cons.1 h
    have hpad : ∀ c ∈ [' '], c = ' ' := fun c => List.mem_singleton.1
    have hfirst := attributesOfParts?_attributeText ha hpad a.2.toList
      (attributes.flatMap fun a => ' ' :: attributeText a.1 a.2.toList)
    rw [ih hrest, String.ofList_toList] at hfirst
    exact hfirst

/-- The attributes of a tag are read back just as they were written. -/
theorem attributesOf?_emptyTag (tag : String) (h : ∀ a ∈ attributes, IsAttributeName a.1)
    (hsome : attributes ≠ []) : attributesOf? tag (emptyTag tag attributes) = some attributes := by
  cases attributes with
  | nil => exact absurd rfl hsome
  | cons a attributes =>
    obtain ⟨ha, hrest⟩ := List.forall_mem_cons.1 h
    let body := attributeText a.1 a.2.toList ++
      attributes.flatMap fun a => ' ' :: attributeText a.1 a.2.toList
    have htag : emptyTag tag (a :: attributes) =
        ('<' :: tag.toList ++ [' ']) ++ (body ++ [' ', '/', '>']) := by
      simp [emptyTag, body]
    have hbody : tagBody? tag (emptyTag tag (a :: attributes)) = some body := by
      rw [htag, tagBody?, List.dropPrefix?_append_of_beq _ (beq_self_eq_true _), Option.bind_some]
      exact List.dropSuffix?_eq_some_iff.2 ⟨_, rfl, beq_self_eq_true _⟩
    have hpad : ∀ c ∈ ([] : List Char), c = ' ' := nofun
    have hfirst := attributesOfParts?_attributeText ha hpad a.2.toList
      (attributes.flatMap fun a => ' ' :: attributeText a.1 a.2.toList)
    rw [attributesOfParts?_flatMap hrest, String.ofList_toList] at hfirst
    rw [attributesOf?, hbody]
    exact hfirst

theorem ne_of_mem_attributeText (h : IsAttributeName name) (hc : c ∈ attributeText name value) :
    c ≠ '<' ∧ c ≠ '>' := by
  simp only [attributeText, List.mem_append, List.mem_cons, List.not_mem_nil, or_false] at hc
  obtain (hc | rfl | rfl | hc) | rfl := hc
  · exact ⟨h.ne hc rfl, h.ne hc rfl⟩
  · decide
  · decide
  · exact (ne_of_mem_escaped hc).2
  · decide

/-- A tag opens with its first character and closes with its last, and nowhere else. -/
theorem exists_emptyTag_eq {tag : String} (htag : IsAttributeName tag)
    (h : ∀ a ∈ attributes, IsAttributeName a.1) :
    ∃ middle, emptyTag tag attributes = '<' :: middle ++ ['>'] ∧
      ∀ c ∈ middle, c ≠ '<' ∧ c ≠ '>' := by
  refine ⟨tag.toList ++ (attributes.flatMap (fun a => ' ' :: attributeText a.1 a.2.toList) ++
    [' ', '/']), by simp [emptyTag], ?_⟩
  intro c hc
  rcases List.mem_append.1 hc with hc | hc
  · exact ⟨htag.ne hc rfl, htag.ne hc rfl⟩
  rcases List.mem_append.1 hc with hc | hc
  · obtain ⟨a, ha, hc⟩ := List.mem_flatMap.1 hc
    obtain rfl | hc := List.mem_cons.1 hc
    · decide
    · exact ne_of_mem_attributeText (h a ha) hc
  · exact (isInert_iff.1 (List.all_eq_true.1 rfl c hc)).2

end Sitewright.Text
