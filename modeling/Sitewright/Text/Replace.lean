namespace Sitewright.Text

/-- Cuts a text around the first occurrence of `key`. -/
def cutAt (key : List Char) : List Char → Option (List Char × List Char)
  | [] => if key.isEmpty then some ([], []) else none
  | c :: rest =>
    if key.isPrefixOf (c :: rest) then some ([], (c :: rest).drop key.length)
    else (cutAt key rest).map fun cut => (c :: cut.1, cut.2)

def replaceFirst (key value s : List Char) : List Char :=
  match cutAt key s with
  | some (before, after) => before ++ value ++ after
  | none => s

/-- Replaces the occurrences of a non-empty `key` from left to right; the first `covered`
characters belong to an occurrence that is replaced already. -/
def replaceEach (key value : List Char) (covered : Nat) : List Char → List Char
  | [] => []
  | c :: rest =>
    match covered with
    | k + 1 => replaceEach key value k rest
    | 0 =>
      if key.isPrefixOf (c :: rest) then value ++ replaceEach key value (key.length - 1) rest
      else c :: replaceEach key value 0 rest

/-- Replaces every occurrence; the empty key occurs before each character and at the end. -/
def replaceAll (key value s : List Char) : List Char :=
  if key.isEmpty then value ++ s.flatMap (· :: value) else replaceEach key value 0 s

theorem replaceFirst_eq_self {key value s : List Char} (h : cutAt key s = none) :
    replaceFirst key value s = s := by
  simp only [replaceFirst, h]

theorem eq_append_of_cutAt {key s before after : List Char}
    (h : cutAt key s = some (before, after)) : s = before ++ key ++ after := by
  induction s generalizing before with
  | nil =>
    simp only [cutAt, List.isEmpty_iff] at h
    split at h
    · next hk => simp_all
    · simp at h
  | cons c rest ih =>
    simp only [cutAt] at h
    split at h
    · next hp =>
      obtain ⟨t, ht⟩ := List.isPrefixOf_iff_prefix.1 hp
      simp only [Option.some.injEq, Prod.mk.injEq] at h
      obtain ⟨rfl, rfl⟩ := h
      rw [← ht, List.drop_left, List.nil_append]
    · obtain ⟨cut, hc, he⟩ := Option.map_eq_some_iff.1 h
      simp only [Prod.mk.injEq] at he
      obtain ⟨rfl, rfl⟩ := he
      rw [ih hc, List.cons_append, List.cons_append]

end Sitewright.Text
