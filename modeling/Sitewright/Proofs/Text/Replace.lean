import Mathlib.Data.List.Infix
import Mathlib.Data.Nat.Init
import Sitewright.Text.Replace

namespace Sitewright.Text

variable {key other part value value' s rest : List Char} {c : Char}

/-- A text is empty, begins with one of the keys, or begins with a character where none of them
stands. -/
theorem keys_induction {keys : List (List Char)} (hkeys : ∀ key ∈ keys, key ≠ [])
    {motive : List Char → Prop} (nil : motive [])
    (found : ∀ key ∈ keys, ∀ rest, motive rest → motive (key ++ rest))
    (passed : ∀ c rest, (∀ key ∈ keys, ¬key <+: c :: rest) → motive rest → motive (c :: rest))
    (s : List Char) : motive s := by
  -- By the length of the text, since a key that is found may be longer than one character.
  induction hn : s.length using Nat.strong_induction_on generalizing s with
  | _ n ih =>
    subst hn
    by_cases h : ∃ key ∈ keys, key <+: s
    · obtain ⟨key, hk, rest, rfl⟩ := h
      have hpos := List.length_pos_iff.2 (hkeys key hk)
      exact found key hk rest (ih rest.length (by rw [List.length_append]; omega) rest rfl)
    · cases s with
      | nil => exact nil
      | cons c rest =>
        have hnone : ∀ key ∈ keys, ¬key <+: c :: rest := fun key hk hp => h ⟨key, hk, hp⟩
        exact passed c rest hnone (ih rest.length (Nat.lt_succ_self _) rest rfl)

theorem key_induction (hkey : key ≠ []) {motive : List Char → Prop} (nil : motive [])
    (found : ∀ rest, motive rest → motive (key ++ rest))
    (passed : ∀ c rest, ¬key <+: c :: rest → motive rest → motive (c :: rest))
    (s : List Char) : motive s := by
  induction s using keys_induction (List.forall_mem_singleton.2 hkey) with
  | nil => exact nil
  | found key' hk rest ih =>
    rw [List.mem_singleton.1 hk]
    exact found rest ih
  | passed c rest hc ih => exact passed c rest (hc key (List.mem_singleton_self key)) ih

theorem replaceEach_covered (key value : List Char) (covered : Nat) (s : List Char) :
    replaceEach key value covered s = replaceEach key value 0 (s.drop covered) := by
  induction s generalizing covered with
  | nil => rw [List.drop_nil, replaceEach, replaceEach]
  | cons c rest ih =>
    cases covered with
    | zero => rfl
    | succ covered => rw [replaceEach, ih, List.drop_succ_cons]

theorem replaceAll_of_ne_nil (hkey : key ≠ []) (value s : List Char) :
    replaceAll key value s = replaceEach key value 0 s :=
  if_neg fun h => hkey (List.isEmpty_iff.1 h)

@[simp] theorem replaceAll_nil (hkey : key ≠ []) (value : List Char) :
    replaceAll key value [] = [] :=
  replaceAll_of_ne_nil hkey value []

theorem replaceAll_append (hkey : key ≠ []) (value rest : List Char) :
    replaceAll key value (key ++ rest) = value ++ replaceAll key value rest := by
  obtain ⟨c, tail, rfl⟩ := List.exists_cons_of_ne_nil hkey
  have hp : (c :: tail).isPrefixOf (c :: (tail ++ rest)) = true :=
    List.isPrefixOf_iff_prefix.2 (List.prefix_append (c :: tail) rest)
  have hdrop : (tail ++ rest).drop ((c :: tail).length - 1) = rest := List.drop_left
  rw [replaceAll_of_ne_nil hkey, replaceAll_of_ne_nil hkey, List.cons_append, replaceEach,
    if_pos hp, replaceEach_covered, hdrop]

theorem replaceAll_cons (hkey : key ≠ []) (h : ¬key <+: c :: rest) (value : List Char) :
    replaceAll key value (c :: rest) = c :: replaceAll key value rest := by
  have hp : ¬key.isPrefixOf (c :: rest) = true := fun hp => h (List.isPrefixOf_iff_prefix.1 hp)
  rw [replaceAll_of_ne_nil hkey, replaceAll_of_ne_nil hkey, replaceEach, if_neg hp]

/-- What is in front of a text stays as it is if no key begins in it. -/
theorem replaceAll_append_of_passed (hkey : key ≠ []) {before : List Char}
    (h : ∀ e, e <:+ before → e ≠ [] → ¬key <+: e ++ rest) (value : List Char) :
    replaceAll key value (before ++ rest) = before ++ replaceAll key value rest := by
  induction before with
  | nil => rfl
  | cons c before ih =>
    have hc : ¬key <+: c :: (before ++ rest) := h _ (List.suffix_refl _) (List.cons_ne_nil _ _)
    have hbefore : ∀ e, e <:+ before → e ≠ [] → ¬key <+: e ++ rest := by
      intro e he
      exact h e (List.suffix_cons_iff.2 (.inr he))
    rw [List.cons_append, replaceAll_cons hkey hc, ih hbefore, List.cons_append]

theorem replaceAll_eq_self (hkey : key ≠ []) (h : ¬key <:+: s) (value : List Char) :
    replaceAll key value s = s := by
  have hnone : ∀ e, e <:+ s → e ≠ [] → ¬key <+: e ++ [] := by
    intro e he _ hp
    rw [List.append_nil] at hp
    exact h (hp.isInfix.trans he.isInfix)
  have heq := replaceAll_append_of_passed hkey hnone value
  rwa [List.append_nil, replaceAll_nil hkey, List.append_nil] at heq

/-- Whether a text is cut around the first occurrence of a key in it. -/
structure FirstCut (key s before after : List Char) : Prop where
  cut : s = before ++ key ++ after
  first : ∀ before' after', s = before' ++ key ++ after' → before.length ≤ before'.length

/-- A text has one cut around the first occurrence of a key. -/
theorem FirstCut.unique {before after before' after' : List Char}
    (h : FirstCut key s before after) (h' : FirstCut key s before' after') :
    before = before' ∧ after = after' := by
  have hlength : before.length = before'.length :=
    Nat.le_antisymm (h.first _ _ h'.cut) (h'.first _ _ h.cut)
  have hcut := h.cut.symm.trans h'.cut
  rw [List.append_assoc, List.append_assoc] at hcut
  obtain ⟨hbefore, hrest⟩ := List.append_inj hcut hlength
  exact ⟨hbefore, List.append_cancel_left hrest⟩

theorem firstCut_of_cutAt {before after : List Char} (h : cutAt key s = some (before, after)) :
    FirstCut key s before after := by
  refine ⟨eq_append_of_cutAt h, ?_⟩
  induction s generalizing before with
  | nil =>
    rw [cutAt] at h
    split at h
    · cases h
      exact fun _ _ _ => Nat.zero_le _
    · cases h
  | cons c rest ih =>
    rw [cutAt] at h
    split at h
    · cases h
      exact fun _ _ _ => Nat.zero_le _
    · next hp =>
      obtain ⟨⟨tail, after'⟩, hcut, htail⟩ := Option.map_eq_some_iff.1 h
      cases htail
      intro before' after' hs
      cases before' with
      | nil => exact absurd (List.isPrefixOf_iff_prefix.2 ⟨after', hs.symm⟩) hp
      | cons d before' => exact Nat.succ_le_succ (ih hcut before' after' (List.cons.inj hs).2)

theorem cutAt_eq_none_iff : cutAt key s = none ↔ ¬key <:+: s := by
  induction s with
  | nil =>
    rw [cutAt, List.infix_nil, ← List.isEmpty_iff]
    split
    · next hkey => exact iff_of_false (Option.some_ne_none _) fun hnot => hnot hkey
    · next hkey => exact iff_of_true rfl hkey
  | cons c rest ih =>
    rw [cutAt, List.infix_cons_iff, ← List.isPrefixOf_iff_prefix]
    split
    · next hp => exact iff_of_false (Option.some_ne_none _) fun hnot => hnot (.inl hp)
    · next hp => rw [Option.map_eq_none_iff, ih, or_iff_right hp]

theorem exists_replaceFirst (h : key <:+: s) (value : List Char) :
    ∃ before after, FirstCut key s before after ∧
      replaceFirst key value s = before ++ value ++ after := by
  cases hcut : cutAt key s with
  | none => exact absurd h (cutAt_eq_none_iff.1 hcut)
  | some cut =>
    refine ⟨cut.1, cut.2, firstCut_of_cutAt hcut, ?_⟩
    rw [replaceFirst, hcut]

theorem eq_nil_of_disjoint (hd : part.Disjoint value) (h : s ⊆ part) (h' : s ⊆ value) : s = [] :=
  List.eq_nil_iff_forall_not_mem.2 fun _ hc => hd (h hc) (h' hc)

/-- A text that shares no character with what is in front of another lies behind it. -/
theorem infix_of_infix_append (hd : part.Disjoint value) (h : part <:+: value ++ rest) :
    part <:+: rest := by
  obtain h | h | ⟨front, back, rfl, hfront, hback⟩ := List.infix_append_iff.1 h
  · rw [eq_nil_of_disjoint hd (List.Subset.refl part) h.subset]
    exact List.nil_infix
  · exact h
  · have hnil : front = [] :=
      eq_nil_of_disjoint hd (List.subset_append_left front back) hfront.subset
    rw [hnil]
    exact hback.isInfix

/-- A text that shares no character with what is put in begins a text after a replacement only if
it did before. -/
theorem prefix_of_prefix_replaceAll (hkey : key ≠ []) (hvalue : value ≠ [])
    (hd : part.Disjoint value) (h : part <+: replaceAll key value s) : part <+: s := by
  induction s using key_induction hkey generalizing part with
  | nil => rwa [replaceAll_nil hkey] at h
  | found rest _ =>
    obtain ⟨d, tail, rfl⟩ := List.exists_cons_of_ne_nil hvalue
    rw [replaceAll_append hkey, List.cons_append, List.prefix_cons_iff] at h
    obtain rfl | ⟨tail', rfl, -⟩ := h
    · exact List.nil_prefix
    · exact absurd List.mem_cons_self (hd List.mem_cons_self)
  | passed c rest hc ih =>
    rw [replaceAll_cons hkey hc, List.prefix_cons_iff] at h
    obtain rfl | ⟨tail, rfl, htail⟩ := h
    · exact List.nil_prefix
    · exact List.cons_prefix_cons.2 ⟨rfl, ih (List.disjoint_of_disjoint_cons_left hd) htail⟩

/-- A replacement makes no text that shares no character with what is put in: where characters
come together that were apart, something that is put in stands between them. -/
theorem infix_of_infix_replaceAll (hkey : key ≠ []) (hvalue : value ≠ [])
    (hd : part.Disjoint value) (h : part <:+: replaceAll key value s) : part <:+: s := by
  induction s using key_induction hkey with
  | nil => rwa [replaceAll_nil hkey] at h
  | found rest ih =>
    rw [replaceAll_append hkey] at h
    exact (ih (infix_of_infix_append hd h)).trans (List.suffix_append key rest).isInfix
  | passed c rest hc ih =>
    rw [List.infix_cons_iff]
    rw [replaceAll_cons hkey hc] at h
    obtain h | h := List.infix_cons_iff.1 h
    · rw [← replaceAll_cons hkey hc] at h
      exact .inl (prefix_of_prefix_replaceAll hkey hvalue hd h)
    · exact .inr (ih h)

theorem not_infix_replaceAll (hkey : key ≠ []) (hvalue : value ≠ []) (hd : key.Disjoint value)
    (s : List Char) : ¬key <:+: replaceAll key value s := by
  induction s using key_induction hkey with
  | nil =>
    rw [replaceAll_nil hkey, List.infix_nil]
    exact hkey
  | found rest ih =>
    rw [replaceAll_append hkey]
    exact fun h => ih (infix_of_infix_append hd h)
  | passed c rest hc ih =>
    rw [replaceAll_cons hkey hc, List.infix_cons_iff, ← replaceAll_cons hkey hc]
    rintro (h | h)
    · exact hc (prefix_of_prefix_replaceAll hkey hvalue hd h)
    · exact ih h

/-- Whether no two occurrences of two texts can meet: neither lies in the other, and nothing that
one of them ends with begins the other. -/
structure Apart (key other : List Char) : Prop where
  outside : ¬key <:+: other
  outside' : ¬other <:+: key
  ends : ∀ e, e <:+ key → e ≠ [] → ¬e <+: other
  ends' : ∀ e, e <:+ other → e ≠ [] → ¬e <+: key

theorem apart_iff :
    Apart key other ↔
      ¬key <:+: other ∧ ¬other <:+: key ∧ (∀ e ∈ key.tails, e ≠ [] → ¬e <+: other) ∧
        ∀ e ∈ other.tails, e ≠ [] → ¬e <+: key := by
  simp only [List.mem_tails]
  constructor
  · rintro ⟨hin, hin', hends, hends'⟩
    exact ⟨hin, hin', hends, hends'⟩
  · rintro ⟨hin, hin', hends, hends'⟩
    exact ⟨hin, hin', hends, hends'⟩

instance : Decidable (Apart key other) := decidable_of_iff _ apart_iff.symm

theorem Apart.symm (h : Apart key other) : Apart other key :=
  ⟨h.outside', h.outside, h.ends', h.ends⟩

/-- Where one of two texts stands the other does not begin. -/
theorem Apart.not_prefix (h : Apart key other) {e : List Char} (he : e <:+ other) (hne : e ≠ []) :
    ¬key <+: e ++ rest := by
  intro hp
  obtain hp | hp := List.prefix_or_prefix_of_prefix hp (List.prefix_append e rest)
  · exact h.outside (hp.isInfix.trans he.isInfix)
  · exact h.ends' e he hne hp

theorem replaceAll_append_of_apart (hkey : key ≠ []) (h : Apart key other)
    (value rest : List Char) :
    replaceAll key value (other ++ rest) = other ++ replaceAll key value rest :=
  replaceAll_append_of_passed hkey (fun _ => h.not_prefix) value

theorem replaceAll_append_of_disjoint (hkey : key ≠ []) (hd : key.Disjoint value')
    (value rest : List Char) :
    replaceAll key value (value' ++ rest) = value' ++ replaceAll key value rest := by
  apply replaceAll_append_of_passed hkey
  intro e he hne hp
  obtain ⟨d, tail, rfl⟩ := List.exists_cons_of_ne_nil hne
  rw [List.cons_append, List.prefix_cons_iff] at hp
  obtain rfl | ⟨tail', rfl, -⟩ := hp
  · exact hkey rfl
  · exact hd List.mem_cons_self (he.subset List.mem_cons_self)

/-- Two replacements can change places if the keys cannot meet and neither has a character of what
the other's place is taken by. -/
theorem replaceAll_comm (hkey : key ≠ []) (hother : other ≠ []) (hvalue : value ≠ [])
    (hvalue' : value' ≠ []) (hd : key.Disjoint value') (hd' : other.Disjoint value)
    (h : Apart key other) (s : List Char) :
    replaceAll key value (replaceAll other value' s) =
      replaceAll other value' (replaceAll key value s) := by
  have hkeys : ∀ k ∈ [key, other], k ≠ [] := by
    simp only [List.forall_mem_cons, List.not_mem_nil, false_implies, implies_true, and_true]
    exact ⟨hkey, hother⟩
  induction s using keys_induction hkeys with
  | nil => rw [replaceAll_nil hkey, replaceAll_nil hother, replaceAll_nil hkey]
  | found k hk rest ih =>
    obtain rfl | hk := List.mem_cons.1 hk
    · rw [replaceAll_append_of_apart hother h.symm, replaceAll_append hkey,
        replaceAll_append hkey, replaceAll_append_of_disjoint hother hd', ih]
    · rw [List.mem_singleton.1 hk, replaceAll_append hother,
        replaceAll_append_of_disjoint hkey hd, replaceAll_append_of_apart hkey h,
        replaceAll_append hother, ih]
  | passed c rest hc ih =>
    have hc₁ : ¬key <+: c :: rest := hc key List.mem_cons_self
    have hc₂ : ¬other <+: c :: rest := hc other (List.mem_cons_of_mem _ List.mem_cons_self)
    -- No key begins here after the other's replacement, since none did before.
    have hc₁' : ¬key <+: c :: replaceAll other value' rest := by
      rw [← replaceAll_cons hother hc₂]
      exact fun hp => hc₁ (prefix_of_prefix_replaceAll hother hvalue' hd hp)
    have hc₂' : ¬other <+: c :: replaceAll key value rest := by
      rw [← replaceAll_cons hkey hc₁]
      exact fun hp => hc₂ (prefix_of_prefix_replaceAll hkey hvalue hd' hp)
    rw [replaceAll_cons hother hc₂, replaceAll_cons hkey hc₁', replaceAll_cons hkey hc₁,
      replaceAll_cons hother hc₂', ih]

end Sitewright.Text
