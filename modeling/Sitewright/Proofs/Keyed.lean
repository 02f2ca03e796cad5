import Sitewright.Keyed

namespace Sitewright.Keyed

variable {κ α : Type} [DecidableEq κ] {m : Keyed κ α} {key : κ} {value : α}

theorem put_of_not_mem (h : key ∉ m.keys) (value : α) : m.put key value = m ++ [(key, value)] := by
  induction m with
  | nil => rfl
  | cons entry rest ih =>
    simp only [keys, List.map_cons, List.mem_cons, not_or] at h
    rw [put, alter, if_neg (Ne.symm h.1), List.cons_append]
    exact congrArg _ (ih h.2)

theorem get?_eq_none_iff : m.get? key = none ↔ key ∉ m.keys := by
  rw [← isSome_get?_iff, Option.not_isSome_iff_eq_none]

theorem get?_eq_some_iff (h : m.keys.Nodup) : m.get? key = some value ↔ (key, value) ∈ m := by
  induction m with
  | nil => exact iff_of_false nofun List.not_mem_nil
  | cons entry rest ih =>
    obtain ⟨hn, hr⟩ := List.nodup_cons.1 h
    rw [get?, List.mem_cons]
    by_cases he : entry.1 = key
    · subst he
      have hrest : (entry.1, value) ∉ rest := fun hm => hn (List.mem_map_of_mem (f := (·.1)) hm)
      rw [if_pos rfl, or_iff_left hrest, Option.some.injEq, eq_comm, Prod.ext_iff]
      exact (and_iff_right rfl).symm
    · have hne : (key, value) ≠ entry := by
        rintro rfl
        exact he rfl
      rw [if_neg he, or_iff_right hne]
      exact ih hr

@[simp] theorem alter_alter (m : Keyed κ α) (key : κ) (f g : Option α → α) :
    (m.alter key f).alter key g = m.alter key fun value => g (some (f value)) := by
  induction m with
  | nil => simp only [alter, if_true]
  | cons entry rest ih =>
    by_cases h : entry.1 = key
    · rw [alter, if_pos h, alter, if_pos rfl, alter, if_pos h]
    · rw [alter, if_neg h, alter, if_neg h, alter, if_neg h, ih]

theorem alter_congr (m : Keyed κ α) (key : κ) {f g : Option α → α}
    (h : f (m.get? key) = g (m.get? key)) : m.alter key f = m.alter key g := by
  induction m with
  | nil => rw [alter, alter, show f none = g none from h]
  | cons entry rest ih =>
    rw [get?] at h
    by_cases he : entry.1 = key
    · rw [if_pos he] at h
      rw [alter, if_pos he, alter, if_pos he, h]
    · rw [if_neg he] at h
      rw [alter, if_neg he, alter, if_neg he, ih h]

@[simp] theorem put_put (m : Keyed κ α) (key : κ) (value later : α) :
    (m.put key value).put key later = m.put key later :=
  alter_alter m key _ _

@[simp] theorem get?_filter (m : Keyed κ α) (p : κ → Bool) (key : κ) :
    get? (m.filter fun entry => p entry.1) key = if p key then m.get? key else none := by
  induction m with
  | nil => exact (ite_self _).symm
  | cons entry rest ih =>
    rw [get?, List.filter_cons]
    by_cases hkey : entry.1 = key
    · subst hkey
      rw [if_pos rfl]
      by_cases hp : p entry.1 = true
      · rw [if_pos hp, if_pos hp, get?, if_pos rfl]
      · rw [if_neg hp, if_neg hp, ih, if_neg hp]
    · rw [if_neg hkey]
      split
      · rw [get?, if_neg hkey, ih]
      · exact ih

@[simp] theorem get?_erase (m : Keyed κ α) (key other : κ) :
    (m.erase key).get? other = if other = key then none else m.get? other := by
  rw [erase, get?_filter m (fun k => decide (k ≠ key)) other]
  by_cases h : other = key
  · rw [if_pos h, if_neg (by simpa using h)]
  · rw [if_neg h, if_pos (by simpa using h)]

end Sitewright.Keyed
