import Mathlib.Data.List.TakeWhile
import Sitewright.Text.Blank

namespace Sitewright.Text

variable {s stem : String}

/-- Whether a text is another one with slashes after it, which ends in none itself. -/
structure Stem (s stem : String) : Prop where
  slashes : ∃ n, s.toList = stem.toList ++ List.replicate n '/'
  bare : stem.toList.getLast? ≠ some '/'

theorem stem_withoutSlashes (s : String) : Stem s (withoutSlashes s) := by
  constructor
  · have hparts := List.takeWhile_append_dropWhile (p := (· == '/')) (l := s.toList.reverse)
    have hall : ∀ c ∈ s.toList.reverse.takeWhile (· == '/'), c = '/' := by
      intro c hc
      have heq : (c == '/') = true := List.mem_takeWhile_imp (p := (· == '/')) hc
      exact beq_iff_eq.1 heq
    have hback := congrArg List.reverse hparts
    rw [List.reverse_reverse, List.reverse_append, List.eq_replicate_of_mem hall,
      List.reverse_replicate] at hback
    rw [withoutSlashes, dropEndWhile, String.toList_ofList]
    exact ⟨_, hback.symm⟩
  · rw [withoutSlashes, dropEndWhile, String.toList_ofList, List.getLast?_reverse]
    intro hhead
    have hnot := List.head?_dropWhile_not (· == '/') s.toList.reverse
    rw [hhead] at hnot
    cases hnot

theorem Stem.withoutSlashes_eq (h : Stem s stem) : withoutSlashes s = stem := by
  obtain ⟨n, hn⟩ := h.slashes
  have hslashes : ∀ c ∈ List.replicate n '/', (c == '/') = true :=
    fun c hc => beq_iff_eq.2 (List.eq_of_mem_replicate hc)
  have hkept : stem.toList.reverse.dropWhile (· == '/') = stem.toList.reverse := by
    cases hr : stem.toList.reverse with
    | nil => rfl
    | cons c rest =>
      refine List.dropWhile_cons_of_neg fun hc => h.bare ?_
      rw [← List.head?_reverse, hr, beq_iff_eq.1 hc]
      rfl
  rw [withoutSlashes, dropEndWhile, hn, List.reverse_append, List.reverse_replicate,
    List.dropWhile_append_of_pos hslashes, hkept, List.reverse_reverse, String.ofList_toList]

theorem stem_iff : Stem s stem ↔ withoutSlashes s = stem :=
  ⟨Stem.withoutSlashes_eq, fun h => h ▸ stem_withoutSlashes s⟩

theorem withoutSlashes_slash (s : String) : withoutSlashes (s ++ "/") = withoutSlashes s := by
  obtain ⟨⟨n, hn⟩, hbare⟩ := stem_withoutSlashes s
  refine Stem.withoutSlashes_eq ⟨⟨n + 1, ?_⟩, hbare⟩
  rw [String.toList_append, hn, List.append_assoc, List.replicate_succ']
  rfl

theorem withoutSlashes_eq_self (h : s.toList.getLast? ≠ some '/') : withoutSlashes s = s :=
  Stem.withoutSlashes_eq ⟨⟨0, (List.append_nil _).symm⟩, h⟩

theorem withoutSlashes_eq_empty (h : ∀ c ∈ s.toList, c = '/') : withoutSlashes s = "" :=
  Stem.withoutSlashes_eq ⟨⟨_, List.eq_replicate_of_mem h⟩, nofun⟩

end Sitewright.Text
