import Mathlib.Data.List.Nodup
import Sitewright.Proofs.Text.Blank
import Sitewright.Service.Server

namespace Sitewright

variable {path stem : String} {table : RouteTable} {route : Route}

/-- Whether a path longer than a slash is a text with slashes after it, which ends in none
itself. -/
structure Trims (path stem : String) : Prop where
  long : 1 < path.length
  slashes : ∃ n, path.toList = stem.toList ++ List.replicate (n + 1) '/'
  bare : stem.toList.getLast? ≠ some '/'

/-- Whether a table has a page at a path: the one with this path, else the one with the path
without the slashes at its end. -/
def RouteTable.LeadsTo (table : RouteTable) (path : String) (route : Route) : Prop :=
  route.path = path ∨ path ∉ table.paths ∧ Trims path route.path

theorem Trims.withoutSlashes_eq (h : Trims path stem) : Text.withoutSlashes path = stem := by
  obtain ⟨n, hn⟩ := h.slashes
  exact Text.Stem.withoutSlashes_eq ⟨⟨n + 1, hn⟩, h.bare⟩

theorem trims_withoutSlashes (hlong : 1 < path.length) (hlast : path.toList.getLast? = some '/') :
    Trims path (Text.withoutSlashes path) := by
  obtain ⟨⟨n, hn⟩, hbare⟩ := Text.stem_withoutSlashes path
  cases n with
  | zero =>
    rw [List.replicate_zero, List.append_nil] at hn
    exact absurd hlast (hn ▸ hbare)
  | succ n => exact ⟨hlong, ⟨n, hn⟩, hbare⟩

namespace RouteTable

theorem of_get? (h : table.get? path = some route) : route ∈ table.routes ∧ route.path = path := by
  have heq := List.find?_some h
  exact ⟨List.mem_of_find?_eq_some h, eq_of_beq heq⟩

theorem get?_eq_some_iff (hd : table.paths.Nodup) :
    table.get? path = some route ↔ route ∈ table.routes ∧ route.path = path := by
  constructor
  · exact of_get?
  · rintro ⟨hr, rfl⟩
    have hsome : (table.get? route.path).isSome = true :=
      List.find?_isSome.2 ⟨route, hr, beq_self_eq_true _⟩
    obtain ⟨other, hother⟩ := Option.isSome_iff_exists.1 hsome
    obtain ⟨hmem, hpath⟩ := of_get? hother
    rw [hother, List.inj_on_of_nodup_map hd hmem hr hpath]

theorem get?_eq_none_iff : table.get? path = none ↔ path ∉ table.paths := by
  rw [get?, List.find?_eq_none, paths, List.mem_map]
  simp only [beq_iff_eq, not_exists, not_and]

end RouteTable

theorem Service.findRoute_eq_some_iff (hd : table.paths.Nodup) :
    findRoute table path = some route ↔ route ∈ table.routes ∧ table.LeadsTo path route := by
  rw [findRoute]
  cases hget : table.get? path with
  | some found =>
    obtain ⟨hfound, hpath⟩ := (RouteTable.get?_eq_some_iff hd).1 hget
    have hlisted : path ∈ table.paths := hpath ▸ List.mem_map_of_mem hfound
    rw [Option.orElse_some, ← hget, RouteTable.get?_eq_some_iff hd, RouteTable.LeadsTo,
      or_iff_left fun h => h.1 hlisted]
  | none =>
    have hnot := RouteTable.get?_eq_none_iff.1 hget
    have hother : route ∈ table.routes → route.path ≠ path := by
      rintro hr rfl
      exact hnot (List.mem_map_of_mem hr)
    rw [Option.orElse_none]
    constructor
    · intro h
      split at h
      · next hends =>
        obtain ⟨hr, hpath⟩ := (RouteTable.get?_eq_some_iff hd).1 h
        exact ⟨hr, .inr ⟨hnot, hpath ▸ trims_withoutSlashes hends.1 hends.2⟩⟩
      · cases h
    · rintro ⟨hr, hpath | ⟨-, htrims⟩⟩
      · exact absurd hpath (hother hr)
      · obtain ⟨n, hn⟩ := htrims.slashes
        have hlast : path.toList.getLast? = some '/' := by
          rw [hn, List.replicate_succ', ← List.append_assoc, List.getLast?_concat]
        rw [if_pos ⟨htrims.long, hlast⟩, htrims.withoutSlashes_eq]
        exact (RouteTable.get?_eq_some_iff hd).2 ⟨hr, rfl⟩

end Sitewright
