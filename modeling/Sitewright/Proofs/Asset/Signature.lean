import Mathlib.Data.List.Perm.Basic
import Sitewright.Proofs.Files.Frame
import Sitewright.Proofs.Json.Document

namespace Sitewright.Inventory

variable {names names' : List String} {files later : Files} {folder folder' : Path}

theorem pairwise_sorted (names : List String) : (sorted names).Pairwise (· ≤ ·) := by
  let le (a b : String) : Bool := decide (a ≤ b)
  have htrans (a b c : String) (hab : le a b = true) (hbc : le b c = true) : le a c = true :=
    decide_eq_true (String.le_trans (of_decide_eq_true hab) (of_decide_eq_true hbc))
  have htotal (a b : String) : (le a b || le b a) = true := by
    rw [Bool.or_eq_true, decide_eq_true_eq, decide_eq_true_eq]
    exact String.le_total a b
  exact (List.pairwise_mergeSort htrans htotal names).imp of_decide_eq_true

theorem perm_sorted (names : List String) : (sorted names).Perm names := List.mergeSort_perm names _

theorem sorted_eq_of_perm (h : names.Perm names') : sorted names = sorted names' :=
  List.Perm.eq_of_pairwise (fun _ _ _ _ => String.le_antisymm) (pairwise_sorted names)
    (pairwise_sorted names') ((perm_sorted names).trans (h.trans (perm_sorted names').symm))

theorem sorted_sorted (names : List String) : sorted (sorted names) = sorted names :=
  sorted_eq_of_perm (perm_sorted names)

theorem scan_eq (files : Files) (folder : Path) :
    scan files folder = ⟨sorted ((files.listed folder).map Path.text)⟩ := by
  unfold scan Files.listed
  split
  · rfl
  · rw [List.map_nil, sorted, List.mergeSort_nil]

/-- An inventory depends on the set of files only, not on the order in which they are listed. -/
theorem scan_eq_of_mem
    (h : ∀ name, name ∈ later.listed folder' ↔ name ∈ files.listed folder) :
    scan later folder' = scan files folder := by
  have hperm := (List.perm_ext_iff_of_nodup (later.nodup_listed folder')
    (files.nodup_listed folder)).2 h
  rw [scan_eq, scan_eq, sorted_eq_of_perm (hperm.map Path.text)]

theorem distinct_of_strings (names : List String) : (Json.arr (names.map .str)).Distinct := by
  rw [Json.Distinct]
  induction names with
  | nil => trivial
  | cons name names ih => exact ⟨trivial, ih⟩

theorem long?_of_strings (names : List String) : (Json.arr (names.map .str)).long? = none := by
  rw [Json.long?]
  induction names with
  | nil => rfl
  | cons name names ih => exact ih

/-- Two inventories of one signature hold the same names. -/
theorem sorted_eq_of_signature {i j : Inventory} (h : i.signature = j.signature) :
    sorted i.files = sorted j.files := by
  have hv := Json.text_inj (distinct_of_strings _) (distinct_of_strings _) (long?_of_strings _) h
  exact List.map_injective_iff.2 (fun _ _ => Json.str.inj) (Json.arr.inj hv)

theorem scan_eq_of_signature (h : (scan files folder).signature = (scan later folder').signature) :
    scan files folder = scan later folder' := by
  have hs := sorted_eq_of_signature h
  rw [scan_eq, scan_eq] at hs ⊢
  rw [sorted_sorted, sorted_sorted] at hs
  rw [hs]

end Sitewright.Inventory
