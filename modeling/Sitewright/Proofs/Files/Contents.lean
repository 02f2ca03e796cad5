import Mathlib.Data.Set.Defs
import Sitewright.Proofs.Files.Frame

namespace Sitewright

variable {path other name : Path} {files : Files} {folder : Path}

/-- Whether a path can be read off its text: there is a name on it, and no name has a slash. -/
structure Path.Legible (path : Path) : Prop where
  ne_nil : path ≠ []
  slashless : ∀ name ∈ path, '/' ∉ name.toList

theorem Path.Legible.splitOn_text (h : path.Legible) :
    path.text.toList.splitOn '/' = path.map String.toList := by
  have hparts : ∀ part ∈ path.map String.toList, '/' ∉ part := List.forall_mem_map.2 h.slashless
  have hne : path.map String.toList ≠ [] := fun hnil => h.ne_nil (List.map_eq_nil_iff.1 hnil)
  rw [Path.text, String.toList_intercalate]
  exact List.splitOn_intercalate '/' hparts hne

theorem Path.Legible.eq_of_text (h : path.Legible) (hother : other.Legible)
    (htext : path.text = other.text) : path = other := by
  apply List.map_injective_iff.2 fun _ _ => String.toList_inj.1
  rw [← h.splitOn_text, ← hother.splitOn_text, htext]

/-- Whether a name leads on from a folder to something in it. -/
def Path.Leads (name : String) : Prop := name ∉ ["", ".", ".."]

theorem Path.follow_eq_append (h : ∀ part ∈ name, Path.Leads part) :
    Path.follow folder name = folder ++ name := by
  induction name generalizing folder with
  | nil => exact (List.append_nil folder).symm
  | cons part name ih =>
    obtain ⟨hpart, hname⟩ := List.forall_mem_cons.1 h
    simp only [Leads, List.mem_cons, List.not_mem_nil, or_false, not_or] at hpart
    obtain ⟨hempty, hdot, hdots⟩ := hpart
    have hstep : Path.follow folder (part :: name) = Path.follow (folder ++ [part]) name := by
      rw [Path.follow, List.foldl_cons, if_neg (not_or.2 ⟨hempty, hdot⟩), if_neg hdots]
      rfl
    rw [hstep, ih hname, List.append_assoc, List.singleton_append]

namespace Files

/-- Whether the names of files and folders have no slash in them. -/
def Named (files : Files) : Prop :=
  ∀ path ∈ files.entries.keys, ∀ name ∈ path, '/' ∉ name.toList

instance : Decidable files.Named :=
  inferInstanceAs (Decidable (∀ path ∈ files.entries.keys, ∀ name ∈ path, '/' ∉ name.toList))

/-- Whether the names of files and folders are such as there can be. -/
structure Ordinary (files : Files) : Prop where
  named : files.Named
  leads : ∀ path ∈ files.entries.keys, ∀ name ∈ path, Path.Leads name

theorem ordinary_iff :
    files.Ordinary ↔
      files.Named ∧ ∀ path ∈ files.entries.keys, ∀ name ∈ path, name ∉ ["", ".", ".."] :=
  ⟨fun h => ⟨h.named, h.leads⟩, fun h => ⟨h.1, h.2⟩⟩

instance : Decidable files.Ordinary := decidable_of_iff _ ordinary_iff.symm

/-- The files below a folder at any depth, by the names that lead to them from there. A folder that
is not there has none. -/
def contents (files : Files) (folder : Path) : Set Path :=
  {name | files.isFolder folder = true ∧ files.isFile (folder ++ name) = true}

theorem mem_contents : name ∈ files.contents folder ↔ name ∈ files.listed folder :=
  mem_listed.symm

theorem exists_of_mem_contents (hname : name ∈ files.contents folder) :
    folder ++ name ∈ files.entries.keys ∧
      ∃ bytes modified, files.get? (folder ++ name) = some (.file bytes modified) := by
  obtain ⟨bytes, modified, hget⟩ := isFile_iff.1 hname.2
  refine ⟨?_, bytes, modified, hget⟩
  exact (Keyed.isSome_get?_iff files.entries _).1 (Option.isSome_of_eq_some hget)

theorem Named.legible (h : files.Named) (hname : name ∈ files.contents folder) : name.Legible := by
  obtain ⟨hkey, bytes, modified, hget⟩ := exists_of_mem_contents hname
  constructor
  · -- The folder is no file itself.
    rintro rfl
    rw [List.append_nil, isFolder_iff.1 hname.1] at hget
    cases hget
  · intro part hpart
    exact h _ hkey part (List.mem_append_right folder hpart)

theorem Ordinary.leads_of_mem (h : files.Ordinary) (hname : name ∈ files.contents folder) :
    ∀ part ∈ name, Path.Leads part := by
  intro part hpart
  have hkey := (exists_of_mem_contents hname).1
  exact h.leads _ hkey part (List.mem_append_right folder hpart)

end Files

end Sitewright
