import Mathlib.Data.Set.Basic
import Sitewright.Model.Prompt
import Sitewright.Proofs.Asset.Signature
import Sitewright.Proofs.Files.Contents

namespace Sitewright.Inventory

variable {names names' : List String} {files later : Files} {folder folder' : Path}

theorem sorted_eq_iff : sorted names = sorted names' ↔ names.Perm names' := by
  constructor
  · intro h
    have hperm := perm_sorted names
    rw [h] at hperm
    exact hperm.symm.trans (perm_sorted names')
  · exact sorted_eq_of_perm

theorem signature_eq_iff {i j : Inventory} : i.signature = j.signature ↔ i.files.Perm j.files := by
  constructor
  · intro h
    exact sorted_eq_iff.1 (sorted_eq_of_signature h)
  · intro h
    rw [signature, signature, sorted_eq_of_perm h]

theorem mem_files_scan {text : String} :
    text ∈ (scan files folder).files ↔ ∃ name ∈ files.contents folder, name.text = text := by
  rw [scan_eq, (perm_sorted _).mem_iff, List.mem_map]
  simp only [Files.mem_contents]

theorem scan_eq_of_contents (h : files.contents folder = later.contents folder') :
    scan files folder = scan later folder' := by
  apply scan_eq_of_mem
  intro name
  rw [← Files.mem_contents, ← Files.mem_contents, h]

/-- A file that is listed under the same name elsewhere is the same file there: two legible paths
of one text are one path. -/
theorem contents_subset_of_scan (hfiles : files.Named) (hlater : later.Named)
    (h : scan files folder = scan later folder') :
    files.contents folder ⊆ later.contents folder' := by
  intro name hname
  have hlisted : name.text ∈ (scan later folder').files := by
    rw [← h, mem_files_scan]
    exact ⟨name, hname, rfl⟩
  obtain ⟨other, hother, htext⟩ := mem_files_scan.1 hlisted
  have heq := (hlater.legible hother).eq_of_text (hfiles.legible hname) htext
  exact heq ▸ hother

theorem scan_eq_iff (hfiles : files.Named) (hlater : later.Named) :
    scan files folder = scan later folder' ↔ files.contents folder = later.contents folder' := by
  constructor
  · intro h
    apply Set.Subset.antisymm
    · exact contents_subset_of_scan hfiles hlater h
    · exact contents_subset_of_scan hlater hfiles h.symm
  · exact scan_eq_of_contents

/-- A signature stands for the files below a folder: it is the same just when they are, wherever
the folder is and whatever is in them, and the model is then told the same. For names of any kind
it is the same just when each of them comes up equally often. -/
theorem signature_identifies_files (hfiles : files.Named) (hlater : later.Named)
    (folder folder' : Path) :
    ((scan files folder).signature = (scan later folder').signature ↔
      files.contents folder = later.contents folder') ∧
    (files.contents folder = later.contents folder' →
      Prompt.system (scan files folder) = Prompt.system (scan later folder')) ∧
    ∀ names names' : List String,
      signature ⟨names⟩ = signature ⟨names'⟩ ↔ names.Perm names' := by
  refine ⟨?_, ?_, ?_⟩
  · rw [← scan_eq_iff hfiles hlater]
    constructor
    · exact scan_eq_of_signature
    · intro h
      rw [h]
  · intro h
    rw [scan_eq_of_contents h]
  · intro names names'
    exact signature_eq_iff

/-- A folder with names that look like the text of a list. -/
def gallery : Files :=
  ⟨[([], .folder), (["assets"], .folder), (["assets", "a\", \"b.png"], .file [1] 5),
    (["assets", "icons"], .folder), (["assets", "icons", "\\u00e9😀.svg"], .file [] 7)], by decide⟩

/-- The same files in another order and with something else in them, and an empty folder more. -/
def galleryLater : Files :=
  ⟨[([], .folder), (["assets"], .folder), (["assets", "icons"], .folder),
    (["assets", "icons", "\\u00e9😀.svg"], .file [60] 9), (["assets", "drafts"], .folder),
    (["assets", "a\", \"b.png"], .file [] 6)], by decide⟩

theorem signature_identifies_files_gallery :
    (scan gallery ["assets"]).signature = (scan galleryLater ["assets"]).signature ∧
      Prompt.system (scan gallery ["assets"]) = Prompt.system (scan galleryLater ["assets"]) ∧
      (scan gallery ["assets"]).signature ≠ (scan galleryLater ["assets", "icons"]).signature := by
  have hgallery : gallery.Named := by decide
  have hlater : galleryLater.Named := by decide
  have hsame : gallery.contents ["assets"] = galleryLater.contents ["assets"] := by
    have hperm : (gallery.listed ["assets"]).Perm (galleryLater.listed ["assets"]) := by decide
    ext name
    rw [Files.mem_contents, Files.mem_contents, hperm.mem_iff]
  obtain ⟨hsignature, hprompt, -⟩ :=
    signature_identifies_files hgallery hlater ["assets"] ["assets"]
  refine ⟨hsignature.2 hsame, hprompt hsame, ?_⟩
  intro heq
  have hicons :=
    (signature_identifies_files hgallery hlater ["assets"] ["assets", "icons"]).1.1 heq
  have hin : ["a\", \"b.png"] ∈ gallery.contents ["assets"] := ⟨by decide, by decide⟩
  rw [hicons] at hin
  exact absurd hin.2 (by decide)

end Sitewright.Inventory
