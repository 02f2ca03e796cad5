import Mathlib.Data.List.Infix
import Sitewright.Asset.Inventory
import Sitewright.Proofs.Keyed

namespace Sitewright

variable {files after : Files} {path other folder name : Path}
  {modified : Int}

theorem Path.prefix_of_mem_above (h : other ∈ path.above ++ [path]) : other <+: path := by
  obtain h | h := List.mem_append.1 h
  · obtain ⟨n, _, rfl⟩ := List.mem_map.1 h
    exact List.take_prefix n path
  · rw [List.mem_singleton.1 h]

namespace Files

/-- Whether a file may be written at a path: there is no folder, and no file on the way. -/
structure Writable (files : Files) (path : Path) : Prop where
  named : path ≠ []
  free : files.isFolder path = false
  way : ∀ p ∈ path.above, files.isFile p = false

theorem isFile_iff :
    files.isFile path = true ↔ ∃ bytes modified, files.get? path = some (.file bytes modified) := by
  unfold isFile
  split
  · next h => exact iff_of_true rfl ⟨_, _, h⟩
  · next h => exact iff_of_false nofun fun ⟨bytes, modified, he⟩ => h bytes modified he

theorem isFolder_iff : files.isFolder path = true ↔ files.get? path = some .folder := beq_iff_eq

theorem get?_eq_none_iff :
    files.get? path = none ↔ files.isFolder path = false ∧ files.isFile path = false := by
  rw [isFolder, isFile]
  cases files.get? path with
  | none => exact iff_of_true rfl ⟨rfl, rfl⟩
  | some entry =>
    cases entry with
    | file => exact iff_of_false nofun fun h => nomatch h.2
    | folder => exact iff_of_false nofun fun h => nomatch h.1

theorem find_eq_ok_iff {entry : Entry} :
    files.find path = .ok entry ↔ files.get? path = some entry := by
  unfold find
  cases files.get? path with
  | some e => rw [Except.ok.injEq, Option.some.injEq]
  | none =>
    dsimp only
    split <;> exact iff_of_false nofun nofun

theorem modified_eq_ok_iff :
    files.modified path = .ok modified ↔
      ∃ entry, files.get? path = some entry ∧ entry.modified = modified := by
  unfold Files.modified
  constructor
  · intro h
    cases hf : files.find path with
    | error e =>
      rw [hf] at h
      cases h
    | ok entry =>
      rw [hf] at h
      exact ⟨entry, find_eq_ok_iff.1 hf, Except.ok.inj h⟩
  · rintro ⟨entry, he, rfl⟩
    rw [find_eq_ok_iff.2 he]
    rfl

/-- The text of a file depends on its entry alone. -/
theorem readText_congr {entry : Entry} (h : files.get? path = some entry)
    (ha : after.get? path = some entry) : after.readText path = files.readText path := by
  rw [readText, readText, read, read, find_eq_ok_iff.2 h, find_eq_ok_iff.2 ha]

theorem find_eq_missing_iff {p : Path} :
    files.find path = .error (.missing p) ↔
      p = path ∧ files.get? path = none ∧ ∀ q ∈ path.above, files.isFile q = false := by
  rw [find]
  cases files.get? path with
  | some entry => exact iff_of_false nofun fun h => nomatch h.2.1
  | none =>
    have hany : ¬path.above.any files.isFile = true ↔ ∀ q ∈ path.above, files.isFile q = false := by
      simp only [Bool.not_eq_true, List.any_eq_false, Bool.not_eq_true]
    dsimp only
    split
    · next hfile => exact iff_of_false nofun fun h => hany.2 h.2.2 hfile
    · next hopen =>
      rw [Except.error.injEq, FileError.missing.injEq]
      exact ⟨fun h => ⟨h.symm, rfl, hany.1 hopen⟩, fun h => h.1.symm⟩

theorem find_of_open (hn : files.get? path = none)
    (ho : ∀ p ∈ path.above, files.isFile p = false) :
    files.find path = .error (.missing path) :=
  find_eq_missing_iff.2 ⟨rfl, hn, ho⟩

/-- Folders in the places that have nothing yet. -/
def withFolders (paths : List Path) (files : Files) : Files :=
  paths.foldl (fun files p => if (files.get? p).isSome then files else files.put p .folder) files

theorem withFolders_cons (p : Path) (paths : List Path) (files : Files) :
    withFolders (p :: paths) files =
      withFolders paths (if (files.get? p).isSome then files else files.put p .folder) := rfl

/-- What was there is left, and the empty places have folders. -/
@[simp] theorem get?_withFolders (paths : List Path) (files : Files) (other : Path) :
    (withFolders paths files).get? other =
      if files.get? other = none ∧ other ∈ paths then some .folder else files.get? other := by
  induction paths generalizing files with
  | nil => rw [if_neg fun h => List.not_mem_nil h.2]; rfl
  | cons p paths ih =>
    rw [withFolders_cons, ih]
    by_cases hp : (files.get? p).isSome
    · have hne (h : files.get? other = none) : other ≠ p := by
        rintro rfl
        rw [h] at hp
        cases hp
      rw [if_pos hp]
      refine if_congr (and_congr_right fun h => ?_) rfl rfl
      rw [List.mem_cons, or_iff_right (hne h)]
    · rw [if_neg hp, get?_put]
      by_cases he : other = p
      · subst he
        have hnone : files.get? other = none := by simpa using hp
        rw [if_pos rfl, if_neg nofun, if_pos ⟨hnone, List.mem_cons_self⟩]
      · rw [if_neg he]
        refine if_congr (and_congr_right fun _ => ?_) rfl rfl
        rw [List.mem_cons, or_iff_right he]

theorem makeFolders_of_open (hg : files.get? path = none)
    (ho : ∀ p ∈ path.above, files.isFile p = false) :
    files.makeFolders path = .ok (withFolders (path.above ++ [path]) files) := by
  rw [makeFolders, find_of_open hg ho]
  rfl

/-- A folder is there already, or nothing is in the way of making it. -/
theorem makeFolders_eq_ok_iff :
    files.makeFolders path = .ok after ↔
      files.isFolder path = true ∧ after = files ∨
        files.get? path = none ∧ (∀ p ∈ path.above, files.isFile p = false) ∧
          after = withFolders (path.above ++ [path]) files := by
  constructor
  · intro h
    unfold makeFolders at h
    split at h
    · next hfind => exact .inl ⟨isFolder_iff.2 (find_eq_ok_iff.1 hfind), (Except.ok.inj h).symm⟩
    · cases h
    · next hfind =>
      obtain ⟨-, hg, ho⟩ := find_eq_missing_iff.1 hfind
      exact .inr ⟨hg, ho, (Except.ok.inj h).symm⟩
    · cases h
  · rintro (⟨hfolder, rfl⟩ | ⟨hg, ho, rfl⟩)
    · rw [makeFolders, find_eq_ok_iff.2 (isFolder_iff.1 hfolder)]
    · exact makeFolders_of_open hg ho

/-- Making a folder leaves what was there, and fills empty places on the way with folders. -/
theorem get?_makeFolders (h : files.makeFolders path = .ok after) (other : Path) :
    after.get? other = files.get? other ∨
      files.get? other = none ∧ after.get? other = some .folder ∧ other <+: path := by
  obtain ⟨-, rfl⟩ | ⟨-, -, rfl⟩ := makeFolders_eq_ok_iff.1 h
  · exact .inl rfl
  · rw [get?_withFolders]
    split
    · next hfilled => exact .inr ⟨hfilled.1, rfl, Path.prefix_of_mem_above hfilled.2⟩
    · exact .inl rfl

theorem isFolder_makeFolders (h : files.makeFolders path = .ok after) :
    after.isFolder path = true := by
  obtain ⟨hfolder, rfl⟩ | ⟨hg, -, rfl⟩ := makeFolders_eq_ok_iff.1 h
  · exact hfolder
  · simp [isFolder_iff, hg]

theorem isFile_makeFolders (h : files.makeFolders path = .ok after) (other : Path) :
    after.isFile other = files.isFile other := by
  obtain he | ⟨hn, he, _⟩ := get?_makeFolders h other
  · rw [isFile, he]
    rfl
  · rw [isFile, isFile, hn, he]

/-- A folder is made without what is in it. -/
theorem get?_makeFolders_dropLast (h : files.makeFolders path.dropLast = .ok after)
    (hne : path ≠ []) : after.get? path = files.get? path := by
  obtain he | ⟨_, _, hp⟩ := get?_makeFolders h path
  · exact he
  · have hlen := hp.length_le
    have hpos := List.length_pos_iff.2 hne
    rw [List.length_dropLast] at hlen
    omega

theorem Writable.makeFolders (h : files.Writable path)
    (hm : files.makeFolders path.dropLast = .ok after) : after.Writable path where
  named := h.named
  free := by
    rw [isFolder, get?_makeFolders_dropLast hm h.named]
    exact h.free
  way p hp := (isFile_makeFolders hm p).trans (h.way p hp)

theorem exists_write (h : files.Writable path) (hf : files.isFolder path.dropLast = true)
    (bytes : List UInt8) (modified : Int) :
    ∃ after, files.write path bytes modified = .ok after := by
  rw [write]
  by_cases hfile : files.isFile path = true
  · obtain ⟨old, time, hg⟩ := isFile_iff.1 hfile
    rw [find_eq_ok_iff.2 hg]
    exact ⟨_, rfl⟩
  · rw [find_of_open (get?_eq_none_iff.2 ⟨h.free, Bool.eq_false_iff.2 hfile⟩) h.way]
    dsimp only
    rw [if_pos hf]
    exact ⟨_, rfl⟩

@[simp] theorem put_put (files : Files) (path : Path) (entry later : Entry) :
    (files.put path entry).put path later = files.put path later := by
  simp only [put, Keyed.put_put]

theorem eq_put_of_write {bytes : List UInt8} {modified : Int}
    (h : files.write path bytes modified = .ok after) :
    after = files.put path (.file bytes modified) := by
  unfold write at h
  split at h
  · cases h
  · exact (Except.ok.inj h).symm
  · split at h
    · exact (Except.ok.inj h).symm
    · cases h
  · cases h

end Files

namespace Files

def nameBelow? (folder : Path) (e : Path × Entry) : Option Path :=
  match e.2 with
  | .file .. => if folder.isPrefixOf e.1 then some (e.1.drop folder.length) else none
  | .folder => none

theorem below_eq (files : Files) (folder : Path) :
    files.below folder = files.entries.filterMap (nameBelow? folder) := rfl

theorem nameBelow?_eq_some_iff {e : Path × Entry} :
    nameBelow? folder e = some name ↔
      e.1 = folder ++ name ∧ ∃ bytes modified, e.2 = .file bytes modified := by
  obtain ⟨p, entry⟩ := e
  cases entry with
  | folder => exact iff_of_false nofun fun ⟨_, _, _, he⟩ => nomatch he
  | file bytes modified =>
    rw [nameBelow?]
    dsimp only
    constructor
    · intro h
      split at h
      · next hp =>
        obtain ⟨rest, rfl⟩ := List.isPrefixOf_iff_prefix.1 hp
        rw [List.drop_left] at h
        exact ⟨by rw [Option.some.inj h], bytes, modified, rfl⟩
      · cases h
    · rintro ⟨rfl, _⟩
      rw [if_pos (List.isPrefixOf_iff_prefix.2 (List.prefix_append folder name)), List.drop_left]

theorem mem_below : name ∈ files.below folder ↔ files.isFile (folder ++ name) = true := by
  rw [below_eq, List.mem_filterMap, isFile_iff]
  constructor
  · rintro ⟨⟨p, entry⟩, hm, he⟩
    obtain ⟨rfl, bytes, modified, rfl⟩ := nameBelow?_eq_some_iff.1 he
    exact ⟨bytes, modified, (Keyed.get?_eq_some_iff files.distinct).2 hm⟩
  · rintro ⟨bytes, modified, he⟩
    exact ⟨_, (Keyed.get?_eq_some_iff files.distinct).1 he,
      nameBelow?_eq_some_iff.2 ⟨rfl, bytes, modified, rfl⟩⟩

theorem nodup_below (files : Files) (folder : Path) : (files.below folder).Nodup := by
  have hd := List.pairwise_map.1 files.distinct
  rw [below_eq]
  refine List.pairwise_filterMap.2 (hd.imp ?_)
  intro e e' hne name h name' h'
  rintro rfl
  exact hne ((nameBelow?_eq_some_iff.1 h).1.trans (nameBelow?_eq_some_iff.1 h').1.symm)

/-- The files that a folder lists at any depth; one that is not there lists none. -/
def listed (files : Files) (folder : Path) : List Path :=
  if files.isFolder folder then files.below folder else []

theorem mem_listed :
    name ∈ files.listed folder ↔
      files.isFolder folder = true ∧ files.isFile (folder ++ name) = true := by
  unfold listed
  split
  · next h => rw [mem_below, and_iff_right h]
  · next h => exact iff_of_false List.not_mem_nil fun hm => h hm.1

theorem nodup_listed (files : Files) (folder : Path) : (files.listed folder).Nodup := by
  unfold listed
  split
  · exact nodup_below files folder
  · exact List.nodup_nil

end Files

end Sitewright
