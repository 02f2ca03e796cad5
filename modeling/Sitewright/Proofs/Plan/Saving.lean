import Sitewright.Proofs.Plan.Save

namespace Sitewright

variable {files made : Files} {path : Path} {e : FileError}

/-- Something that is done to files. What has been done by the time it fails is not undone. -/
abbrev FileWork (α : Type) := EStateM FileError Files α

@[simp] theorem Path.above_concat (path : Path) (name : String) :
    Path.above (path ++ [name]) = path.above ++ [path] := by
  rw [above, List.length_append, List.length_singleton, List.range_succ, List.map_append,
    List.map_singleton, List.take_left]
  refine congrArg (· ++ [path]) (List.map_congr_left fun n hn => ?_)
  exact List.take_append_of_le_length (Nat.le_of_lt (List.mem_range.1 hn))

namespace Files

/-- Whether all files are in a folder that is there, up to the one on top. -/
structure Nested (files : Files) : Prop where
  top : files.isFolder [] = true
  inside : ∀ path name, (files.get? (path ++ [name])).isSome = true → files.isFolder path = true

theorem isSome_of_isFolder (h : files.isFolder path = true) :
    (files.get? path).isSome = true := by
  rw [isFolder_iff.1 h]
  rfl

/-- Makes one folder, in one that is there; it may be there itself. -/
def makeFolder (path : Path) : FileWork Unit := do
  let files ← get
  match files.find path with
  | .ok .folder => return ()
  | .ok (.file ..) => throw (.taken path)
  | .error (.missing _) =>
    if files.isFolder path.dropLast then set (files.put path .folder) else throw (.missing path)
  | .error e => throw e

/-- Makes the folder to which names lead from the last to the first. If that one cannot be made
since it has no folder to be in, that folder comes first. -/
def makeFoldersFor : List String → FileWork Unit
  | [] => makeFolder []
  | name :: above =>
    tryCatch (makeFolder (name :: above).reverse) fun
      | .missing _ => do
        makeFoldersFor above
        makeFolder (name :: above).reverse
      | e => throw e

/-- Opens a file to write it: from then on it is empty. -/
def truncate (path : Path) : FileWork Unit := do
  match (← get).write path [] 0 with
  | .ok after => set after
  | .error e => throw e

/-- Where the folder of a file is missing, there is no folder in place of the file. -/
theorem Nested.writable (hn : files.Nested) (hnone : files.get? path.dropLast = none)
    (ho : ∀ p ∈ Path.above path.dropLast, files.isFile p = false) : files.Writable path := by
  obtain ⟨hfolder, hfile⟩ := get?_eq_none_iff.1 hnone
  induction path using List.reverseRecOn with
  | nil => exact absurd hn.top (Bool.eq_false_iff.1 hfolder)
  | append_singleton path name =>
    rw [List.dropLast_concat] at ho hfolder hfile
    refine ⟨by simp, Bool.eq_false_iff.2 fun hself => ?_, ?_⟩
    · have hparent := hn.inside path name (isSome_of_isFolder hself)
      exact Bool.eq_false_iff.1 hfolder hparent
    · rw [Path.above_concat]
      exact List.forall_mem_append.2 ⟨ho, List.forall_mem_singleton.2 hfile⟩

/-- If a file cannot be written in a folder that was made for it, the folder was there before. -/
theorem Nested.eq_of_write_error (hn : files.Nested)
    (hm : files.makeFolders path.dropLast = .ok made) (h : made.write path [] 0 = .error e) :
    made = files := by
  obtain ⟨-, rfl⟩ | ⟨hnone, ho, -⟩ := makeFolders_eq_ok_iff.1 hm
  · rfl
  · have hwritable := (hn.writable hnone ho).makeFolders hm
    obtain ⟨opened, hopened⟩ := exists_write hwritable (isFolder_makeFolders hm) [] 0
    cases h.symm.trans hopened

end Files

namespace Plan

variable {plan : Plan} {platform : Platform} {saved : Saved}

/-- Makes the folders for a file and opens it. -/
def opening (path : Path) : FileWork Unit := do
  Files.makeFoldersFor path.dropLast.reverse
  Files.truncate path

/-- A plan that is not kept leaves all files as they were, if it would fit. If it does not fit, its
file may hold a part of it. -/
theorem Saves.left (hn : files.Nested) (h : Saves plan platform path files saved)
    {e : SaveFailure} (he : saved.failure? = some e) :
    saved.files = files ∨ ¬plan.Fits platform path ∧
      saved.files.get? path = some (.file (plan.written platform path).1 0) := by
  cases h with
  | homeless => exact .inl rfl
  | closed hm hw => exact .inl (hn.eq_of_write_error hm hw)
  | opened =>
    refine .inr ⟨?_, by simp⟩
    intro hf
    rw [hf.written.1, hf.written.2] at he
    cases he

end Plan

end Sitewright
