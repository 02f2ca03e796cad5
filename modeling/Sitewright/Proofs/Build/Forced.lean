import Sitewright.Proofs.Build.Report
import Sitewright.Proofs.Plan.Saving

namespace Sitewright

namespace Files

/-- Whether files are the same but for a place and what is below it. -/
def AgreeOutside (folder : Path) (files other : Files) : Prop :=
  ∀ path, ¬folder <+: path → other.get? path = files.get? path

namespace AgreeOutside

variable {folder path : Path} {files other : Files}

theorem isFile (h : AgreeOutside folder files other) (hp : ¬folder <+: path) :
    other.isFile path = files.isFile path := by
  rw [Files.isFile, h path hp]
  rfl

theorem isFolder (h : AgreeOutside folder files other) (hp : ¬folder <+: path) :
    other.isFolder path = files.isFolder path := by
  rw [Files.isFolder, h path hp]
  rfl

theorem find (h : AgreeOutside folder files other) (hp : ¬folder <+: path) :
    other.find path = files.find path := by
  have hway : path.above.any other.isFile = path.above.any files.isFile := by
    rw [Bool.eq_iff_iff, List.any_eq_true, List.any_eq_true]
    refine exists_congr fun p => and_congr_right fun hmem => ?_
    have hprefix := Path.prefix_of_mem_above (List.mem_append_left [path] hmem)
    rw [h.isFile fun hfolder => hp (hfolder.trans hprefix)]
  rw [Files.find, Files.find, h path hp, hway]

theorem modified (h : AgreeOutside folder files other) (hp : ¬folder <+: path) :
    other.modified path = files.modified path := by
  rw [Files.modified, Files.modified, h.find hp]

theorem readText (h : AgreeOutside folder files other) (hp : ¬folder <+: path) :
    other.readText path = files.readText path := by
  rw [Files.readText, Files.readText, Files.read, Files.read, h.find hp]

theorem scan (h : AgreeOutside folder files other) (hp : ∀ name, ¬folder <+: path ++ name) :
    Inventory.scan other path = Inventory.scan files path := by
  apply Inventory.scan_eq_of_mem
  intro name
  have hself : ¬folder <+: path := List.append_nil path ▸ hp []
  rw [mem_listed, mem_listed, h.isFolder hself, h.isFile (hp name)]

end AgreeOutside

end Files

/-- Whether two builds come to the same: they ask and send the same, and fail alike or make the same
site of the same calls. The time of the other one only shows in its plan. -/
structure Outcome.Alike (later : Moment) (first other : Outcome) : Prop where
  question : other.question = first.question
  sent : other.sent = first.sent
  result : (∃ e, first.result = .error e ∧ other.result = .error e) ∨
    ∃ result, first.result = .ok result ∧ result.status = .compiled ∧
      other.result = .ok { result with plan := { result.plan with createdAt := later.stamp } }

namespace Compiler

variable {compiler : Compiler} {files other : Files} {plan : Plan} {snapshot : Snapshot}
  {calls : List ToolCall}

end Compiler

end Sitewright
