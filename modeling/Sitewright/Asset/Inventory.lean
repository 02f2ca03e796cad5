import Sitewright.Files.Basic
import Sitewright.Json.Printer

namespace Sitewright

/-- The files that a site can show, by their names below the asset folder. -/
structure Inventory where
  files : List String
  deriving Repr, DecidableEq, Inhabited

namespace Inventory

def sorted (names : List String) : List String := names.mergeSort fun a b => decide (a ≤ b)

/-- Lists a folder at any depth; one that is missing has no files. -/
def scan (files : Files) (folder : Path) : Inventory :=
  if files.isFolder folder then ⟨sorted ((files.below folder).map Path.text)⟩ else ⟨[]⟩

/-- One text for each set of names, whatever their order. -/
def signature (inventory : Inventory) : String :=
  (Json.arr ((sorted inventory.files).map .str)).text

end Inventory

end Sitewright
