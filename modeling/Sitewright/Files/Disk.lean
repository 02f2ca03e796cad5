import Sitewright.Files.Basic

namespace Sitewright

/-- What a disk does with the bytes that a file is to get: it takes them all, or so many of them,
and then says why it takes no more. -/
structure Disk where
  limit? : Path → List UInt8 → Option (Nat × String) := fun _ _ => none

/-- The bytes that get into a file, and the error if that is not all. -/
def Disk.taken (disk : Disk) (path : Path) (bytes : List UInt8) : List UInt8 × Option FileError :=
  match disk.limit? path bytes with
  | none => (bytes, none)
  | some (count, said) => (bytes.take count, some (.device said))

end Sitewright
