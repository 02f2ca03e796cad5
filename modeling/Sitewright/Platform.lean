import Sitewright.Files.Disk
import Sitewright.Settings.Environment

namespace Sitewright

/-- What a program runs on: the room for arrays and objects inside one another where JSON is read or
written, the disk, and what becomes of the variables when those of a file are added. -/
structure Platform where
  nesting : Nat := 1000
  disk : Disk := {}
  addVariables : Environment → String → Except String Environment := Environment.dotenv

end Sitewright
