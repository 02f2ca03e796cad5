import Sitewright.Files.Basic
import Sitewright.Json.Reader

namespace Sitewright

/-- Why a file gives no JSON value. -/
inductive DocumentError where
  | text (e : TextError)
  | json (e : Json.ReadError)
  deriving Repr, DecidableEq

def DocumentError.message : DocumentError → String
  | text e => e.message
  | json e => e.message

def Files.readJson (files : Files) (room : Nat) (path : Path) : Except DocumentError Json :=
  match files.readText path with
  | .error e => .error (.text e)
  | .ok text => (Json.read room text).mapError .json

end Sitewright
