import Sitewright.Event
import Sitewright.Files.Document
import Sitewright.Json.Emitter
import Sitewright.Plan.Basic
import Sitewright.Platform

namespace Sitewright.Plan

/-- Why a plan file cannot be used. -/
inductive Unusable where
  | document (e : DocumentError)
  | shape (e : Malformed)
  deriving Repr

def Unusable.message : Unusable → String
  | document e => e.message
  | shape e => e.message

def readFile (room : Nat) (path : Path) (files : Files) : Except Unusable Plan :=
  match files.readJson room path with
  | .error e => .error (.document e)
  | .ok v => (ofJson v).mapError .shape

/-- The plan that was kept. A missing file is no plan, and so is one that cannot be used; only one
that goes too deep is passed on as an error. -/
def load (room : Nat) (path : Path) (files : Files) :
    Except Json.TooDeep (Option Plan × List Event) :=
  if (files.get? path).isSome then
    match readFile room path files with
    | .ok plan => .ok (some plan, [])
    | .error (.document (.json (.halt (.deep e)))) => .error e
    | .error e => .ok (none, [.planIgnored path.text e.message])
  else .ok (none, [])

/-- What keeps a plan from its file. -/
inductive SaveFault where
  | file (e : FileError)
  | long (e : Text.LongInteger)
  deriving Repr, DecidableEq

def SaveFault.message : SaveFault → String
  | file e => e.message
  | long e => e.message

/-- A plan that could not be kept. -/
structure SaveError where
  path : Path
  cause : SaveFault
  deriving Repr, DecidableEq

def SaveError.message (e : SaveError) : String :=
  s!"Failed to write plan cache {e.path.text}: {e.cause.message}"

/-- How keeping a plan fails. A plan that goes too deep is not among the errors of keeping plans. -/
inductive SaveFailure where
  | reported (e : SaveError)
  | deep (e : Json.TooDeep)
  deriving Repr, DecidableEq

/-- What has become of the files when a plan was to be kept. -/
structure Saved where
  files : Files
  failure? : Option SaveFailure := none
  deriving Repr

def bytes (plan : Plan) : List UInt8 := Text.Utf8.encode plan.toJson.indentedText.toList

/-- What is written of a plan, up to what cannot be written. -/
def emitted (plan : Plan) (room : Nat) : Json.Emitted := Json.emit Json.indented room 0 plan.toJson

/-- The failure of a plan of which a part has been written: an error of the disk, which is only met
when the file is closed, hides any other. -/
def failure? (path : Path) : Option FileError → Option Json.Halt → Option SaveFailure
  | some e, _ => some (.reported ⟨path, .file e⟩)
  | none, some (.long e) => some (.reported ⟨path, .long e⟩)
  | none, some (.deep e) => some (.deep e)
  | none, none => none

/-- Keeps a plan, in a folder that is made if it is missing. The file is emptied when it is opened,
and whatever goes wrong after that leaves it with what has been written by then. -/
def save (plan : Plan) (platform : Platform) (path : Path) (files : Files) : Saved :=
  match files.makeFolders path.dropLast with
  | .error e => ⟨files, some (.reported ⟨path, .file e⟩)⟩
  | .ok made =>
    match made.write path [] 0 with
    | .error e => ⟨made, some (.reported ⟨path, .file e⟩)⟩
    | .ok opened =>
      let emitted := plan.emitted platform.nesting
      let (bytes, full?) := platform.disk.taken path (Text.Utf8.encode emitted.text)
      ⟨opened.put path (.file bytes 0), failure? path full? emitted.halt?⟩

/-- Throws the kept plan away; says whether there was one. -/
def clear (path : Path) (files : Files) : Except FileError (Bool × Files) :=
  if (files.get? path).isSome then (files.unlink path).map fun files => (true, files)
  else .ok (false, files)

end Sitewright.Plan
