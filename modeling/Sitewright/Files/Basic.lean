import Sitewright.Keyed
import Sitewright.Text.Lines
import Sitewright.Text.Quoted
import Sitewright.Text.Utf8

namespace Sitewright

/-- A place in a tree of files, as the names that lead to it. -/
abbrev Path := List String

def Path.text (path : Path) : String := String.intercalate "/" path

inductive Entry where
  | file (bytes : List UInt8) (modified : Int)
  | folder
  deriving Repr, DecidableEq, Inhabited

/-- The time at which an entry was changed last; that of a folder is never asked for. -/
def Entry.modified : Entry → Int
  | file _ modified => modified
  | folder => 0

/-- Files and folders, each path with one of them at most. -/
structure Files where
  entries : Keyed Path Entry
  distinct : entries.keys.Nodup := by decide
  deriving Repr, DecidableEq

/-- Why a path cannot be used as asked. -/
inductive FileError where
  | missing (path : Path)
  | taken (path : Path)
  | notFolder (path : Path)
  | isFolder (path : Path)
  | device (said : String)
  deriving Repr, DecidableEq

def FileError.message : FileError → String
  | missing path => s!"[Errno 2] No such file or directory: {Text.quoted path.text}"
  | taken path => s!"[Errno 17] File exists: {Text.quoted path.text}"
  | notFolder path => s!"[Errno 20] Not a directory: {Text.quoted path.text}"
  | isFolder path => s!"[Errno 21] Is a directory: {Text.quoted path.text}"
  | device said => said

/-- Why a file gives no text. -/
inductive TextError where
  | file (e : FileError)
  | encoding (e : Text.Utf8.Error)
  deriving Repr, DecidableEq

def TextError.message : TextError → String
  | file e => e.message
  | encoding e => e.message

/-- The folders that a path leads through. -/
def Path.above (path : Path) : List Path := (List.range path.length).map path.take

/-- Where names lead from a folder: `.` stays, `..` goes up. -/
def Path.follow (folder : Path) (names : List String) : Path :=
  names.foldl
    (fun path name =>
      if name = "" ∨ name = "." then path
      else if name = ".." then path.dropLast
      else path ++ [name])
    folder

namespace Files

def get? (files : Files) (path : Path) : Option Entry := files.entries.get? path

def isFolder (files : Files) (path : Path) : Bool := files.get? path == some .folder

def isFile (files : Files) (path : Path) : Bool :=
  match files.get? path with
  | some (.file ..) => true
  | _ => false

def put (path : Path) (entry : Entry) (files : Files) : Files :=
  ⟨files.entries.put path entry, Keyed.nodup_keys_alter files.distinct _ _⟩

/-- Takes away a path and all that is below it. -/
def remove (path : Path) (files : Files) : Files :=
  ⟨files.entries.filter fun e => !path.isPrefixOf e.1, Keyed.nodup_keys_filter files.distinct _⟩

@[simp] theorem get?_put (files : Files) (path other : Path) (entry : Entry) :
    (files.put path entry).get? other = if other = path then some entry else files.get? other :=
  Keyed.get?_put _ _ _ _

/-- The entry at a path; a path that leads through a file is told apart from one that ends
nowhere. -/
def find (files : Files) (path : Path) : Except FileError Entry :=
  match files.get? path with
  | some entry => .ok entry
  | none =>
    if path.above.any files.isFile then .error (.notFolder path) else .error (.missing path)

def modified (files : Files) (path : Path) : Except FileError Int :=
  (files.find path).map Entry.modified

def read (files : Files) (path : Path) : Except FileError (List UInt8) :=
  match files.find path with
  | .ok (.file bytes _) => .ok bytes
  | .ok .folder => .error (.isFolder path)
  | .error e => .error e

/-- The text of bytes, with its line ends made plain. -/
def textOfBytes (bytes : List UInt8) : Except Text.Utf8.Error String :=
  (Text.Utf8.decode bytes).map fun s => String.ofList (Text.universalLines s)

def readText (files : Files) (path : Path) : Except TextError String :=
  match files.read path with
  | .error e => .error (.file e)
  | .ok bytes => (textOfBytes bytes).mapError .encoding

/-- Makes a folder and the ones above it where they are missing. -/
def makeFolders (path : Path) (files : Files) : Except FileError Files :=
  match files.find path with
  | .ok .folder => .ok files
  | .ok (.file ..) => .error (.taken path)
  | .error (.missing _) =>
    .ok <| (path.above ++ [path]).foldl
      (fun files p => if (files.get? p).isSome then files else files.put p .folder) files
  | .error e => .error e

/-- Gives a file these bytes; the folder that it is in has to be there. -/
def write (path : Path) (bytes : List UInt8) (modified : Int) (files : Files) :
    Except FileError Files :=
  match files.find path with
  | .ok .folder => .error (.isFolder path)
  | .ok (.file ..) => .ok (files.put path (.file bytes modified))
  | .error (.missing _) =>
    if files.isFolder path.dropLast then .ok (files.put path (.file bytes modified))
    else .error (.missing path)
  | .error e => .error e

/-- Takes away one file. -/
def unlink (path : Path) (files : Files) : Except FileError Files :=
  match files.find path with
  | .ok .folder => .error (.isFolder path)
  | .ok (.file ..) => .ok (files.remove path)
  | .error e => .error e

/-- The files below a folder, by the names that lead to them from there. -/
def below (folder : Path) (files : Files) : List Path :=
  files.entries.filterMap fun e =>
    match e.2 with
    | .file .. => if folder.isPrefixOf e.1 then some (e.1.drop folder.length) else none
    | .folder => none

end Files

end Sitewright
