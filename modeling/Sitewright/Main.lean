import Sitewright.Command.Run
import Sitewright.Service.Server

namespace Sitewright.Shell

/-- The variables that a project may look at. -/
def variableNames : List String :=
  ["PORT", "GEMINI_API_KEY", "GEMINI_MODEL", "GEMINI_OPENAI_BASE", "HOME", "USER"]

/-- What a project keeps in its folder. -/
def parts : List String := ["app.txt", "config.json", ".env", ".cache", "assets"]

def maxDepth : Nat := 64

def environment : IO Environment := do
  let mut env : Environment := []
  for name in variableNames do
    if let some value ← IO.getEnv name then env := env.put name value
  return env

def nanoseconds (t : IO.FS.SystemTime) : Int := t.sec * 1000000000 + t.nsec.toNat

/-- The time at which a file is made that is thrown away again. -/
def clock : IO Moment := do
  let (_, file) ← IO.FS.createTempFile
  let time := (← file.metadata).modified
  IO.FS.removeFile file
  return .ofSeconds time.sec.toNat

def readTree : Nat → Path → Files → IO Files
  | 0, _, files => return files
  | depth + 1, path, files => do
    match ← (IO.FS.realPath path.text).toBaseIO with
    | .error _ => return files
    | .ok place =>
      if ← place.isDir then
        let mut files := files.put path .folder
        for entry in ← place.readDir do
          files ← readTree depth (path ++ [entry.fileName]) files
        return files
      else
        let modified := nanoseconds (← place.metadata).modified
        return files.put path (.file (← IO.FS.readBinFile place).toList modified)

/-- The folder of a project, with its parts. -/
def readProject (root : Path) : IO Files := do
  let mut files : Files := { entries := [] }
  for folder in root.above ++ [root] do
    files := files.put folder .folder
  for part in parts do
    files ← readTree maxDepth (root ++ [part]) files
  return files

/-- Brings the disk up to date with what has become of the files. -/
def writeChanges (before after : Files) : IO Unit := do
  for (path, entry) in after.entries do
    if before.get? path != some entry then
      match entry with
      | .folder => IO.FS.createDirAll path.text
      | .file bytes _ => IO.FS.writeBinFile path.text (ByteArray.mk bytes.toArray)
  for (path, _) in before.entries do
    if (after.get? path).isNone then IO.FS.removeFile path.text

def bodyText : Body → String
  | .json v => v.text
  | .html page => page
  | .asset _ bytes => Reply.bodyText bytes
  | .invalidParameter => ""

def report (sent : List ChatRequest) (events : List Event) : IO Unit := do
  for request in sent do
    IO.eprintln request.payload.text
  for event in events do
    IO.eprintln event.line

/-- Answers the requests that come in, each a line with a method and an address. -/
def serve (service : Service) (files : Files) : IO Unit := do
  let input ← IO.getStdin
  let framework : Framework := {}
  let mut service := service
  let mut files := files
  repeat
    let line ← input.getLine
    if line.isEmpty then break
    if let [method, url] := line.trimAscii.toString.splitOn " " then
      let answer := service.respond framework method (framework.target url) (← clock) files
      writeChanges files answer.files
      report answer.sent answer.events
      match answer.response with
      | .ok r => IO.println s!"{r.status}\n{bodyText r.body}"
      | .error _ => IO.println "500"
      service := answer.service
      files := answer.files

/-- The answer of the model, from a file that somebody has put it into. -/
def reply : IO Reply := do
  match ← IO.getEnv "MODEL_REPLY" with
  | none => return .failed "no connection"
  | some path => return .response 200 (← IO.FS.readBinFile path).toList

def failureLine : Command.Failure → String
  | .tcp e => e.message
  | .settings e => e.message
  | .build e => e.message
  | .file e => e.message
  | .line e => e.message

end Sitewright.Shell

open Sitewright Sitewright.Shell in
def main (args : List String) : IO UInt32 := do
  let here := (← IO.currentDir).toString.splitOn "/"
  let locate (s : String) : Path :=
    Path.follow (if s.startsWith "/" then [""] else here) (s.splitOn "/")
  let root :=
    match Command.Invocation.read 0 args with
    | .ok inv => locate inv.root
    | .error _ => here
  let files ← readProject root
  let reply ← reply
  let around : Command.Surroundings :=
    { files
      environment := ← environment
      endpoint := { reply := fun _ => reply }
      now := ← clock
      locate }
  let run := Command.run around args
  writeChanges files run.files
  report run.sent run.events
  for line in run.lines do
    IO.println line
  if let some (_, service) := run.serve then serve service run.files
  match run.ending with
  | .ok (.code n) | .ok (.exit n) => return UInt32.ofNat n
  | .error e =>
    IO.eprintln (failureLine e)
    return 1
