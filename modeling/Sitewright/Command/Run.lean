import Sitewright.Command.Invocation
import Sitewright.Service.Basic
import Sitewright.Settings.Load

namespace Sitewright.Command

/-- What a command finds around it. Only a line for which the output has bytes can be printed. -/
structure Surroundings where
  files : Files
  environment : Environment
  platform : Platform := {}
  endpoint : Endpoint
  output : Text.Codec := .utf8
  now : Moment
  locate : String → Path

/-- A host and the TCP number on which a site is to be served. -/
structure Address where
  host : String
  tcp : Int
  deriving Repr, DecidableEq

/-- How a command ends: with a code of its own, or before it has begun. -/
inductive Ending where
  | code (n : Nat)
  | exit (n : Nat)
  deriving Repr, DecidableEq

/-- Why a command breaks off. -/
inductive Failure where
  | tcp (e : Text.IntegerError)
  | settings (e : Settings.LoadError)
  | build (e : BuildError)
  | file (e : FileError)
  | line (e : Text.Unencodable)
  deriving Repr

/-- What a command does: the lines that it prints, what it serves, and what becomes of its
surroundings. -/
structure Run where
  ending : Except Failure Ending
  lines : List String := []
  serve : Option (Address × Service) := none
  files : Files
  environment : Environment
  sent : List ChatRequest := []
  events : List Event := []

def help : List String :=
  ["usage: plainweb [-h] [--root ROOT] [--verbose] [compile | serve | clear-cache] ...",
    "",
    "plainweb - Plain-language website compiler",
    "",
    "  --root ROOT      project directory (contains app.txt)",
    "  --verbose, -v    debug logging",
    "",
    "  compile [--force]                            build the site and list its routes",
    "  serve [--host HOST] [--port PORT] [--force]  build and serve the site",
    "  clear-cache                                  remove the cached compiled plan"]

/-- The line for a failed build, if it is one that a command reports. -/
def errorLine? : BuildError → Option String
  | .client (.model e) => some s!"Error: model request failed: {e.message}"
  | .missingCredential => some s!"Error: {BuildError.missingCredential.message}"
  | .source e => some s!"Error: cannot read source: {e.message}"
  | _ => none

def skippedLine (s : Skipped) : String :=
  s!"  - #{s.index} {Event.shownName s.name}: {s.reason}"

def resultLines (result : BuildResult) : List String :=
  [s!"Build status: {result.status.label}",
    s!"Tool calls: {result.plan.calls.length}",
    "Routes:"] ++
    result.routes.paths.map ("  " ++ ·) ++
    (if result.skipped.isEmpty then []
     else ["", "Skipped tool calls:"] ++ result.skipped.map skippedLine)

namespace Run

/-- A run that has only got so far. -/
def begun (around : Surroundings) (ending : Except Failure Ending) : Run :=
  { ending, files := around.files, environment := around.environment }

/-- The end of a run that has built. -/
def ofOutcome (around : Surroundings) (outcome : Outcome) (good : BuildResult → List String) :
    Run :=
  let run : Run :=
    { ending := .ok (.code 0)
      files := outcome.files
      environment := around.environment
      sent := outcome.sent
      events := outcome.events }
  match outcome.result with
  | .ok result => { run with lines := good result }
  | .error e =>
    match errorLine? e with
    | some line => { run with ending := .ok (.code 1), lines := [line] }
    | none => { run with ending := .error (.build e) }

def compile (around : Surroundings) (compiler : Compiler) (force : Bool) : Run :=
  ofOutcome around (compiler.build force around.now around.files) resultLines

def serveSite (around : Surroundings) (compiler : Compiler) (force : Bool) (address : Address) :
    Run :=
  let service : Service := { compiler }
  let (outcome, service) := service.rebuild force around.now around.files
  let run :=
    ofOutcome around outcome fun _ => [s!"Listening on http://{address.host}:{address.tcp}"]
  if run.ending.toOption = some (.code 0) then { run with serve := some (address, service) }
  else run

def clearCache (around : Surroundings) (compiler : Compiler) : Run :=
  let path := compiler.settings.cache
  match Plan.clear path around.files with
  | .error e => begun around (.error (.file e))
  | .ok (removed, files) =>
    { begun around (.ok (.code 0)) with
      files
      lines := [if removed then s!"Removed {path.text}" else "No cached plan"] }

/-- Prints the lines of a run. The first one that cannot be printed ends the run. -/
def print (output : Text.Codec) (run : Run) : Run :=
  match run.lines.findSome? fun line => output.unencodable? line.toList with
  | none => run
  | some e =>
    { run with
      ending := .error (.line e)
      lines := run.lines.takeWhile fun line => (output.unencodable? line.toList).isNone
      serve := none }

/-- Carries out an action on a project, with the settings of that project. -/
def act (around : Surroundings) (inv : Invocation) (action : Action) : Run :=
  match
    Settings.load around.platform (around.locate inv.root) around.environment around.files
  with
  | .error e => begun around (.error (.settings e))
  | .ok loaded =>
    let around := { around with environment := loaded.environment }
    let compiler : Compiler :=
      { settings := loaded.settings
        platform := around.platform
        client := .remote around.endpoint }
    let run := print around.output <|
      match action with
      | .compile => compile around compiler inv.force
      | .serve => serveSite around compiler inv.force ⟨inv.host, inv.tcp⟩
      | .clearCache => clearCache around compiler
    { run with events := loaded.events ++ run.events }

end Run

def defaultNumber : String := "3000"

/-- Carries out a command line. The number to listen on is read first, whatever is asked for. -/
def run (around : Surroundings) (args : List String) : Run :=
  match Text.integer ((around.environment.get? "PORT").getD defaultNumber) with
  | .error e => .begun around (.error (.tcp e))
  | .ok number =>
    match Invocation.read number args with
    | .error .help => { Run.begun around (.ok (.exit 0)) with lines := help }
    | .error .usage => .begun around (.ok (.exit 2))
    | .ok inv =>
      match inv.action with
      | none => { Run.begun around (.ok (.code 1)) with lines := help }
      | some action => .act around inv action

end Sitewright.Command
