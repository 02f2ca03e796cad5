import Sitewright.Build.Basic
import Sitewright.Model.Prompt
import Sitewright.Plan.Store

namespace Sitewright

/-- The moments at which a build turns to the files of its project, in their order. -/
inductive Look where
  | time
  | source
  | assets
  | plan
  | save
  deriving Repr, DecidableEq

/-- What happens to the files of a project just before a build turns to them. -/
abbrev Meanwhile := Look → Files → Files

def Meanwhile.nothing : Meanwhile := fun _ files => files

/-- What a build finds: the time and the text of the source, and the assets. The time is taken
first, so that a change during the build only makes the plan look older. -/
structure Snapshot where
  modified : Int
  source : String
  inventory : Inventory
  deriving Repr, DecidableEq

namespace Snapshot

def take (settings : Settings) (meanwhile : Meanwhile) (files : Files) :
    Except BuildError Snapshot × Files :=
  let files := meanwhile .time files
  match files.modified settings.source with
  | .error e => (.error (.source e), files)
  | .ok modified =>
    let files := meanwhile .source files
    match files.readText settings.source with
    | .error e => (.error (.ofText e), files)
    | .ok source =>
      let files := meanwhile .assets files
      (.ok { modified, source, inventory := .scan files settings.assets }, files)

def question (snapshot : Snapshot) (tools : List Definition) : Question where
  system := Prompt.system snapshot.inventory
  user := snapshot.source
  tools

/-- The plan to keep for the calls of an answer. -/
def plan (snapshot : Snapshot) (settings : Settings) (now : Moment) (calls : List ToolCall) :
    Plan where
  calls
  fingerprint := snapshot.modified
  signature := snapshot.inventory.signature
  createdAt := now.stamp
  model := settings.model
  apiBase := settings.apiBase

/-- The plan that was kept, if it still holds. -/
def kept? (snapshot : Snapshot) (room : Nat) (path : Path) (files : Files) :
    Except Json.TooDeep (Option Plan × List Event) := do
  match ← Plan.load room path files with
  | (none, events) => return (none, events)
  | (some plan, events) =>
    let signature := snapshot.inventory.signature
    if plan.reusable snapshot.modified signature then
      return (some plan, events ++ [.planReused plan.calls.length])
    else if plan.signature != signature then return (none, events ++ [.assetsChanged])
    else return (none, events ++ [.sourceChanged])

end Snapshot

end Sitewright
