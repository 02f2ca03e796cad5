import Sitewright.Command.Option

namespace Sitewright.Command

inductive Action where
  | compile
  | serve
  | clearCache
  deriving Repr, DecidableEq

namespace Action

def all : List Action := [compile, serve, clearCache]

def name : Action → String
  | compile => "compile"
  | serve => "serve"
  | clearCache => "clear-cache"

def ofName? (name : String) : Option Action := all.find? (·.name == name)

end Action

/-- What a command line asks for. Without an action there is nothing to do but to show help. -/
structure Invocation where
  action : Option Action := none
  root : String := "."
  verbose : Bool := false
  force : Bool := false
  host : String := "127.0.0.1"
  tcp : Int
  leftover : Bool := false
  deriving Repr, DecidableEq

def helpNames : Names := [("-h", .help), ("--help", .help)]

def topNames : Names := helpNames ++ [("--root", .root), ("--verbose", .verbose), ("-v", .verbose)]

def Action.names : Action → Names
  | compile => helpNames ++ [("--force", .force)]
  | serve => helpNames ++ [("--host", .host), ("--port", .tcp), ("--force", .force)]
  | clearCache => helpNames

namespace Invocation

/-- Sets one option; asking for help ends everything. -/
def set (inv : Invocation) (switch : Switch) (value : String) : Except Stop Invocation :=
  match switch with
  | .help => .error .help
  | .verbose => .ok { inv with verbose := true }
  | .root => .ok { inv with root := value }
  | .force => .ok { inv with force := true }
  | .host => .ok { inv with host := value }
  | .tcp =>
    match Text.integer value with
    | .ok n => .ok { inv with tcp := n }
    | .error _ => .error .usage

/-- Sets options in their order. The last may take the word that comes next, which is used up
then. -/
def setAll (inv : Invocation) (next : List Token) :
    List Effect → Except Stop (Invocation × List Token)
  | [] => .ok (inv, next)
  | .unknown :: rest => setAll { inv with leftover := true } next rest
  | .set switch (some value) :: rest => do (← inv.set switch value).setAll next rest
  | .set switch none :: rest =>
    if switch.takesValue then
      match next with
      | .word text :: others => do (← inv.set switch text).setAll others rest
      | _ => .error .usage
    else do (← inv.set switch "").setAll next rest

/-- Reads options up to the first word, which begins a command. -/
def readTop : Nat → Invocation → List Token → Except Stop (Invocation × List String)
  | 0, inv, _ | _, inv, [] => .ok (inv, [])
  | steps + 1, inv, first :: rest =>
    match first with
    | .word text => .ok (inv, text :: rest.map Token.text)
    | .dashes => .error .usage
    | .unknown _ => readTop steps { inv with leftover := true } rest
    | .option _ given => do
      let (inv, rest) ← inv.setAll rest (← given.effects topNames)
      readTop steps inv rest

/-- Reads the options of a command, which takes no words. -/
def readAction (names : Names) : Nat → Invocation → List Token → Except Stop Invocation
  | 0, inv, _ | _, inv, [] => .ok inv
  | steps + 1, inv, first :: rest =>
    match first with
    | .word _ | .unknown _ => readAction names steps { inv with leftover := true } rest
    | .dashes => .error .usage
    | .option _ given => do
      let (inv, rest) ← inv.setAll rest (← given.effects names)
      readAction names steps inv rest

/-- Reads a command line. What it does not know makes it an error, unless help is asked for. -/
def read (tcp : Int) (args : List String) : Except Stop Invocation := do
  let found ← tokens topNames args
  let (inv, command) ← readTop found.length { tcp } found
  let inv ←
    match command with
    | [] => pure inv
    | name :: args =>
      match Action.ofName? name with
      | none => throw .usage
      | some action =>
        let found ← tokens action.names args
        readAction action.names found.length { inv with action := some action } found
  if inv.leftover then throw .usage else return inv

end Invocation

end Sitewright.Command
