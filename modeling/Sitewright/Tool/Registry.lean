import Sitewright.Tool.Basic
import Sitewright.Tool.Call

namespace Sitewright

/-- The tools under the names by which calls mean them. -/
abbrev Registry := Named Tool

/-- Why a call is not carried out. -/
inductive Refusal where
  | noName
  | unknownTool (name : String)
  | invalid (e : InvalidArguments)
  deriving Repr

def Refusal.message : Refusal → String
  | .noName => "tool call has no name"
  | .unknownTool name => s!"unknown tool '{name}'"
  | .invalid e => e.message

/-- What a call comes to. -/
inductive Verdict where
  | accepted (edit : Edit)
  | refused (reason : Refusal)
  deriving Repr

namespace Registry

def standard : Registry := Tool.all.map fun tool => (tool.name, tool)

def definitions (registry : Registry) : List Definition :=
  registry.map fun entry => entry.2.definition

end Registry

/-- What carries out calls: the tools that it knows, and how many arrays and objects there may be
inside one another in arguments that it reads. -/
structure Interpreter where
  registry : Registry := .standard
  nesting : Nat := 1000
  deriving Repr

def Interpreter.standard : Interpreter := {}

/-- Finds the change that a call asks for; the site has no say in it. A value that halts whoever
reads or shows it stops everything. -/
def Interpreter.judge (interpreter : Interpreter) (call : ToolCall) :
    Except Json.Halt Verdict :=
  if call.label = "" then .ok (.refused .noName)
  else
    match interpreter.registry.get? call.label with
    | none => .ok (.refused (.unknownTool call.label))
    | some tool =>
      match arguments interpreter.nesting call.arguments with
      | .error (.halt h) => .error h
      | .error (.fault fault) => .ok (.refused (.invalid ⟨call.label, fault⟩))
      | .ok args =>
        match tool.edit args with
        | .ok edit => .ok (.accepted edit)
        | .error (.fault fault) => .ok (.refused (.invalid ⟨tool.name, fault⟩))
        | .error (.halt h) => .error h

end Sitewright
