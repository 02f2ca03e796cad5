import Sitewright.Keyed
import Sitewright.Settings.Binding
import Sitewright.Settings.Reference

namespace Sitewright

/-- The variables that are set, with their values. -/
abbrev Environment := Named String

namespace Environment

/-- What a reference stands for: a variable that is set, or else one from higher up in the file. -/
def value (env : Environment) (above : Named (Option String)) (ref : Reference) : String :=
  match env.get? ref.name, above.get? ref.name with
  | some v, _ => v
  | none, some v => v.getD ""
  | none, none => ref.default

def resolve (env : Environment) (bindings : List Binding) : Named (Option String) :=
  bindings.foldl
    (fun above b => above.put b.name (b.value.map (Reference.expand (env.value above)))) []

/-- Sets a variable. There are names and values that no variable can have. -/
def set (env : Environment) (name value : String) : Except String Environment :=
  if name.toList.contains '\x00' ∨ value.toList.contains '\x00' then .error "embedded null byte"
  else if name.toList.contains '=' then .error "illegal environment variable name"
  else .ok (env.put name value)

/-- Sets the variables of a file, those apart that are set already. -/
def dotenv (env : Environment) (text : String) : Except String Environment :=
  (env.resolve (Binding.readAll text)).foldlM
    (fun new entry =>
      match entry.2 with
      | some value => if (env.get? entry.1).isSome then .ok new else new.set entry.1 value
      | none => .ok new)
    env

end Environment

end Sitewright
