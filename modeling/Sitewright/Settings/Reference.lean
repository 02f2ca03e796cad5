namespace Sitewright

/-- A variable that a value refers to: `width` characters that name it and say what it means where
it is not set. -/
structure Reference where
  name : String
  default : String
  width : Nat
  deriving Repr, DecidableEq

namespace Reference

/-- Reads `$` and a name in braces, which `:-` and a default may follow. -/
def read? : List Char → Option Reference
  | '$' :: '{' :: inside =>
    let name := inside.takeWhile fun c => c != '}' && c != ':'
    match inside.drop name.length with
    | '}' :: _ => some ⟨String.ofList name, "", name.length + 3⟩
    | ':' :: '-' :: rest =>
      let default := rest.takeWhile (· != '}')
      if default.length < rest.length then
        some ⟨String.ofList name, String.ofList default, name.length + default.length + 5⟩
      else none
    | _ => none
  | _ => none

/-- Puts values for references; the first `covered` characters belong to one that is done. -/
def expandFrom (value : Reference → String) (covered : Nat) : List Char → List Char
  | [] => []
  | c :: rest =>
    match covered with
    | k + 1 => expandFrom value k rest
    | 0 =>
      match read? (c :: rest) with
      | some ref => (value ref).toList ++ expandFrom value (ref.width - 1) rest
      | none => c :: expandFrom value 0 rest

def expand (value : Reference → String) (s : String) : String :=
  String.ofList (expandFrom value 0 s.toList)

end Reference

end Sitewright
