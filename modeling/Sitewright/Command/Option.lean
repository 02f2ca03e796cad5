import Sitewright.Text.Integer

namespace Sitewright.Command

/-- What an option of the command line is for. -/
inductive Switch where
  | help
  | verbose
  | root
  | force
  | host
  | tcp
  deriving Repr, DecidableEq

def Switch.takesValue : Switch → Bool
  | .root | .host | .tcp => true
  | .help | .verbose | .force => false

/-- The options of one level of the command line, under their names. -/
abbrev Names := List (String × Switch)

/-- An option as it is given, with the text that is attached to it: a value after an equals sign,
or more short options. -/
structure Given where
  switch : Switch
  attached : List Char := []
  deriving Repr

/-- An argument of a command line: a word, an option, something like an option, or the two dashes
after which there are only words. -/
inductive Token where
  | word (text : String)
  | option (text : String) (given : Given)
  | unknown (text : String)
  | dashes
  deriving Repr

def Token.text : Token → String
  | .word text | .option text _ | .unknown text => text
  | .dashes => "--"

/-- Why no command is carried out. -/
inductive Stop where
  | help
  | usage
  deriving Repr, DecidableEq

/-- Whether a text is a number below zero, which is a word. -/
def isNegative (s : List Char) : Bool :=
  let isDigit c := (Text.digitValue? c).isSome
  match s with
  | '-' :: number =>
    let whole := number.takeWhile isDigit
    match number.dropWhile isDigit with
    | [] | ['\n'] => !whole.isEmpty
    | '.' :: part =>
      let part := if part.getLast? = some '\n' then part.dropLast else part
      !part.isEmpty && part.all isDigit
    | _ => false
  | _ => false

/-- The options that an argument can mean: a long one may be cut short, and a short one may have
text attached. -/
def candidates (names : Names) (s : List Char) : List Given :=
  match s with
  | '-' :: '-' :: _ =>
    let start := s.takeWhile (· != '=')
    (names.filter fun n => start.isPrefixOf n.1.toList).map fun n => ⟨n.2, s.drop start.length⟩
  | '-' :: c :: more =>
    (names.filter fun n => n.1.toList = ['-', c]).map fun n => ⟨n.2, more⟩
  | _ => []

/-- Tells what an argument is; one that can mean several options is an error. -/
def token (names : Names) (text : String) : Except Stop Token :=
  let s := text.toList
  let start := s.takeWhile (· != '=')
  match s with
  | '-' :: _ :: _ =>
    match names.lookup (String.ofList start) with
    | some switch => .ok (.option text ⟨switch, s.drop start.length⟩)
    | none =>
      match candidates names s with
      | [] => .ok (if isNegative s || s.contains ' ' then .word text else .unknown text)
      | [given] => .ok (.option text given)
      | _ => .error .usage
  | _ => .ok (.word text)

def tokens (names : Names) : List String → Except Stop (List Token)
  | [] => .ok []
  | text :: rest =>
    if text = "--" then .ok (.dashes :: rest.map .word)
    else do
      let first ← token names text
      return first :: (← tokens names rest)

/-- What an option does: it sets something, to a value that may be attached, or nobody knows it. -/
inductive Effect where
  | set (switch : Switch) (value : Option String)
  | unknown
  deriving Repr, DecidableEq

/-- The effects of an option and of the short ones behind the same dash. -/
def effects (names : Names) (switch : Switch) : List Char → Except Stop (List Effect)
  | [] => .ok [.set switch none]
  | c :: more =>
    if switch.takesValue then
      .ok [.set switch (some (String.ofList (if c = '=' then more else c :: more)))]
    else if c = '=' ∨ c = '-' then .error .usage
    else
      match names.lookup (String.ofList ['-', c]) with
      | none => .ok [.set switch none, .unknown]
      | some next => (effects names next more).map (.set switch none :: ·)

def Given.effects (names : Names) (given : Given) : Except Stop (List Effect) :=
  Command.effects names given.switch given.attached

end Sitewright.Command
