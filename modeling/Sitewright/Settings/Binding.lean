import Sitewright.Text.Blank

namespace Sitewright

/-- A line of a file of variables. One without a value names its variable only. -/
structure Binding where
  name : String
  value : Option String
  deriving Repr, DecidableEq

namespace Binding

open Text

def isLineBlank (c : Char) : Bool := isBlank c && c != '\n'

def skipLine (s : List Char) : List Char := (s.dropWhile (· != '\n')).drop 1

/-- Cuts at the first quote that has no backslash before it. -/
def cutAtBare (quote : Char) (escaped : Bool) : List Char → Option (List Char × List Char)
  | [] => none
  | c :: rest =>
    if c = quote ∧ escaped = false then some ([], rest)
    else (cutAtBare quote (c == '\\') rest).map fun cut => (c :: cut.1, cut.2)

def cutAtLast (quote : Char) (s : List Char) : Option (List Char × List Char) :=
  match s.reverse.dropWhile (· != quote) with
  | [] => none
  | _ :: before => some (before.reverse, (s.reverse.takeWhile (· != quote)).reverse)

/-- A quoted value ends at its first bare quote; where there is none, at the last one. -/
def cutQuoted (quote : Char) (s : List Char) : Option (List Char × List Char) :=
  (cutAtBare quote false s).orElse fun _ => cutAtLast quote s

def unescape (meaning : Char → Option Char) : List Char → List Char
  | [] => []
  | '\\' :: c :: rest =>
    match meaning c with
    | some d => d :: unescape meaning rest
    | none => '\\' :: unescape meaning (c :: rest)
  | c :: rest => c :: unescape meaning rest

def singleEscape (c : Char) : Option Char := if c = '\\' ∨ c = '\'' then some c else none

def doubleEscape (c : Char) : Option Char :=
  [('\\', '\\'), ('\'', '\''), ('"', '"'), ('a', '\x07'), ('b', '\x08'), ('f', '\x0c'),
    ('n', '\n'), ('r', '\r'), ('t', '\t'), ('v', '\x0b')].lookup c

/-- A value without quotes ends where blanks and a hash sign begin a comment. -/
def dropComment : List Char → List Char
  | [] => []
  | c :: rest =>
    if isBlank c && (rest.dropWhile isBlank).head? == some '#' then [] else c :: dropComment rest

def readName (s : List Char) : Option (String × List Char) :=
  match s with
  | '\'' :: inside =>
    match inside.takeWhile (· != '\''), inside.dropWhile (· != '\'') with
    | c :: name, _ :: after => some (String.ofList (c :: name), after)
    | _, _ => none
  | _ =>
    let stops c := c == '=' || c == '#' || isBlank c
    match s.takeWhile (!stops ·) with
    | [] => none
    | name => some (String.ofList name, s.dropWhile (!stops ·))

def readValue (s : List Char) : Option (String × List Char) :=
  match s with
  | '\'' :: inside =>
    (cutQuoted '\'' inside).map fun cut => (String.ofList (unescape singleEscape cut.1), cut.2)
  | '"' :: inside =>
    (cutQuoted '"' inside).map fun cut => (String.ofList (unescape doubleEscape cut.1), cut.2)
  | _ =>
    some (String.ofList (trimEnd (dropComment (s.takeWhile (· != '\n')))),
      s.dropWhile (· != '\n'))

/-- Reads on to the next line, if there is nothing but a comment left on this one. -/
def endLine? (s : List Char) : Option (List Char) :=
  match s.dropWhile isLineBlank with
  | [] => some []
  | '\n' :: rest => some rest
  | '#' :: _ => some (skipLine s)
  | _ => none

def dropExport (s : List Char) : List Char :=
  let word := "export".toList
  let rest := s.drop word.length
  if word.isPrefixOf s && rest.head?.any isLineBlank then rest.dropWhile isLineBlank else s

/-- The binding that a text begins with, if there is one, and what comes after its line. -/
def read (s : List Char) : Option Binding × List Char :=
  let s := dropExport (s.dropWhile isBlank)
  if s.head? = some '#' then (none, skipLine s)
  else
    match readName s with
    | none => (none, skipLine s)
    | some (name, s) =>
      match s.dropWhile isLineBlank with
      | '=' :: s =>
        let s := s.dropWhile isLineBlank
        match readValue s with
        | none => (none, skipLine s)
        | some (value, s) =>
          match endLine? s with
          | some rest => (some ⟨name, some value⟩, rest)
          | none => (none, skipLine s)
      | s =>
        match endLine? s with
        | some rest => (some ⟨name, none⟩, rest)
        | none => (none, skipLine s)

def readMany : Nat → List Char → List Binding
  | 0, _ | _, [] => []
  | lines + 1, s => (read s).1.toList ++ readMany lines (read s).2

/-- The bindings of a text; a line that makes no sense is passed over. -/
def readAll (text : String) : List Binding := readMany text.length text.toList

end Binding

end Sitewright
