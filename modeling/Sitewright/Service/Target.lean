import Sitewright.Text.Digit
import Sitewright.Text.Utf8

namespace Sitewright

/-- What a request is for: a path, and the parameters after it. -/
structure Target where
  path : String
  parameters : List (String × String) := []
  deriving Repr, DecidableEq

namespace Target

/-- The byte that an escape stands for. -/
def escaped? : List Char → Option UInt8
  | '%' :: a :: b :: _ => do
    let high ← Text.hexValue? a
    let low ← Text.hexValue? b
    return UInt8.ofNat (high * 16 + low)
  | _ => none

/-- The bytes of a text with its escapes; the first `covered` characters belong to one. -/
def bytesFrom (covered : Nat) : List Char → List UInt8
  | [] => []
  | c :: rest =>
    match covered with
    | k + 1 => bytesFrom k rest
    | 0 =>
      match escaped? (c :: rest) with
      | some b => b :: bytesFrom 2 rest
      | none => String.utf8EncodeChar c ++ bytesFrom 0 rest

/-- Reads escapes; bytes that are no text become replacement characters. -/
def decode (s : List Char) : List Char := Text.Utf8.decodeLossy (bytesFrom 0 s)

/-- Takes a segment away for each `..`, and drops each `.`. -/
def withoutDots (segments : List (List Char)) : List (List Char) :=
  segments.foldl
    (fun done segment =>
      if segment = ['.'] then done
      else if segment = ['.', '.'] then (if done = [[]] then done else done.dropLast)
      else done ++ [segment])
    []

def splitOn (c : Char) (s : List Char) : List (List Char) := s.splitOnP (· == c)

def joinWith (c : Char) (parts : List (List Char)) : List Char := [c].intercalate parts

/-- A name and a value; blanks may be written as plus signs. -/
def parameter (s : List Char) : String × String :=
  let text (s : List Char) := String.ofList (decode (s.map fun c => if c = '+' then ' ' else c))
  (text (s.takeWhile (· != '=')), text ((s.dropWhile (· != '=')).drop 1))

/-- Reads an address on this site. What would name another site is passed over, and so is a
fragment. -/
def ofUrl (url : String) : Target :=
  let address := url.toList.takeWhile (· != '#')
  let (path, query) := (address.takeWhile (· != '?'), (address.dropWhile (· != '?')).drop 1)
  let path :=
    match path with
    | '/' :: '/' :: other => other.dropWhile (· != '/')
    | _ => path
  let segments := withoutDots ([] :: splitOn '/' (path.dropWhile (· == '/')))
  { path := String.ofList (decode (joinWith '/' (if segments = [[]] then [[], []] else segments)))
    parameters := ((splitOn '&' query).filter (!·.isEmpty)).map parameter }

def trueWords : List String := ["1", "on", "t", "true", "y", "yes"]

def falseWords : List String := ["0", "off", "f", "false", "n", "no"]

/-- A word for yes or no, in letters of either case. -/
def flag? (word : String) : Option Bool :=
  let word := String.ofList (word.toList.map Char.toLower)
  if trueWords.contains word then some true
  else if falseWords.contains word then some false
  else none

/-- The names that lead on from the start of a path, if the path begins so. -/
def below? (target : Target) (start : String) : Option (List String) :=
  if start.toList.isPrefixOf target.path.toList then
    some ((splitOn '/' (target.path.toList.drop start.length)).map String.ofList)
  else none

/-- The value of a parameter; of several the last counts. -/
def parameter? (target : Target) (name : String) : Option String :=
  (target.parameters.reverse.find? (·.1 == name)).map (·.2)

end Target

end Sitewright
