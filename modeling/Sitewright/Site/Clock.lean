import Sitewright.Text.Digit

namespace Sitewright

/-- A moment by the calendar and the clock on the wall. -/
structure Moment where
  year : Nat
  month : Nat
  day : Nat
  hour : Nat
  minute : Nat
  second : Nat
  microsecond : Nat := 0
  deriving Repr, DecidableEq, Inhabited

namespace Moment

def timeOfDay (t : Moment) : List Char :=
  Text.decimalPadded 2 t.hour ++ ':' :: Text.decimalPadded 2 t.minute ++
    ':' :: Text.decimalPadded 2 t.second

/-- The time as pages show it: to the second, the year without leading zeros. -/
def shown (t : Moment) : List Char :=
  Text.decimal t.year ++ '-' :: Text.decimalPadded 2 t.month ++
    '-' :: Text.decimalPadded 2 t.day ++ ' ' :: t.timeOfDay

/-- The time as plans are stamped: with a fraction if there is one, and the offset of UTC. -/
def stamp (t : Moment) : String :=
  String.ofList <|
    Text.decimalPadded 4 t.year ++ '-' :: Text.decimalPadded 2 t.month ++
      '-' :: Text.decimalPadded 2 t.day ++ 'T' :: t.timeOfDay ++
      (if t.microsecond = 0 then [] else '.' :: Text.decimalPadded 6 t.microsecond) ++
      "+00:00".toList

/-- The date of a day, by the number of days since the first of March of the year 0. -/
def ofDay (day : Nat) : Moment :=
  let era := day / 146097
  let inEra := day % 146097
  let yearOfEra := (inEra - inEra / 1460 + inEra / 36524 - inEra / 146096) / 365
  let inYear := inEra - (365 * yearOfEra + yearOfEra / 4 - yearOfEra / 100)
  let fromMarch := (5 * inYear + 2) / 153
  let month := if fromMarch < 10 then fromMarch + 3 else fromMarch - 9
  { year := era * 400 + yearOfEra + if month ≤ 2 then 1 else 0
    month
    day := inYear - (153 * fromMarch + 2) / 5 + 1
    hour := 0
    minute := 0
    second := 0 }

/-- The moment that is so many seconds after 1970 began, by universal time. -/
def ofSeconds (seconds : Nat) : Moment :=
  let rest := seconds % 86400
  { ofDay (seconds / 86400 + 719468) with
    hour := rest / 3600, minute := rest / 60 % 60, second := rest % 60 }

/-- Reads digits of a fixed width. -/
def field? (width : Nat) (s : List Char) : Option (Nat × List Char) :=
  let digits := s.take width
  if digits.length = width ∧ digits.all Char.isDigit then
    some (Nat.ofDigitChars 10 digits 0, s.drop width)
  else none

def mark? (c : Char) : List Char → Option (List Char)
  | d :: rest => if d = c then some rest else none
  | [] => none

/-- Reads `YYYY-MM-DDTHH:MM:SS` with an optional fraction. -/
def ofText? (text : String) : Option Moment := do
  let (year, rest) ← field? 4 text.toList
  let (month, rest) ← field? 2 (← mark? '-' rest)
  let (day, rest) ← field? 2 (← mark? '-' rest)
  let (hour, rest) ← field? 2 (← mark? 'T' rest)
  let (minute, rest) ← field? 2 (← mark? ':' rest)
  let (second, rest) ← field? 2 (← mark? ':' rest)
  let fraction :=
    match rest with
    | '.' :: digits => (digits ++ List.replicate 6 '0').take 6
    | _ => ['0']
  return ⟨year, month, day, hour, minute, second, Nat.ofDigitChars 10 fraction 0⟩

end Moment

end Sitewright
