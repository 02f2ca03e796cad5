import Sitewright.Number.Decimal
import Sitewright.Number.Double

namespace Sitewright.Double

/-- Where the decimal point of a positive magnitude stands, counted from its first digit. -/
def pointPlace (rank : Nat) : Int :=
  (Text.decimal (units rank * Nat.pow 10 400 / Nat.pow 2 1074)).length - 400

/-- The magnitude over `10 ^ exponent`, as a quotient. -/
def scaled (rank : Nat) : Int → Nat × Nat
  | .ofNat e => (units rank, Nat.pow 2 1074 * Nat.pow 10 e)
  | .negSucc e => (units rank * Nat.pow 10 (e + 1), Nat.pow 2 1074)

/-- The two integers around a quotient, the nearer first; of two equally near ones, the even. -/
def neighbours (n d : Nat) : List Nat :=
  let below := n / d
  let rest := 2 * (n % d)
  if rest < d ∨ (rest = d ∧ below % 2 = 0) then [below, below + 1] else [below + 1, below]

def readsBack (rank : Nat) (d : Decimal) : Bool :=
  ofDecimal false d.coefficient d.exponent == ofRank false rank

/-- A coefficient of at most `count` digits, or the power of ten right after them. -/
def candidate (count : Nat) (exponent : Int) (coefficient : Nat) : Decimal :=
  if coefficient = Nat.pow 10 count then ⟨1, exponent + count⟩ else ⟨coefficient, exponent⟩

/-- The decimal of `count` digits that is nearest to the magnitude, if one reads back as it. -/
def nearest? (rank count : Nat) : Option Decimal :=
  let exponent := pointPlace rank - count
  let quotient := scaled rank exponent
  ((neighbours quotient.1 quotient.2).map (candidate count exponent)).find? (readsBack rank)

/-- All digits of a magnitude: it is a whole number of units, and a unit is `5 ^ 1074` over
`10 ^ 1074`. -/
def exactDecimal (rank : Nat) : Decimal := ⟨units rank * Nat.pow 5 1074, -1074⟩

/-- The decimal with the fewest digits that reads back as the magnitude. -/
def shortest (rank : Nat) : Decimal :=
  ((List.range 17).findSome? fun i => nearest? rank (i + 1)).getD (exactDecimal rank)

/-- How the numbers that are not finite are spelled. -/
structure Spelling where
  nan : String
  infinity : String

def signText (negative : Bool) : List Char := if negative then ['-'] else []

def text (spelling : Spelling) : Double → List Char
  | .nan => spelling.nan.toList
  | .infinite negative => signText negative ++ spelling.infinity.toList
  | .finite negative rank =>
    signText negative ++ if rank.val = 0 then ['0', '.', '0'] else (shortest rank).text

end Sitewright.Double
