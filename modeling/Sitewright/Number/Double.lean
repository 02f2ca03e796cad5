import Sitewright.Text.Digit

namespace Sitewright

/-- How many magnitudes of double precision have one exponent: two to the power 52. -/
abbrev doublesPerExponent : Nat := 4503599627370496

/-- How many finite magnitudes double precision has. -/
abbrev doubleRanks : Nat := 2047 * doublesPerExponent

/-- A double-precision number. A finite one is its sign and the rank of its magnitude among all
magnitudes in increasing order, zero being at rank 0. -/
inductive Double where
  | nan
  | infinite (negative : Bool)
  | finite (negative : Bool) (rank : Fin doubleRanks)
  deriving Repr, DecidableEq, Inhabited

namespace Double

/-- A magnitude is its significand times two to its exponent, in units of the smallest one, which
is `2 ^ (-1074)`. -/
def significand (rank : Nat) : Nat :=
  if rank < doublesPerExponent then rank else doublesPerExponent + rank % doublesPerExponent

def exponent (rank : Nat) : Nat := rank / doublesPerExponent - 1

def units (rank : Nat) : Nat := significand rank * Nat.pow 2 (exponent rank)

theorem rank_eq (rank : Nat) : exponent rank * doublesPerExponent + significand rank = rank := by
  unfold exponent significand doublesPerExponent
  split <;> omega

/-- The nearest integer to a quotient; a half goes to the even neighbour. -/
def roundHalfEven (n d : Nat) : Nat :=
  if 2 * (n % d) < d then n / d
  else if d < 2 * (n % d) then n / d + 1
  else if n / d % 2 = 0 then n / d
  else n / d + 1

theorem roundHalfEven_one (n : Nat) : roundHalfEven n 1 = n := by
  simp [roundHalfEven, Nat.mod_one]

/-- The rank of the magnitude nearest to `n / d` units. -/
def rankNear (n d : Nat) : Nat :=
  let k := (n / d).log2 - 52
  k * doublesPerExponent + roundHalfEven n (d * Nat.pow 2 k)

def ofRank (negative : Bool) (rank : Nat) : Double :=
  if h : rank < doubleRanks then .finite negative ⟨rank, h⟩ else .infinite negative

/-- The double nearest to `coefficient * 10 ^ exponent`. Magnitudes beyond all doubles, on either
side, are told by their size alone. -/
def ofDecimal (negative : Bool) (coefficient : Nat) (exponent : Int) : Double :=
  let point : Int := (Text.decimal coefficient).length + exponent
  if coefficient = 0 ∨ point ≤ -324 then ofRank negative 0
  else if 310 ≤ point then .infinite negative
  else
    match exponent with
    | .ofNat e => ofRank negative (rankNear (coefficient * Nat.pow 10 e * Nat.pow 2 1074) 1)
    | .negSucc e =>
      ofRank negative (rankNear (coefficient * Nat.pow 2 1074) (Nat.pow 10 (e + 1)))

/-- Whether the number is a zero of either sign. -/
def isZero : Double → Bool
  | .finite _ rank => rank.val == 0
  | _ => false

def isFinite : Double → Bool
  | .finite .. => true
  | _ => false

end Double

end Sitewright
