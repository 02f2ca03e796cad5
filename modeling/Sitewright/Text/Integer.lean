import Sitewright.Text.Blank
import Sitewright.Text.Quoted

namespace Sitewright.Text

/-- The most digits an integer may be written with. -/
def maxDigits : Nat := 4300

/-- An integer with more than `maxDigits` digits, which is to be read or to be shown. -/
inductive LongInteger where
  | read (digits : Nat)
  | shown
  deriving Repr, DecidableEq

def LongInteger.message : LongInteger → String
  | read digits =>
    s!"Exceeds the limit ({maxDigits} digits) for integer string conversion: " ++
      s!"value has {digits} digits; use sys.set_int_max_str_digits() to increase the limit"
  | shown =>
    s!"Exceeds the limit ({maxDigits} digits) for integer string conversion; " ++
      "use sys.set_int_max_str_digits() to increase the limit"

inductive IntegerError where
  | malformed (text : String)
  | long (e : LongInteger)
  deriving Repr

def IntegerError.message : IntegerError → String
  | .malformed text => "invalid literal for int() with base 10: " ++
      String.ofList ((quotedChars text.toList).take 200)
  | .long e => e.message

/-- Blank around a number: the information separators of ASCII do not count. -/
def isNumberBlank (c : Char) : Bool := isBlank c && !(0x1c ≤ c.toNat && c.toNat ≤ 0x1f)

def isNumeralChar (c : Char) : Bool := c == '_' || (digitValue? c).isSome

/-- Whether underscores stand only between two digits. -/
def wellSeparated : List Char → Bool
  | [] => false
  | ['_'] => false
  | '_' :: '_' :: _ => false
  | [_] => true
  | _ :: rest => wellSeparated rest

/-- Reads an integer as a person writes it: blanks around it, a sign, digits of any script,
single underscores between the digits. -/
def integer (text : String) : Except IntegerError Int :=
  let body := text.toList.dropWhile isNumberBlank
  let (negative, unsigned) :=
    match body with
    | '-' :: rest => (true, rest)
    | '+' :: rest => (false, rest)
    | rest => (false, rest)
  let numeral := unsigned.takeWhile isNumeralChar
  let digits := numeral.filterMap digitValue?
  if numeral.head? = some '_' || !wellSeparated numeral then .error (.malformed text)
  else if maxDigits < digits.length then .error (.long (.read digits.length))
  else if !(unsigned.dropWhile isNumeralChar).all isNumberBlank then .error (.malformed text)
  else
    let n : Int := (digits.foldl (fun n d => n * 10 + d) 0 : Nat)
    .ok (if negative then -n else n)

end Sitewright.Text
