import LispDatum.Text.Quoted
import LispDatum.Unicode.DecimalDigit

/-!
# Numerals

The value of a run of digits in any integer base, and the decimal numeral of an
integer.  A digit is a decimal digit of any script or one of the letters a to f
in either case; the value of a run is fixed by the digits alone, so no digit is
compared with the base.
-/

namespace LispDatum.Numeral

open LispDatum.Text LispDatum.Unicode

def digitValue? (char : Char) : Option Nat :=
  if 'a' ≤ char ∧ char ≤ 'f' then some (10 + (char.toNat - 'a'.toNat))
  else if 'A' ≤ char ∧ char ≤ 'F' then some (10 + (char.toNat - 'A'.toNat))
  else decimalDigit? char

/-- A character that is no digit stands among the digits. -/
structure BadDigit where
  char : Char
deriving DecidableEq, Repr

def BadDigit.message (bad : BadDigit) : String :=
  "invalid literal for int() with base 16: " ++ shownChar (some bad.char)

/-- The value of the digits read so far, continued by one more. -/
def appendDigit (base value : Int) (char : Char) : Except BadDigit Int :=
  match digitValue? char with
  | some digit => .ok (value * base + digit)
  | none => .error ⟨char⟩

/-- The value of a run of digits, most significant first.  The empty run is
zero; the first character that is no digit is the error. -/
def digitsValue (base : Int) (digits : List Char) : Except BadDigit Int :=
  digits.foldlM (appendDigit base) 0

/-- The number of digits that a numeral may have where this is limited. -/
def digitLimit : Nat := 4300

/-- The most digits that a numeral may have within a limit, where the limit may
count a minus sign as a digit. -/
def digitsWithin (most : Nat) (countsSign negative : Bool) : Nat :=
  if countsSign && negative then most - 1 else most

/-- The value of a run of ASCII digits. -/
def naturalOf (digits : List Char) : Nat :=
  Nat.ofDigitChars 10 digits 0

/-- The decimal digits of a natural number, without leading zeros. -/
def decimalDigits (value : Nat) : List Char :=
  Nat.toDigits 10 value

def decimal (value : Int) : String :=
  if value < 0 then String.ofList ('-' :: decimalDigits value.natAbs)
  else String.ofList (decimalDigits value.natAbs)

end LispDatum.Numeral
