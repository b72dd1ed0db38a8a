import LispDatum.Numeral
import LispDatum.Unicode.WhiteSpace

/-!
# Integers in free form

An integer in free form may have white space around it, a sign, leading zeros,
underscores, and a fraction of zeros, as in `+1_000.00`.  Its digits are ASCII.
An underscore stands alone between two digits; only those among leading zeros
may follow each other.  Without a sign in front, or with a plus, a minus may
follow the leading zeros, as in `00-7`; one underscore may then follow the
minus, but no further leading zeros.

The parts that do not count are taken off one by one, and what is left must be a
plain numeral: a run of digits without leading zeros, with or without a minus,
that keeps to the limit on the number of digits.  The minus may count as one of
them.  Only a text that itself starts with such a numeral of too many digits is
refused for their number, whatever follows them; any other text that does not
fit is malformed.
-/

namespace LispDatum.Numeral

open LispDatum.Unicode

/-- Why a text is no integer in free form. -/
inductive FreeFormDefect where
  | malformed
  | tooManyDigits
deriving DecidableEq, Repr

/-- A zero, or an underscore among zeros. -/
def isZeroPart (char : Char) : Bool :=
  char == '0' || char == '_'

/-- A character at which leading zeros may end. -/
def followsZeros (char : Char) : Bool :=
  char.isDigit || char == '-'

/-- A text without its leading zeros and the underscores among them.  Where
neither another digit nor a minus follows them, the last one of them stays. -/
def dropZeros (text : List Char) : List Char :=
  if text.head? = some '0' then
    let zeros := text.takeWhile isZeroPart
    let rest := text.dropWhile isZeroPart
    if rest.head?.any followsZeros then rest
    else zeros.drop (zeros.length - 1) ++ rest
  else text

/-- A text without its fraction, where that is a point and one or more zeros. -/
def dropZeroFraction (text : List Char) : List Char :=
  match text.dropWhile (· != '.') with
  | '.' :: '0' :: zeros =>
    if zeros.all (· == '0') then text.takeWhile (· != '.') else text
  | _ => text

/-- Each underscore has a character behind it that is no underscore. -/
def isSeparated : List Char → Bool
  | [] => true
  | ['_'] => false
  | '_' :: '_' :: _ => false
  | _ :: rest => isSeparated rest

/-- A text without its underscores, if they stand alone between other
characters. -/
def dropUnderscores (text : List Char) : List Char :=
  if text.head? != some '_' && isSeparated text then
    text.filter (· != '_')
  else text

/-- A text without the parts that do not count towards its value. -/
def clean (text : List Char) : List Char :=
  dropUnderscores (dropZeroFraction (dropZeros text))

/-- The number that a run of at most so many digits without leading zeros
denotes. -/
def readRun? (most : Nat) (text : List Char) : Option Nat :=
  if text = ['0'] then some 0
  else if text.head? = some '0' then none
  else if !text.isEmpty && text.all Char.isDigit && text.length ≤ most then
    some (naturalOf text)
  else none

def hasMinus (text : List Char) : Bool :=
  text.head? == some '-'

/-- A text without a minus in front. -/
def dropMinus : List Char → List Char
  | '-' :: rest => rest
  | text => text

/-- The most digits of a plain numeral that starts like this. -/
def mostDigits (countsSign : Bool) (text : List Char) : Nat :=
  digitsWithin digitLimit countsSign (hasMinus text)

/-- The integer that a plain numeral denotes. -/
def readPlain? (countsSign : Bool) (text : List Char) : Option Int :=
  (readRun? (mostDigits countsSign text) (dropMinus text)).map fun value =>
    if hasMinus text then -value else value

/-- The integer that a text without surrounding white space denotes. -/
def readTrimmed? (countsSign : Bool) : List Char → Option Int
  | '+' :: '-' :: _ => none
  | '+' :: rest => readPlain? countsSign (clean rest)
  | '-' :: rest => readPlain? countsSign ('-' :: clean rest)
  | rest => readPlain? countsSign (clean rest)

/-- The text starts with a plain numeral of too many digits. -/
def startsOverlong (countsSign : Bool) (text : List Char) : Bool :=
  let digits := (dropMinus text).takeWhile Char.isDigit
  digits.head? != some '0' && mostDigits countsSign text < digits.length

/-- The integer that a text denotes, where a minus may count as a digit. -/
def readFreeForm (countsSign : Bool) (text : List Char) :
    Except FreeFormDefect Int :=
  if startsOverlong countsSign text then .error .tooManyDigits
  else
    match readTrimmed? countsSign (trim text) with
    | some value => .ok value
    | none => .error .malformed

end LispDatum.Numeral
