import LispDatum.Numeral

/-!
# Limits on JSON texts

A reader of JSON may bound the size of what it accepts.  A text beyond a bound
counts as malformed.  Readers do not agree on whether the sign of a numeral
counts towards its size.
-/

namespace LispDatum.Json

open LispDatum.Numeral

/-- Bounds on a JSON text; where there is none, any size is accepted. -/
structure Limits where
  /-- The most digits that a numeral may have before its point. -/
  digits : Option Nat := none
  /-- A minus sign counts as a digit. -/
  countsSign : Bool := false
  /-- The most arrays and objects that may lie inside each other, where those
  without parts do not count. -/
  depth : Option Nat := none
deriving DecidableEq, Repr

namespace Limits

/-- A numeral with or without a minus sign may have so many digits before its
point. -/
def allowsDigits (limits : Limits) (negative : Bool) (count : Nat) : Bool :=
  limits.digits.all fun most =>
    count ≤ digitsWithin most limits.countsSign negative

/-- So many arrays and objects may lie inside each other. -/
def allowsDepth (limits : Limits) (count : Nat) : Bool :=
  limits.depth.all fun most => count ≤ most

end Limits

end LispDatum.Json
