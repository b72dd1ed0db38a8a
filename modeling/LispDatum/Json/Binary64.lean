/-!
# Numerals with a fraction or an exponent

Such a numeral stands for the binary floating-point number of 53 significant
bits that is nearest to its decimal value, a tie going to the even significand.
The rounding is done in exact arithmetic, and only what matters for integers is
kept: whether the number is an integer, and which.
-/

namespace LispDatum.Json

/-- How the nearest floating-point number stands to the integers. -/
inductive Rounded where
  | integer (value : Int)
  | fractional
  /-- The numeral lies beyond the largest finite number. -/
  | infinite
deriving DecidableEq, Repr

/-- The integer nearest to a quotient, a tie going to the even one. -/
def roundQuotient (numerator denominator : Nat) : Nat :=
  let quotient := numerator / denominator
  let twice := 2 * (numerator % denominator)
  if twice < denominator ∨ (twice = denominator ∧ quotient % 2 = 0) then
    quotient
  else quotient + 1

/-- Divide a quotient by a power of two. -/
def unscale (numerator denominator : Nat) (power : Int) : Nat × Nat :=
  if 0 ≤ power then (numerator, denominator * Nat.pow 2 power.toNat)
  else (numerator * Nat.pow 2 (-power).toNat, denominator)

/-- The power of two that the last significant bit of a quotient counts; it is
at least `-1074`, below which the significand gets shorter. -/
def unitPower (numerator denominator : Nat) : Int :=
  let estimate : Int := numerator.log2 - denominator.log2 - 53
  let (scaled, unit) := unscale numerator denominator estimate
  max (-1074) (if scaled / unit < Nat.pow 2 53 then estimate else estimate + 1)

/-- The number `significand * 2 ^ power`. -/
def Rounded.ofScaled (significand : Nat) (power : Int) : Rounded :=
  if 0 ≤ power then
    let value := significand * Nat.pow 2 power.toNat
    if value < Nat.pow 2 1024 then .integer value else .infinite
  else
    let unit := Nat.pow 2 (-power).toNat
    if significand % unit = 0 then .integer ↑(significand / unit)
    else .fractional

/-- The floating-point number nearest to a positive quotient. -/
def Rounded.ofQuotient (numerator denominator : Nat) : Rounded :=
  let power := unitPower numerator denominator
  let (scaled, unit) := unscale numerator denominator power
  .ofScaled (roundQuotient scaled unit) power

def Rounded.negate : Rounded → Rounded
  | .integer value => .integer (-value)
  | rounded => rounded

/-- The floating-point number nearest to `mantissa * 10 ^ exponent`, for a
mantissa without sign.  Magnitudes that are far out of range are settled by
their number of digits. -/
def Rounded.ofDecimal (mantissa : Nat) (exponent : Int) : Rounded :=
  let magnitude := (Nat.toDigits 10 mantissa).length + exponent
  if mantissa = 0 ∨ magnitude < -330 then .integer 0
  else if 310 < magnitude then .infinite
  else
    .ofQuotient (mantissa * Nat.pow 10 exponent.toNat)
      (Nat.pow 10 (-exponent).toNat)

/-- The floating-point number nearest to `mantissa * 10 ^ exponent`. -/
def roundReal (mantissa exponent : Int) : Rounded :=
  let rounded := Rounded.ofDecimal mantissa.natAbs exponent
  if mantissa < 0 then rounded.negate else rounded

end LispDatum.Json
