import LispDatum.Json.Limits
import LispDatum.Json.Value
import LispDatum.Numeral

/-!
# Reading JSON numerals

A numeral has an optional minus sign, digits without a needless leading zero,
an optional fraction and an optional exponent.  Without fraction and exponent
it is an integer.
-/

namespace LispDatum.Json

open LispDatum.Numeral

/-- A non-empty run of digits and what follows it. -/
def readDigits (chars : List Char) : Option (List Char × List Char) :=
  match chars.takeWhile Char.isDigit with
  | [] => none
  | digits => some (digits, chars.dropWhile Char.isDigit)

/-- The digits before the point: zero stands alone. -/
def readWhole (chars : List Char) : Option (List Char × List Char) :=
  match readDigits chars with
  | some ('0' :: _ :: _, _) => none
  | read => read

/-- The digits after the point, if there is one. -/
def readFraction : List Char → Option (List Char × List Char)
  | '.' :: rest => readDigits rest
  | chars => some ([], chars)

def readSign : List Char → Int × List Char
  | '-' :: rest => (-1, rest)
  | '+' :: rest => (1, rest)
  | chars => (1, chars)

/-- An exponent without its letter. -/
def readPower (chars : List Char) : Option (Int × List Char) :=
  (readDigits (readSign chars).2).map fun read =>
    ((readSign chars).1 * naturalOf read.1, read.2)

/-- The exponent, if there is one. -/
def readExponent : List Char → Option (Option Int × List Char)
  | 'e' :: rest => (readPower rest).map fun read => (some read.1, read.2)
  | 'E' :: rest => (readPower rest).map fun read => (some read.1, read.2)
  | chars => some (none, chars)

/-- A numeral without its sign: the digits with the point left out, the number
of digits after the point, and the exponent. -/
structure Magnitude where
  whole : List Char
  fraction : List Char
  exponent : Option Int

def Magnitude.value (magnitude : Magnitude) (sign : Int) : Json :=
  if magnitude.fraction.isEmpty && magnitude.exponent.isNone then
    .integer (sign * naturalOf magnitude.whole)
  else
    .real (sign * naturalOf (magnitude.whole ++ magnitude.fraction))
      (magnitude.exponent.getD 0 - magnitude.fraction.length)

/-- A numeral without a sign, and what follows it. -/
def readMagnitude (chars : List Char) : Option (Magnitude × List Char) := do
  let (whole, rest) ← readWhole chars
  let (fraction, rest) ← readFraction rest
  let (exponent, rest) ← readExponent rest
  return ({ whole, fraction, exponent }, rest)

/-- A numeral of the given sign whose magnitude is ahead, and what follows it. -/
def readSigned (limits : Limits) (sign : Int) (chars : List Char) :
    Option (Json × List Char) := do
  let (magnitude, rest) ← readMagnitude chars
  if limits.allowsDigits (sign < 0) magnitude.whole.length then
    return (magnitude.value sign, rest)
  else none

def readNumeral (limits : Limits) : List Char → Option (Json × List Char)
  | '-' :: rest => readSigned limits (-1) rest
  | chars => readSigned limits 1 chars

theorem length_lt_of_readDigits {chars digits after : List Char}
    (hread : readDigits chars = some (digits, after)) :
    after.length < chars.length := by
  unfold readDigits at hread
  split at hread
  · simp at hread
  · next hdigits =>
    simp only [Option.some.injEq, Prod.mk.injEq] at hread
    have hsplit := congrArg List.length
      (List.takeWhile_append_dropWhile (p := Char.isDigit) (l := chars))
    have hpos : 0 < (chars.takeWhile Char.isDigit).length := by
      cases htake : chars.takeWhile Char.isDigit with
      | nil => exact absurd htake hdigits
      | cons => simp
    rw [List.length_append] at hsplit
    rw [← hread.2]
    omega

theorem length_lt_of_readWhole {chars digits after : List Char}
    (hread : readWhole chars = some (digits, after)) :
    after.length < chars.length := by
  unfold readWhole at hread
  split at hread
  · simp at hread
  · exact length_lt_of_readDigits hread

theorem length_le_of_readFraction {chars digits after : List Char}
    (hread : readFraction chars = some (digits, after)) :
    after.length ≤ chars.length := by
  unfold readFraction at hread
  split at hread
  · have := length_lt_of_readDigits hread
    simp only [List.length_cons]
    omega
  · simp only [Option.some.injEq, Prod.mk.injEq] at hread
    simp [hread.2]

theorem length_readSign_le (chars : List Char) :
    (readSign chars).2.length ≤ chars.length := by
  unfold readSign
  split <;> simp

theorem length_lt_of_readPower {chars after : List Char} {power : Int}
    (hread : readPower chars = some (power, after)) :
    after.length < chars.length := by
  obtain ⟨read, hdigits, heq⟩ := Option.map_eq_some_iff.1 hread
  have hshort := length_lt_of_readDigits hdigits
  have hsign := length_readSign_le chars
  rw [← (Prod.mk.inj heq).2]
  omega

theorem length_le_of_readExponent {chars after : List Char}
    {exponent : Option Int}
    (hread : readExponent chars = some (exponent, after)) :
    after.length ≤ chars.length := by
  have hpower (rest : List Char)
      (hmap : (readPower rest).map (fun read => (some read.1, read.2)) =
        some (exponent, after)) : after.length ≤ rest.length + 1 := by
    obtain ⟨read, hread, heq⟩ := Option.map_eq_some_iff.1 hmap
    have hshort := length_lt_of_readPower hread
    rw [← (Prod.mk.inj heq).2]
    omega
  unfold readExponent at hread
  split at hread
  · exact hpower _ hread
  · exact hpower _ hread
  · simp [(Prod.mk.inj (Option.some.inj hread)).2]

theorem length_lt_of_readMagnitude {chars after : List Char}
    {magnitude : Magnitude}
    (hread : readMagnitude chars = some (magnitude, after)) :
    after.length < chars.length := by
  simp only [readMagnitude, Option.bind_eq_bind, Option.bind_eq_some_iff,
    Option.pure_def, Option.some.injEq, Prod.mk.injEq] at hread
  obtain ⟨⟨whole, rest⟩, hwhole, ⟨fraction, tail⟩, hfraction,
    ⟨exponent, last⟩, hexponent, -, hlast⟩ := hread
  have hone : rest.length < chars.length := length_lt_of_readWhole hwhole
  have htwo : tail.length ≤ rest.length := length_le_of_readFraction hfraction
  have hthree : last.length ≤ tail.length :=
    length_le_of_readExponent hexponent
  rw [← hlast]
  exact Nat.lt_of_le_of_lt (Nat.le_trans hthree htwo) hone

theorem length_lt_of_readSigned {limits : Limits} {sign : Int}
    {chars after : List Char} {value : Json}
    (hread : readSigned limits sign chars = some (value, after)) :
    after.length < chars.length := by
  simp only [readSigned, Option.bind_eq_bind, Option.bind_eq_some_iff] at hread
  obtain ⟨⟨magnitude, rest⟩, hmagnitude, hwithin⟩ := hread
  split at hwithin
  · rw [← (Prod.mk.inj (Option.some.inj hwithin)).2]
    exact length_lt_of_readMagnitude hmagnitude
  · exact absurd hwithin (by simp)

theorem length_lt_of_readNumeral {limits : Limits} {chars after : List Char}
    {value : Json} (hread : readNumeral limits chars = some (value, after)) :
    after.length < chars.length := by
  unfold readNumeral at hread
  split at hread
  · exact Nat.lt_succ_of_lt (length_lt_of_readSigned hread)
  · exact length_lt_of_readSigned hread

end LispDatum.Json
