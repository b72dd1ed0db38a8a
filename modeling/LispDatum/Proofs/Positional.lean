import LispDatum.Numeral
import Mathlib.Data.List.Basic
import Mathlib.Data.List.Induction
import Mathlib.Data.Nat.Digits.Defs

/-!
# Positional notation

The value of a run of digits is computed by a fold from the most significant
digit.  Here that fold is identified with the sum of the digits weighted by the
powers of the base, for every integer base, and the numeral of a natural number
is shown to have that number for its value.
-/

namespace LispDatum.Numeral

/-- The value of one character as a digit; characters that are no digits count
for nothing. -/
def digitOf (char : Char) : Nat :=
  (digitValue? char).getD 0

/-- The sum of the digits weighted by the powers of the base, the last digit
being worth itself. -/
def positional (base : Int) (digits : List Char) : Int :=
  Nat.ofDigits base (digits.map digitOf).reverse

@[simp]
theorem positional_nil (base : Int) : positional base [] = 0 := rfl

/-- One more digit shifts all the others by one place. -/
theorem positional_append_singleton (base : Int) (digits : List Char)
    (char : Char) :
    positional base (digits ++ [char]) =
      positional base digits * base + digitOf char := by
  simp only [positional, List.map_append, List.map_cons, List.map_nil,
    List.reverse_append, List.reverse_cons, List.reverse_nil, List.nil_append,
    List.singleton_append, Nat.ofDigits]
  ring

/-- Folding from the most significant digit gives the positional value, provided
that every character is a digit. -/
theorem digitsValue_eq_positional (base : Int) {digits : List Char}
    (hdigits : ∀ char ∈ digits, (digitValue? char).isSome = true) :
    digitsValue base digits = .ok (positional base digits) := by
  induction digits using List.reverseRecOn with
  | nil => rfl
  | append_singleton digits char hind =>
    have hinit := hind fun other hmem =>
      hdigits other (List.mem_append_left [char] hmem)
    obtain ⟨digit, hdigit⟩ :=
      Option.isSome_iff_exists.1 (hdigits char (by simp))
    rw [digitsValue] at hinit ⊢
    rw [List.foldlM_append, hinit, positional_append_singleton, digitOf, hdigit]
    simp [bind, Except.bind, appendDigit, hdigit, pure, Except.pure]

/-- The digits in front are shifted by as many places as there are digits
behind them. -/
theorem positional_append (base : Int) (left right : List Char) :
    positional base (left ++ right) =
      positional base left * base ^ right.length + positional base right := by
  induction right using List.reverseRecOn with
  | nil => simp
  | append_singleton right last hind =>
    rw [← List.append_assoc, positional_append_singleton, hind,
      positional_append_singleton, List.length_append, List.length_singleton,
      pow_succ]
    ring

/-- One digit alone is worth itself. -/
theorem positional_singleton (base : Int) (char : Char) :
    positional base [char] = digitOf char := by
  rw [← List.nil_append [char], positional_append_singleton, positional_nil,
    zero_mul, zero_add]

/-- The first digit weighs as much as there are digits behind it. -/
theorem positional_cons (base : Int) (char : Char) (digits : List Char) :
    positional base (char :: digits) =
      digitOf char * base ^ digits.length + positional base digits := by
  rw [← List.singleton_append, positional_append, positional_singleton]

/-- A run of zeros, each in any script. -/
def IsZeroRun (zeros : List Char) : Prop :=
  ∀ char ∈ zeros, digitValue? char = some 0

theorem isZeroRun_replicate (count : Nat) :
    IsZeroRun (List.replicate count '0') := by
  intro char hmem
  rw [List.eq_of_mem_replicate hmem]
  rfl

theorem IsZeroRun.positional_append {zeros : List Char}
    (hzeros : IsZeroRun zeros) (base : Int) (digits : List Char) :
    positional base (zeros ++ digits) = positional base digits := by
  induction zeros with
  | nil => rfl
  | cons zero zeros hind =>
    obtain ⟨hzero, hothers⟩ := List.forall_mem_cons.1 hzeros
    have hworth : digitOf zero = 0 := by
      rw [digitOf, hzero, Option.getD_some]
    rw [List.cons_append, positional_cons, hworth, hind hothers, Nat.cast_zero,
      zero_mul, zero_add]

theorem positional_nonneg (base : Nat) (digits : List Char) :
    0 ≤ positional base digits := by
  induction digits using List.reverseRecOn with
  | nil => exact le_refl 0
  | append_singleton digits char hind =>
    rw [positional_append_singleton]
    positivity

/-- The characters that numerals are written with have the values that they are
written for. -/
theorem digitOf_digitChar {digit : Nat} (hdigit : digit < 16) :
    digitOf digit.digitChar = digit := by
  have hvalues : ∀ digit : Fin 16, digitOf digit.val.digitChar = digit.val := by
    decide
  exact hvalues ⟨digit, hdigit⟩

theorem positional_toDigits {base : Nat} (hbase : 1 < base) (hlimit : base ≤ 16)
    (value : Nat) : positional base (Nat.toDigits base value) = value := by
  induction value using Nat.strong_induction_on with
  | _ value hind =>
    by_cases hsmall : value < base
    · rw [Nat.toDigits_of_lt_base hsmall, ← List.nil_append [_],
        positional_append_singleton, digitOf_digitChar (by omega),
        positional_nil, zero_mul, zero_add]
    · have hquotient : value / base < value :=
        Nat.div_lt_self (by omega) hbase
      have hremainder : value % base < base := Nat.mod_lt value (by omega)
      rw [Nat.toDigits_of_base_le hbase (by omega),
        positional_append_singleton, hind _ hquotient,
        digitOf_digitChar (by omega)]
      exact_mod_cast Nat.div_add_mod' value base

theorem exists_digitChar_of_mem_toDigits {base value : Nat} {char : Char}
    (hbase : 1 < base) (hmem : char ∈ Nat.toDigits base value) :
    ∃ digit < base, char = digit.digitChar := by
  induction value using Nat.strong_induction_on with
  | _ value hind =>
    by_cases hsmall : value < base
    · rw [Nat.toDigits_of_lt_base hsmall, List.mem_singleton] at hmem
      exact ⟨value, hsmall, hmem⟩
    · have hquotient : value / base < value :=
        Nat.div_lt_self (by omega) hbase
      rw [Nat.toDigits_of_base_le hbase (not_lt.1 hsmall), List.mem_append,
        List.mem_singleton] at hmem
      rcases hmem with hmem | hlast
      · exact hind (value / base) hquotient hmem
      · exact ⟨value % base, Nat.mod_lt value (by omega), hlast⟩

/-! ## Decimal numerals -/

theorem decimalDigits_ne_nil (value : Nat) : decimalDigits value ≠ [] :=
  Nat.toDigits_ne_nil

theorem isDigit_of_mem_decimalDigits (value : Nat) :
    ∀ char ∈ decimalDigits value, char.isDigit = true :=
  fun _ hmem => Nat.isDigit_of_mem_toDigits (by decide) (by decide) hmem

/-- From a power of ten on, a numeral has more digits than the exponent. -/
theorem lt_length_decimalDigits_iff {most value : Nat} (hmost : 0 < most) :
    most < (decimalDigits value).length ↔ 10 ^ most ≤ value := by
  rw [decimalDigits, ← not_le, Nat.length_toDigits_le_iff (by decide) hmost,
    not_lt]

theorem naturalOf_decimalDigits (value : Nat) :
    naturalOf (decimalDigits value) = value :=
  Nat.ofDigitChars_toDigits (by decide) (by decide)

/-- The sign of a numeral is no digit, so the numeral of an integer tells the
sign and the magnitude. -/
theorem decimal_injective : Function.Injective decimal := by
  have hdigits : Function.Injective decimalDigits :=
    Function.LeftInverse.injective naturalOf_decimalDigits
  have hsign (value : Nat) (rest : List Char) :
      decimalDigits value ≠ '-' :: rest := by
    intro htext
    have hmem : '-' ∈ decimalDigits value := by
      rw [htext]
      exact List.mem_cons_self
    exact absurd (isDigit_of_mem_decimalDigits value '-' hmem) (by decide)
  intro left right htext
  rw [decimal, decimal] at htext
  split_ifs at htext with hleft hright hright
  · have hsame := hdigits (List.cons.inj (String.ofList_injective htext)).2
    omega
  · exact absurd (String.ofList_injective htext).symm (hsign _ _)
  · exact absurd (String.ofList_injective htext) (hsign _ _)
  · have hsame := hdigits (String.ofList_injective htext)
    omega

/-- Only the numeral of zero starts with a zero. -/
theorem eq_zero_of_head?_decimalDigits {value : Nat}
    (hzero : (decimalDigits value).head? = some '0') : value = 0 := by
  induction value using Nat.strong_induction_on with
  | _ value hind =>
    by_cases hsmall : value < 10
    · have hdigits : ∀ digit : Fin 10,
          digit.val.digitChar = '0' → digit.val = 0 := by decide
      rw [decimalDigits, Nat.toDigits_of_lt_base hsmall] at hzero
      exact hdigits ⟨value, hsmall⟩ (Option.some.inj hzero)
    · have hquotient : value / 10 < value := by omega
      rw [decimalDigits, Nat.toDigits_of_base_le (by decide) (by omega),
        List.head?_append_of_ne_nil _ Nat.toDigits_ne_nil] at hzero
      have hleading := hind (value / 10) hquotient hzero
      omega

end LispDatum.Numeral
