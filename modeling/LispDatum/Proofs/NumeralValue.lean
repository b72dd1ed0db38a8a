import LispDatum.Proofs.Grammar
import Mathlib.Algebra.BigOperators.Fin
import Mathlib.Algebra.Order.BigOperators.Group.Finset

/-!
# The values of numerals

A numeral with a radix letter and a decimal numeral are read by different parts
of the reader, and their ends are found by different conditions.  Both have the
value that their digits have by their places.  What a digit is worth is told
here by its place in the alphabet of digits, and not by the function that the
reader folds the digits with.
-/

namespace LispDatum.Reader

open LispDatum.Numeral

/-! ## Digits and their weights -/

/-- What a digit is worth; a letter is worth the same in either case. -/
def worth (char : Char) : Nat :=
  "0123456789abcdef".toList.idxOf char.toLower

/-- The sum of what the digits are worth, each times the power of the base that
belongs to its place. -/
def weightedSum (base : Nat) (digits : List Char) : Int :=
  ∑ index : Fin digits.length,
    (worth digits[index] : Int) * base ^ (digits.length - 1 - index)

theorem digitOf_eq_worth {char : Char} (hdigit : isHexDigit char = true) :
    digitOf char = worth char := by
  have hvalues :
      hexDigits.all (fun char => digitOf char == worth char) = true := by
    decide
  have hvalue := of_contains hvalues hdigit
  exact eq_of_beq hvalue

theorem Radix.worth_lt_base {radix : Radix} {char : Char}
    (hdigit : radix.isDigit char = true) : worth char < radix.base := by
  have hvalues :
      radix.digits.all (fun char => worth char < radix.base) = true := by
    cases radix <;> decide
  have hvalue := of_contains hvalues hdigit
  exact of_decide_eq_true hvalue

theorem worth_pos {char : Char} (hdigit : isHexDigit char = true)
    (hzero : char ≠ '0') : 0 < worth char := by
  have hvalues :
      hexDigits.all (fun char => char = '0' ∨ 0 < worth char) = true := by
    decide
  have hvalue : char = '0' ∨ 0 < worth char :=
    of_decide_eq_true (of_contains hvalues hdigit)
  exact hvalue.resolve_left hzero

/-- The first digit weighs as much as there are digits behind it. -/
theorem weightedSum_cons (base : Nat) (char : Char) (digits : List Char) :
    weightedSum base (char :: digits) =
      worth char * base ^ digits.length + weightedSum base digits := by
  simp only [weightedSum, List.length_cons]
  rw [Fin.sum_univ_succ]
  congr 1
  apply Finset.sum_congr rfl
  intro index _
  have hplace : digits.length + 1 - 1 - (index.succ : Nat) =
      digits.length - 1 - index := by
    rw [Fin.val_succ]
    omega
  rw [hplace]
  rfl

theorem positional_eq_weightedSum (base : Nat) {digits : List Char}
    (hdigits : ∀ char ∈ digits, isHexDigit char = true) :
    positional base digits = weightedSum base digits := by
  induction digits with
  | nil => simp [weightedSum]
  | cons char digits hind =>
    rw [List.forall_mem_cons] at hdigits
    rw [positional_cons, weightedSum_cons, digitOf_eq_worth hdigits.1,
      hind hdigits.2]

theorem weightedSum_nonneg (base : Nat) (digits : List Char) :
    0 ≤ weightedSum base digits := by
  apply Finset.sum_nonneg
  intro index _
  positivity

theorem weightedSum_lt_pow {base : Nat} {digits : List Char}
    (hdigits : ∀ char ∈ digits, worth char < base) :
    weightedSum base digits < base ^ digits.length := by
  induction digits with
  | nil => simp [weightedSum]
  | cons char digits hind =>
    rw [List.forall_mem_cons] at hdigits
    have hothers := hind hdigits.2
    have hfirst : (worth char : Int) + 1 ≤ base := by
      exact_mod_cast hdigits.1
    calc
      weightedSum base (char :: digits) =
          worth char * base ^ digits.length + weightedSum base digits :=
        weightedSum_cons base char digits
      _ < worth char * base ^ digits.length + base ^ digits.length := by
        gcongr
      _ = (worth char + 1) * base ^ digits.length := by
        ring
      _ ≤ base * base ^ digits.length := by
        gcongr
      _ = base ^ (char :: digits).length := by
        rw [List.length_cons, pow_succ']

theorem pow_le_weightedSum (base : Nat) {first : Char} (others : List Char)
    (hfirst : 0 < worth first) :
    base ^ others.length ≤ weightedSum base (first :: others) := by
  have hothers := weightedSum_nonneg base others
  have hworth : (1 : Int) ≤ worth first := by
    exact_mod_cast hfirst
  calc
    (base : Int) ^ others.length = 1 * base ^ others.length := by
      rw [one_mul]
    _ ≤ worth first * base ^ others.length := by
      gcongr
    _ ≤ worth first * base ^ others.length + weightedSum base others :=
      le_add_of_nonneg_right hothers
    _ = weightedSum base (first :: others) :=
      (weightedSum_cons base first others).symm

/-! ## What a numeral is read as -/

/-- A text is read, up to an offset, as the number that some digits stand for,
and this number has the size that the number of digits tells. -/
structure IsValuedBy (input : Input) (base : Nat) (digits : List Char)
    (stop : Int) : Prop where
  value : (readInput input).1 = .ok (.number (weightedSum base digits))
  position : (readInput input).2.position = stop
  nonneg : 0 ≤ weightedSum base digits
  lt_pow : weightedSum base digits < base ^ digits.length
  pow_le : digits.head? ≠ some '0' →
    base ^ (digits.length - 1) ≤ weightedSum base digits

section Numerals

variable (radix : Radix) {first : Char} {others : List Char}

theorem isValuedBy_of_reads {input : Input} {stop : Nat}
    (hdigits : ∀ char ∈ first :: others, radix.isDigit char = true)
    (hreads : Reads input.text (.accepted
      (.number (positional radix.base (first :: others))) stop)) :
    IsValuedBy input radix.base (first :: others) stop := by
  have hhex : ∀ char ∈ first :: others, isHexDigit char = true := by
    intro char hmem
    exact Radix.isHexDigit_of_isDigit (hdigits char hmem)
  rw [positional_eq_weightedSum radix.base hhex] at hreads
  obtain ⟨hvalue, hstop⟩ := readInput_ok_iff.2 ⟨stop, hreads, rfl⟩
  refine ⟨hvalue, hstop, weightedSum_nonneg radix.base _, ?_, ?_⟩
  · apply weightedSum_lt_pow
    intro char hmem
    exact Radix.worth_lt_base (hdigits char hmem)
  · intro hzero
    rw [List.head?_cons, Ne, Option.some.injEq] at hzero
    apply pow_le_weightedSum radix.base others
    exact worth_pos (hhex first List.mem_cons_self) hzero

theorem isValuedBy_radixNumeral
    (hdigits : ∀ char ∈ first :: others, radix.isDigit char = true)
    {rest : List Char} (hrest : StartsOutside isWordChar rest)
    (source : String) :
    IsValuedBy ⟨'#' :: radix.letter :: (first :: others ++ rest), source⟩
      radix.base (first :: others) (2 + (first :: others).length) := by
  have hreads := Reads.radixNumeral radix first others rest hdigits hrest
  have hstop : others.length + 3 = 2 + (first :: others).length := by
    rw [List.length_cons]
    omega
  rw [hstop] at hreads
  exact_mod_cast isValuedBy_of_reads radix hdigits hreads

theorem isValuedBy_decimalNumeral
    (hdigits : ∀ char ∈ first :: others, isDigit char = true)
    {rest : List Char} (hrest : StartsOutside isDigit rest) (source : String) :
    IsValuedBy ⟨first :: others ++ rest, source⟩ 10 (first :: others)
      (first :: others).length :=
  isValuedBy_of_reads .decimal hdigits
    (.decimalNumeral first others rest hdigits hrest)

end Numerals

/-- A numeral of any length, with a radix letter or without, is worth exactly
what its digits are worth by their places, and it ends with its last digit.
Without a letter its value is that of the same digits behind the letter of the
decimals. -/
theorem readInput_numeral :
    (∀ (radix : Radix) (digits rest : List Char) (source : String),
      digits ≠ [] → (∀ char ∈ digits, radix.isDigit char = true) →
      StartsOutside isWordChar rest →
        IsValuedBy ⟨'#' :: radix.letter :: (digits ++ rest), source⟩ radix.base
          digits (2 + digits.length)) ∧
    ∀ (digits rest : List Char) (source : String),
      digits ≠ [] → (∀ char ∈ digits, isDigit char = true) →
      StartsOutside isDigit rest →
        IsValuedBy ⟨digits ++ rest, source⟩ 10 digits digits.length ∧
        (readInput ⟨digits ++ rest, source⟩).1 =
          (readInput ⟨'#' :: 'd' :: digits, source⟩).1 := by
  constructor
  · intro radix digits rest source hne hdigits hrest
    obtain ⟨first, others, rfl⟩ := List.exists_cons_of_ne_nil hne
    exact isValuedBy_radixNumeral radix hdigits hrest source
  · intro digits rest source hne hdigits hrest
    obtain ⟨first, others, rfl⟩ := List.exists_cons_of_ne_nil hne
    have hplain := isValuedBy_decimalNumeral hdigits hrest source
    have hletter := isValuedBy_radixNumeral .decimal hdigits
      (startsOutside_nil isWordChar) source
    rw [List.append_nil] at hletter
    exact ⟨hplain, hplain.value.trans hletter.value.symm⟩

/-- Letters count in either case, and what follows the digits does not matter
as long as it continues no word. -/
theorem readInput_numeral_hexadecimal :
    (readInput (.ofString "#xfF0(")).1 = .ok (.number 4080) ∧
    (readInput (.ofString "#xfF0(")).2.position = 5 ∧
    (readInput (.ofString "007")).1 = .ok (.number 7) := by
  have hword : StartsOutside isWordChar ['('] :=
    startsOutside_cons.2 (by decide)
  have hhexadecimal := readInput_numeral.1 .hexadecimal ['f', 'F', '0'] ['(']
    "lisp" (by decide) (List.all_eq_true.1 (by decide)) hword
  have hdecimal := readInput_numeral.2 ['0', '0', '7'] [] "lisp" (by decide)
    (List.all_eq_true.1 (by decide)) (startsOutside_nil isDigit)
  have hlarge : weightedSum 16 ['f', 'F', '0'] = 4080 := by decide
  have hsmall : weightedSum 10 ['0', '0', '7'] = 7 := by decide
  refine ⟨?_, hhexadecimal.position, ?_⟩
  · rw [← hlarge]
    exact hhexadecimal.value
  · rw [← hsmall]
    exact hdecimal.1.value

end LispDatum.Reader
