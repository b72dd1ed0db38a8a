import LispDatum.Proofs.Positional

/-!
# Folding a run of digits

The fold takes every integer for a base, zero and the negative ones included,
and every decimal digit of every script beside the letters a to f.  Read in two
parts, a run has the value of the first part, shifted by the length of the
second, plus the value of the second.  The fold stops at the first character
that is no digit, so neither the base nor what stands behind that character
makes a difference to the error.
-/

namespace LispDatum.Numeral

open LispDatum.Text

/-- Every character has a value as a digit. -/
def IsDigitRun (digits : List Char) : Prop :=
  ∀ char ∈ digits, (digitValue? char).isSome = true

theorem isDigitRun_append {left right : List Char} :
    IsDigitRun (left ++ right) ↔ IsDigitRun left ∧ IsDigitRun right :=
  List.forall_mem_append

theorem IsZeroRun.isDigitRun {zeros : List Char} (hzeros : IsZeroRun zeros) :
    IsDigitRun zeros := by
  intro char hmem
  rw [hzeros char hmem]
  rfl

/-! ## Behind a run of digits -/

/-- Behind a run of digits the fold goes on from the value of the run. -/
theorem digitsValue_append (base : Int) {left : List Char}
    (hleft : IsDigitRun left) (right : List Char) :
    digitsValue base (left ++ right) =
      right.foldlM (appendDigit base) (positional base left) := by
  have hvalue := digitsValue_eq_positional base hleft
  rw [digitsValue] at hvalue ⊢
  rw [List.foldlM_append, hvalue]
  rfl

theorem digitsValue_append_bad (base : Int) {good : List Char} {bad : Char}
    (hgood : IsDigitRun good) (hbad : digitValue? bad = none)
    (rest : List Char) :
    digitsValue base (good ++ bad :: rest) = .error ⟨bad⟩ := by
  have hstep (value : Int) : appendDigit base value bad = .error ⟨bad⟩ := by
    rw [appendDigit, hbad]
  rw [digitsValue_append base hgood, List.foldlM_cons, hstep]
  rfl

/-- Zeros in front do not change the outcome, be it a value or an error. -/
theorem digitsValue_zeros_append (base : Int) {zeros : List Char}
    (hzeros : IsZeroRun zeros) (digits : List Char) :
    digitsValue base (zeros ++ digits) = digitsValue base digits := by
  have hzero : positional base zeros = 0 := by
    rw [← List.append_nil zeros, hzeros.positional_append, positional_nil]
  rw [digitsValue_append base hzeros.isDigitRun, hzero, digitsValue]

/-- A text that is no run of digits has a first character that is none. -/
theorem exists_eq_append_bad {text : List Char} (htext : ¬ IsDigitRun text) :
    ∃ good bad rest, text = good ++ bad :: rest ∧ IsDigitRun good ∧
      digitValue? bad = none := by
  induction text with
  | nil => exact absurd (fun _ hmem => absurd hmem List.not_mem_nil) htext
  | cons char text hind =>
    cases hchar : digitValue? char with
    | none =>
      refine ⟨[], char, text, rfl, ?_, hchar⟩
      exact fun _ hmem => absurd hmem List.not_mem_nil
    | some digit =>
      have hfirst : (digitValue? char).isSome = true := by
        rw [hchar, Option.isSome_some]
      have hothers : ¬ IsDigitRun text := by
        intro hrun
        exact htext (List.forall_mem_cons.2 ⟨hfirst, hrun⟩)
      obtain ⟨good, bad, rest, rfl, hgood, hbad⟩ := hind hothers
      exact ⟨char :: good, bad, rest, rfl,
        List.forall_mem_cons.2 ⟨hfirst, hgood⟩, hbad⟩

/-- The error shows the character that it is about. -/
theorem BadDigit.message_eq (bad : BadDigit) :
    bad.message = "invalid literal for int() with base 16: " ++
      quoted (String.ofList [bad.char]) := by
  unfold BadDigit.message
  rw [shownChar_some]

/-! ## The fold -/

/-- In every integer base, a run of digits in two parts has the value of the
first, times the base to the length of the second, plus the value of the second.
With the values of single digits this settles the value of every run.  Zeros in
front change nothing.  A text that is no run of digits has the error that names
its first character that is no digit, in every base and with anything behind
that character. -/
theorem digitsValue_twoParts_or_bad :
    (∀ (base : Int) (char : Char) (digit : Nat),
      digitValue? char = some digit → digitsValue base [char] = .ok digit) ∧
    (∀ (base : Int) (left right : List Char),
      IsDigitRun left → IsDigitRun right →
        ∃ high low, digitsValue base left = .ok high ∧
          digitsValue base right = .ok low ∧
          digitsValue base (left ++ right) =
            .ok (high * base ^ right.length + low)) ∧
    (∀ (base : Int) (zeros digits : List Char), IsZeroRun zeros →
      digitsValue base (zeros ++ digits) = digitsValue base digits) ∧
    (∀ text : List Char, ¬ IsDigitRun text →
      ∃ good bad rest, text = good ++ bad :: rest ∧ IsDigitRun good ∧
        digitValue? bad = none ∧
        ∀ (base : Int) (other : List Char),
          digitsValue base (good ++ bad :: other) = .error ⟨bad⟩) ∧
    ∀ bad : BadDigit,
      bad.message = "invalid literal for int() with base 16: " ++
        quoted (String.ofList [bad.char]) := by
  refine ⟨?_, ?_, ?_, ?_, BadDigit.message_eq⟩
  · intro base char digit hchar
    have hrun : IsDigitRun [char] := by
      simp [IsDigitRun, hchar]
    rw [digitsValue_eq_positional base hrun, positional_singleton, digitOf,
      hchar, Option.getD_some]
  · intro base left right hleft hright
    refine ⟨_, _, digitsValue_eq_positional base hleft,
      digitsValue_eq_positional base hright, ?_⟩
    rw [← positional_append]
    exact digitsValue_eq_positional base (isDigitRun_append.2 ⟨hleft, hright⟩)
  · intro base zeros digits hzeros
    exact digitsValue_zeros_append base hzeros digits
  · intro text htext
    obtain ⟨good, bad, rest, heq, hgood, hbad⟩ := exists_eq_append_bad htext
    exact ⟨good, bad, rest, heq, hgood, hbad,
      fun base other => digitsValue_append_bad base hgood hbad other⟩

/-- Digits of two scripts count together in a negative base, the base zero has
one for its power zero, and a superscript two is no digit. -/
theorem digitsValue_twoParts_mixedScripts :
    digitsValue (-3) (['F', '\u0661'] ++ ['0', 'a']) = .ok (-386) ∧
    digitsValue 0 (['7'] ++ []) = .ok 7 ∧
    digitsValue 10 (['\u0660', '0'] ++ ['4']) = .ok 4 ∧
    digitsValue (-1) ['1', '\u00b2', 'z'] = .error ⟨'\u00b2'⟩ := by
  obtain ⟨hdigit, hparts, hzeros, hbad, -⟩ := digitsValue_twoParts_or_bad
  refine ⟨?_, ?_, ?_, ?_⟩
  · have hleft : IsDigitRun ['F', '\u0661'] :=
      List.all_eq_true.1 (by decide +kernel)
    obtain ⟨high, low, hhigh, hlow, hvalue⟩ := hparts (-3) _ ['0', 'a'] hleft
      (List.all_eq_true.1 (by decide))
    have hfirst : digitsValue (-3) ['F', '\u0661'] = .ok (-44) := by
      decide +kernel
    obtain rfl := Except.ok.inj (hfirst.symm.trans hhigh)
    obtain rfl : 10 = low := Except.ok.inj hlow
    exact hvalue
  · obtain ⟨high, low, hhigh, hlow, hvalue⟩ := hparts 0 ['7'] []
      (List.all_eq_true.1 (by decide)) (List.all_eq_true.1 (by decide))
    obtain rfl : 7 = high := Except.ok.inj hhigh
    obtain rfl : 0 = low := Except.ok.inj hlow
    exact hvalue
  · have hzero : IsZeroRun ['\u0660', '0'] :=
      List.forall_mem_cons.2 ⟨by decide, isZeroRun_replicate 1⟩
    rw [hzeros 10 _ _ hzero]
    exact hdigit 10 '4' 4 (by decide)
  · have hnot : ¬ IsDigitRun ['1', '\u00b2', 'z'] := by
      intro hrun
      exact absurd (hrun '\u00b2' (by simp)) (by decide)
    obtain ⟨good, bad, rest, htext, hgood, hnone, herror⟩ := hbad _ hnot
    rcases good with _ | ⟨first, _ | ⟨second, good⟩⟩
    · obtain ⟨rfl, -⟩ := List.cons.inj htext
      exact absurd hnone (by decide)
    · obtain ⟨rfl, hrest⟩ := List.cons.inj htext
      obtain ⟨rfl, -⟩ := List.cons.inj hrest
      exact herror (-1) ['z']
    · obtain ⟨-, hrest⟩ := List.cons.inj htext
      obtain ⟨rfl, -⟩ := List.cons.inj hrest
      exact absurd (hgood '\u00b2' (by simp)) (by decide)

end LispDatum.Numeral
