import LispDatum.Proofs.NumeralValue

/-!
# The numerals of one number

A number can be written in five forms: plainly, or in one of four bases behind a
letter that names it.  Within a form there is freedom only in the zeros before
the first digit that counts and in the case of letters.  Without both, a run of
digits is the standard numeral of its value, because the digits of a number are
unique in every base.  Two runs of one form thus have the same value exactly if
the same is left of them, and forms and runs make no difference to the datum
other than by the value.
-/

namespace LispDatum.Reader

open LispDatum.Numeral

/-! ## Forms of numerals -/

/-- How a numeral tells its base: a plain one has no letter and is decimal. -/
inductive NumeralForm where
  | plain
  | lettered (radix : Radix)
deriving DecidableEq, Repr

namespace NumeralForm

def radix : NumeralForm → Radix
  | plain => .decimal
  | lettered radix => radix

/-- The characters before the digits. -/
def opening : NumeralForm → List Char
  | plain => []
  | lettered radix => ['#', radix.letter]

end NumeralForm

/-- A numeral without defects. -/
@[ext]
structure Literal where
  form : NumeralForm
  digits : List Char
  digits_ne_nil : digits ≠ []
  digits_valid : ∀ char ∈ digits, form.radix.isDigit char = true

namespace Literal

def text (literal : Literal) : List Char :=
  literal.form.opening ++ literal.digits

def value (literal : Literal) : Int :=
  positional literal.form.radix.base literal.digits

end Literal

/-- The run is the standard numeral of a number in a base, behind any number of
zeros and with every letter in either case. -/
def IsRunOf (base value : Nat) (run : List Char) : Prop :=
  ∃ zeros : Nat, List.Forall₂
    (fun char digit => char = digit ∨ char = digit.toUpper) run
    (List.replicate zeros '0' ++ Nat.toDigits base value)

/-- The digits without the zeros in front.  Of zeros alone, one is left. -/
def withoutZeros : List Char → List Char
  | '0' :: next :: rest => withoutZeros (next :: rest)
  | digits => digits

/-- The digits without the zeros in front and with small letters. -/
def canonicalRun (digits : List Char) : List Char :=
  (withoutZeros digits).map Char.toLower

/-- The whole text reads as a number. -/
def ReadsWhole (text : List Char) (value : Int) : Prop :=
  ∀ source, (readInput ⟨text, source⟩).1 = .ok (.number value) ∧
    (readInput ⟨text, source⟩).2.position = text.length

/-! ## Zeros in front -/

theorem positional_withoutZeros (base : Nat) (digits : List Char) :
    positional base (withoutZeros digits) = positional base digits := by
  fun_induction withoutZeros digits with
  | case1 next rest hind =>
    rw [hind]
    exact ((isZeroRun_replicate 1).positional_append base _).symm
  | case2 digits => rfl

theorem withoutZeros_suffix (digits : List Char) :
    withoutZeros digits <:+ digits := by
  fun_induction withoutZeros digits with
  | case1 next rest hind => exact hind.trans (List.suffix_cons '0' _)
  | case2 digits => exact List.suffix_refl digits

/-- A zero in front is left only if it is the only digit. -/
theorem withoutZeros_cases {digits : List Char} (hne : digits ≠ []) :
    withoutZeros digits = ['0'] ∨
      ∃ first others, withoutZeros digits = first :: others ∧ first ≠ '0' := by
  fun_induction withoutZeros digits with
  | case1 next rest hind => exact hind (List.cons_ne_nil next rest)
  | case2 digits hzeros =>
    obtain ⟨first, others, rfl⟩ := List.exists_cons_of_ne_nil hne
    by_cases hzero : first = '0'
    · subst hzero
      cases others with
      | nil => exact .inl rfl
      | cons next rest => exact absurd rfl (hzeros next rest)
    · exact .inr ⟨first, others, rfl, hzero⟩

/-! ## Standard numerals -/

theorem digitChar_digitOf {char : Char} (hdigit : isHexDigit char = true) :
    (digitOf char).digitChar = char.toLower := by
  have hchars : hexDigits.all
      (fun char => (digitOf char).digitChar == char.toLower) = true := by
    decide
  have hchar := of_contains hchars hdigit
  exact eq_of_beq hchar

theorem Radix.one_lt_base (radix : Radix) : 1 < radix.base := by
  cases radix <;> decide

theorem Radix.base_le (radix : Radix) : radix.base ≤ 16 := by
  cases radix <;> decide

theorem Radix.digitOf_lt_base {radix : Radix} {char : Char}
    (hdigit : radix.isDigit char = true) : digitOf char < radix.base := by
  rw [digitOf_eq_worth (isHexDigit_of_isDigit hdigit)]
  exact worth_lt_base hdigit

section Radix

variable {radix : Radix}

/-- A run of digits that starts with no zero is the standard numeral of its
value.  The induction is on the last digit, the one that a standard numeral ends
with whatever comes before. -/
theorem exists_toDigits_eq {first : Char} (hfirst : first ≠ '0')
    (others : List Char)
    (hdigits : ∀ char ∈ first :: others, radix.isDigit char = true) :
    ∃ value : Nat, 0 < value ∧
      positional radix.base (first :: others) = value ∧
      Nat.toDigits radix.base value = (first :: others).map Char.toLower := by
  induction others using List.reverseRecOn with
  | nil =>
    have hdigit := hdigits first List.mem_cons_self
    have hhex := Radix.isHexDigit_of_isDigit hdigit
    refine ⟨digitOf first, ?_, ?_, ?_⟩
    · rw [digitOf_eq_worth hhex]
      exact worth_pos hhex hfirst
    · exact positional_singleton radix.base first
    · rw [Nat.toDigits_of_lt_base (Radix.digitOf_lt_base hdigit),
        digitChar_digitOf hhex]
      rfl
  | append_singleton others last hind =>
    rw [← List.cons_append] at hdigits ⊢
    have hdigit := hdigits last (by simp)
    have hlast := Radix.digitOf_lt_base hdigit
    obtain ⟨value, hpos, hvalue, hrun⟩ :=
      hind fun char hmem => hdigits char (List.mem_append_left [last] hmem)
    refine ⟨radix.base * value + digitOf last, ?_, ?_, ?_⟩
    · have hbase : 0 < radix.base := Nat.zero_lt_of_lt radix.one_lt_base
      exact Nat.add_pos_left (Nat.mul_pos hbase hpos) _
    · rw [positional_append_singleton, hvalue]
      push_cast
      ring
    · rw [← Nat.toDigits_append_toDigits radix.one_lt_base hpos hlast, hrun,
        Nat.toDigits_of_lt_base hlast,
        digitChar_digitOf (Radix.isHexDigit_of_isDigit hdigit),
        List.map_append, List.map_singleton]

/-- What is left of a run without zeros in front is the standard numeral of its
value. -/
theorem exists_canonicalRun_eq {digits : List Char} (hne : digits ≠ [])
    (hdigits : ∀ char ∈ digits, radix.isDigit char = true) :
    ∃ value : Nat, positional radix.base digits = value ∧
      canonicalRun digits = Nat.toDigits radix.base value := by
  rw [canonicalRun, ← positional_withoutZeros]
  rcases withoutZeros_cases hne with hzero | ⟨first, others, hrun, hfirst⟩
  · rw [hzero]
    refine ⟨0, rfl, ?_⟩
    rw [Nat.toDigits_zero]
    rfl
  · have hleft : ∀ char ∈ first :: others, radix.isDigit char = true := by
      intro char hmem
      rw [← hrun] at hmem
      exact hdigits char ((withoutZeros_suffix digits).mem hmem)
    obtain ⟨value, -, hvalue, hstandard⟩ :=
      exists_toDigits_eq hfirst others hleft
    rw [hrun]
    exact ⟨value, hvalue, hstandard.symm⟩

theorem canonicalRun_eq_iff {left right : List Char}
    (hleft : left ≠ []) (hright : right ≠ [])
    (hleftDigits : ∀ char ∈ left, radix.isDigit char = true)
    (hrightDigits : ∀ char ∈ right, radix.isDigit char = true) :
    canonicalRun left = canonicalRun right ↔
      positional radix.base left = positional radix.base right := by
  obtain ⟨value, hvalue, hrun⟩ := exists_canonicalRun_eq hleft hleftDigits
  obtain ⟨other, hother, hotherRun⟩ :=
    exists_canonicalRun_eq hright hrightDigits
  rw [hvalue, hother, hrun, hotherRun]
  constructor
  · intro hsame
    calc
      (value : Int) = positional radix.base (Nat.toDigits radix.base value) :=
        (positional_toDigits radix.one_lt_base radix.base_le value).symm
      _ = positional radix.base (Nat.toDigits radix.base other) := by
        rw [hsame]
      _ = other := positional_toDigits radix.one_lt_base radix.base_le other
  · intro hsame
    rw [Int.ofNat.inj hsame]

/-! ## Either case of letters -/

/-- A digit that numerals are written with is a digit of the radix in either
case, with the same value. -/
theorem isDigit_and_digitOf_eq {char digit : Char}
    (hdigit : ∃ place < radix.base, digit = place.digitChar)
    (hcase : char = digit ∨ char = digit.toUpper) :
    radix.isDigit char = true ∧ digitOf char = digitOf digit := by
  have hboth : ∀ place : Fin radix.base,
      radix.isDigit place.val.digitChar = true ∧
      radix.isDigit place.val.digitChar.toUpper = true ∧
      digitOf place.val.digitChar.toUpper = digitOf place.val.digitChar := by
    cases radix <;> decide
  obtain ⟨place, hplace, rfl⟩ := hdigit
  obtain ⟨hlower, hupper, hvalue⟩ := hboth ⟨place, hplace⟩
  rcases hcase with rfl | rfl
  · exact ⟨hlower, rfl⟩
  · exact ⟨hupper, hvalue⟩

theorem isDigit_and_map_digitOf_eq {run digits : List Char}
    (hcases : List.Forall₂
      (fun char digit => char = digit ∨ char = digit.toUpper) run digits)
    (hdigits : ∀ digit ∈ digits,
      ∃ place < radix.base, digit = place.digitChar) :
    (∀ char ∈ run, radix.isDigit char = true) ∧
      run.map digitOf = digits.map digitOf := by
  induction hcases with
  | nil => exact ⟨by simp, rfl⟩
  | @cons char digit run digits hcase _ hind =>
    rw [List.forall_mem_cons] at hdigits
    obtain ⟨hchar, hvalue⟩ := isDigit_and_digitOf_eq hdigits.1 hcase
    obtain ⟨hrun, hvalues⟩ := hind hdigits.2
    refine ⟨List.forall_mem_cons.2 ⟨hchar, hrun⟩, ?_⟩
    rw [List.map_cons, List.map_cons, hvalue, hvalues]

/-- The runs of a number are runs of digits that have it for their value. -/
theorem IsRunOf.isDigit_and_positional {value : Nat} {run : List Char}
    (hrun : IsRunOf radix.base value run) :
    run ≠ [] ∧ (∀ char ∈ run, radix.isDigit char = true) ∧
      positional radix.base run = value := by
  obtain ⟨zeros, hcases⟩ := hrun
  have hstandard : ∀ digit ∈
      List.replicate zeros '0' ++ Nat.toDigits radix.base value,
      ∃ place < radix.base, digit = place.digitChar := by
    intro digit hmem
    rw [List.mem_append] at hmem
    rcases hmem with hzero | hmem
    · exact ⟨0, Nat.zero_lt_of_lt radix.one_lt_base,
        List.eq_of_mem_replicate hzero⟩
    · exact exists_digitChar_of_mem_toDigits radix.one_lt_base hmem
  obtain ⟨hdigits, hvalues⟩ := isDigit_and_map_digitOf_eq hcases hstandard
  refine ⟨?_, hdigits, ?_⟩
  · rintro rfl
    have hnil := List.forall₂_nil_left_iff.1 hcases
    exact Nat.toDigits_ne_nil (List.append_eq_nil_iff.1 hnil).2
  · calc
      positional radix.base run = positional radix.base
          (List.replicate zeros '0' ++ Nat.toDigits radix.base value) := by
        rw [positional, positional, hvalues]
      _ = positional radix.base (Nat.toDigits radix.base value) :=
        (isZeroRun_replicate zeros).positional_append radix.base _
      _ = value := positional_toDigits radix.one_lt_base radix.base_le value

end Radix

/-! ## Texts of numerals -/

theorem readsWhole_iff {text : List Char} {value : Int} :
    ReadsWhole text value ↔
      Reads text (.accepted (.number value) text.length) := by
  constructor
  · intro hwhole
    obtain ⟨length, hreads, hstop⟩ := readInput_ok_iff.1 (hwhole "lisp")
    rw [Int.ofNat.inj hstop]
    exact hreads
  · intro hreads source
    exact readInput_ok_iff.2 ⟨text.length, hreads, rfl⟩

theorem Literal.reads (literal : Literal) :
    Reads literal.text
      (.accepted (.number literal.value) literal.text.length) := by
  obtain ⟨form, digits, hne, hdigits⟩ := literal
  obtain ⟨first, others, rfl⟩ := List.exists_cons_of_ne_nil hne
  cases form with
  | plain => exact reads_decimalNumeral hdigits
  | lettered radix => exact reads_radixNumeral radix hdigits

theorem Literal.readsWhole_iff (literal : Literal) {value : Int} :
    ReadsWhole literal.text value ↔ literal.value = value := by
  rw [Reader.readsWhole_iff]
  constructor
  · intro hreads
    have hsame := (reads_iff.1 literal.reads).symm.trans (reads_iff.1 hreads)
    simpa using hsame
  · rintro rfl
    exact literal.reads

/-- A text that reads as a number to its end is a numeral. -/
theorem Reads.exists_literal {text : List Char} {value : Int}
    (hreads : Reads text (.accepted (.number value) text.length)) :
    ∃ literal : Literal, literal.text = text := by
  generalize hlength : text.length = length at hreads
  cases hreads with
  | identifier first others rest datum hfirst hothers hrest hradix hdatum =>
    cases hdatum
  | decimalNumeral first others rest hdigits hrest =>
    have hnil : rest = [] := by simpa using hlength
    subst hnil
    exact ⟨⟨.plain, first :: others, List.cons_ne_nil first others, hdigits⟩,
      (List.append_nil _).symm⟩
  | radixNumeral radix first others rest hdigits hrest =>
    have hnil : rest = [] := by simpa using hlength
    subst hnil
    refine ⟨⟨.lettered radix, first :: others, List.cons_ne_nil first others,
      hdigits⟩, ?_⟩
    rw [List.append_nil]
    rfl

/-- The number sign and the letter tell the form, and the rest are the digits. -/
theorem Literal.text_injective : Function.Injective Literal.text := by
  have hplain : ∀ digits : List Char, (∀ char ∈ digits, isDigit char = true) →
      digits.head? ≠ some '#' := by
    intro digits hdigits hhead
    have hsign := hdigits '#' (List.mem_of_head? hhead)
    rw [isDigit_numberSign] at hsign
    contradiction
  intro left right hsame
  obtain ⟨leftForm, leftDigits, hleft, hleftDigits⟩ := left
  obtain ⟨rightForm, rightDigits, hright, hrightDigits⟩ := right
  cases leftForm with
  | plain =>
    cases rightForm with
    | plain => exact Literal.ext rfl hsame
    | lettered radix =>
      have hdigits : leftDigits = '#' :: radix.letter :: rightDigits := hsame
      exact absurd (by rw [hdigits]; rfl) (hplain leftDigits hleftDigits)
  | lettered radix =>
    cases rightForm with
    | plain =>
      have hdigits : '#' :: radix.letter :: leftDigits = rightDigits := hsame
      exact absurd (by rw [← hdigits]; rfl) (hplain rightDigits hrightDigits)
    | lettered other =>
      have htexts : '#' :: radix.letter :: leftDigits =
          '#' :: other.letter :: rightDigits := hsame
      rw [List.cons.injEq, List.cons.injEq] at htexts
      have hradix : some radix = some other := by
        rw [← Radix.ofLetter?_letter radix, htexts.2.1, Radix.ofLetter?_letter]
      cases hradix
      exact Literal.ext rfl htexts.2.2

theorem IsRunOf.readsWhole {form : NumeralForm} {value : Nat} {run : List Char}
    (hrun : IsRunOf form.radix.base value run) :
    ReadsWhole (form.opening ++ run) value := by
  obtain ⟨hne, hdigits, hvalue⟩ := hrun.isDigit_and_positional
  exact (Literal.readsWhole_iff ⟨form, run, hne, hdigits⟩).2 hvalue

/-- In all five forms, the runs of a number read as that number to their end.
Every text that reads as a number to its end is a numeral of one form with one
run of digits, and two numerals of one form are of one number exactly if their
runs are the same but for zeros in front and the case of letters.  Hence the
data of two numerals, of whatever forms, compare as their numbers do. -/
theorem readsWhole_numeral :
    (∀ (form : NumeralForm) (value : Nat) (run : List Char),
      IsRunOf form.radix.base value run →
        ReadsWhole (form.opening ++ run) value) ∧
    (∀ (text : List Char) (value : Int), ReadsWhole text value →
      ∃! literal : Literal, literal.text = text) ∧
    (∀ left right : Literal, left.form = right.form →
      ((∃ value, ReadsWhole left.text value ∧ ReadsWhole right.text value) ↔
        canonicalRun left.digits = canonicalRun right.digits)) ∧
    ∀ (form otherForm : NumeralForm) (value other : Nat)
      (run otherRun : List Char) (source otherSource : String),
      IsRunOf form.radix.base value run →
      IsRunOf otherForm.radix.base other otherRun →
        ∃ datum otherDatum,
          (readInput ⟨form.opening ++ run, source⟩).1 = .ok datum ∧
          (readInput ⟨otherForm.opening ++ otherRun, otherSource⟩).1 =
            .ok otherDatum ∧
          (datum == otherDatum) = decide (value = other) := by
  refine ⟨?_, ?_, ?_, ?_⟩
  · intro form value run hrun
    exact hrun.readsWhole
  · intro text value hwhole
    obtain ⟨literal, rfl⟩ := (readsWhole_iff.1 hwhole).exists_literal
    exact ⟨literal, rfl, fun other hsame => Literal.text_injective hsame⟩
  · intro left right hform
    obtain ⟨form, leftDigits, hleft, hleftDigits⟩ := left
    obtain ⟨_, rightDigits, hright, hrightDigits⟩ := right
    cases hform
    rw [canonicalRun_eq_iff hleft hright hleftDigits hrightDigits]
    simp only [Literal.readsWhole_iff, Literal.value]
    constructor
    · rintro ⟨value, hvalue, hother⟩
      exact hvalue.trans hother.symm
    · intro hsame
      exact ⟨_, rfl, hsame.symm⟩
  · intro form otherForm value other run otherRun source otherSource hrun
      hotherRun
    refine ⟨_, _, (hrun.readsWhole source).1,
      (hotherRun.readsWhole otherSource).1, ?_⟩
    rw [Bool.eq_iff_iff, beq_iff_eq, decide_eq_true_iff, Datum.number.injEq,
      Nat.cast_inj]

/-- Zeros in front and the case of letters do not count, and neither does the
base. -/
theorem readsWhole_numeral_hexadecimal :
    ReadsWhole "#x0fF".toList 255 ∧
    (∃! literal : Literal, literal.text = "#x0fF".toList) ∧
    canonicalRun "0fF".toList = canonicalRun "00Ff".toList ∧
    ∃ datum otherDatum,
      (readInput (.ofString "#x0fF")).1 = .ok datum ∧
      (readInput (.ofString "#b11111111")).1 = .ok otherDatum ∧
      (datum == otherDatum) = true := by
  obtain ⟨hreads, hliteral, hruns, hcompare⟩ := readsWhole_numeral
  have hrun : IsRunOf 16 255 "0fF".toList := by
    refine ⟨1, ?_⟩
    exact .cons (.inl rfl) (.cons (.inl rfl) (.cons (.inr rfl) .nil))
  have hotherRun : IsRunOf 16 255 "00Ff".toList := by
    refine ⟨2, ?_⟩
    exact .cons (.inl rfl) (.cons (.inl rfl)
      (.cons (.inr rfl) (.cons (.inl rfl) .nil)))
  have hbinary : IsRunOf 2 255 "11111111".toList := by
    refine ⟨0, ?_⟩
    exact List.forall₂_same.2 fun _ _ => .inl rfl
  have hwhole := hreads (.lettered .hexadecimal) 255 _ hrun
  have hotherWhole := hreads (.lettered .hexadecimal) 255 _ hotherRun
  let left : Literal := ⟨.lettered .hexadecimal, "0fF".toList, by decide,
    List.all_eq_true.1 (by decide)⟩
  let right : Literal := ⟨.lettered .hexadecimal, "00Ff".toList, by decide,
    List.all_eq_true.1 (by decide)⟩
  exact ⟨hwhole, hliteral _ 255 hwhole,
    (hruns left right rfl).1 ⟨255, hwhole, hotherWhole⟩,
    hcompare (.lettered .hexadecimal) (.lettered .binary) 255 255 _ _ "lisp"
      "lisp" hrun hbinary⟩

end LispDatum.Reader
