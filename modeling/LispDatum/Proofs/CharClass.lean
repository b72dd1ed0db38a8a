import LispDatum.Numeral
import LispDatum.Reader.Radix

/-!
# How the classes of characters relate

Whether a text is an identifier, a string or a numeral is decided by the class
of its first characters, so the reader is unambiguous only because these classes
are nested or disjoint in the right places.  Letters of every script matter here
only through the ASCII characters they contain.
-/

namespace LispDatum.Reader

open LispDatum.Numeral LispDatum.Unicode

/-- What holds of a class of characters is decided by going through them. -/
theorem of_contains {chars : List Char} {test : Char → Bool}
    (hall : chars.all test = true) {char : Char}
    (hmem : chars.contains char = true) : test char = true := by
  apply List.all_eq_true.1 hall
  exact List.contains_iff_mem.1 hmem

theorem isConstituent_of_isWordChar {char : Char}
    (hword : isWordChar char = true) : isConstituent char = true := by
  rw [isConstituent, hword, Bool.true_or]

theorem isConstituent_of_isInitial {char : Char}
    (hinitial : isInitial char = true) : isConstituent char = true := by
  rw [isInitial, Bool.or_eq_true] at hinitial
  rcases hinitial with hletter | hsymbol
  · simp [isConstituent, isWordChar, hletter]
  · simp [isConstituent, hsymbol]

theorem isHexDigit_of_isDigit {char : Char} (hdigit : isDigit char = true) :
    isHexDigit char = true := by
  have hsubset : digits.all isHexDigit = true := by decide
  exact of_contains hsubset hdigit

theorem isWordChar_of_isHexDigit {char : Char}
    (hdigit : isHexDigit char = true) : isWordChar char = true := by
  have hsubset : hexDigits.all isWordChar = true := by decide
  exact of_contains hsubset hdigit

theorem isConstituent_of_isDigit {char : Char} (hdigit : isDigit char = true) :
    isConstituent char = true :=
  isConstituent_of_isWordChar
    (isWordChar_of_isHexDigit (isHexDigit_of_isDigit hdigit))

/-- No identifier starts with a digit, so a decimal numeral is never mistaken
for one. -/
theorem isInitial_of_isDigit {char : Char} (hdigit : isDigit char = true) :
    isInitial char = false := by
  have hdisjoint : digits.all (fun char => !isInitial char) = true := by decide
  have houtside := of_contains hdisjoint hdigit
  rwa [Bool.not_eq_true'] at houtside

@[simp]
theorem isInitial_numberSign : isInitial '#' = true := by decide

@[simp]
theorem isDigit_numberSign : isDigit '#' = false := by decide

@[simp]
theorem isInitial_quote : isInitial '"' = false := by decide

@[simp]
theorem isDigit_quote : isDigit '"' = false := by decide

namespace Radix

@[simp]
theorem isLetter_letter (radix : Radix) : isLetter radix.letter = true := by
  cases radix <;> decide

theorem ofLetter?_eq_some_iff {letter : Char} {radix : Radix} :
    ofLetter? letter = some radix ↔ letter = radix.letter := by
  constructor
  · intro hfound
    have hmatches := List.find?_some hfound
    exact (eq_of_beq hmatches).symm
  · rintro rfl
    cases radix <;> decide

@[simp]
theorem ofLetter?_letter (radix : Radix) :
    ofLetter? radix.letter = some radix :=
  ofLetter?_eq_some_iff.2 rfl

theorem ofLetter?_eq_none_iff {letter : Char} :
    ofLetter? letter = none ↔ ∀ radix : Radix, letter ≠ radix.letter := by
  rw [Option.eq_none_iff_forall_ne_some]
  exact forall_congr' fun radix => not_congr ofLetter?_eq_some_iff

theorem isHexDigit_of_isDigit {radix : Radix} {char : Char}
    (hdigit : radix.isDigit char = true) : isHexDigit char = true := by
  have hsubset : radix.digits.all isHexDigit = true := by
    cases radix <;> decide
  exact of_contains hsubset hdigit

theorem isWordChar_of_isDigit {radix : Radix} {char : Char}
    (hdigit : radix.isDigit char = true) : isWordChar char = true :=
  isWordChar_of_isHexDigit (isHexDigit_of_isDigit hdigit)

end Radix

/-- Every hexadecimal digit has a value, so no run of checked digits is refused
when its value is taken. -/
theorem isSome_digitValue? {char : Char} (hdigit : isHexDigit char = true) :
    (digitValue? char).isSome = true := by
  have hvalues :
      hexDigits.all (fun char => (digitValue? char).isSome) = true := by
    decide
  exact of_contains hvalues hdigit

end LispDatum.Reader
