import LispDatum.Json.Document
import LispDatum.Json.Escape
import LispDatum.Proofs.LongestRun
import LispDatum.Proofs.Positional
import LispDatum.Proofs.Printable

/-!
# JSON texts that are read as they were written

What is written between quotes is read back character by character, because an
escape tells where it ends and every other character stands for itself.  What is
written as a decimal numeral is read back as long as nothing that follows could
continue it, and as long as the reader allows for its number of digits.
-/

namespace LispDatum.Json

open LispDatum.Text LispDatum.Numeral
open LispDatum.Reader (StartsOutside startsOutside_cons takeWhile_append
  dropWhile_append)

/-! ## Strings -/

theorem hexDigit?_digitChar {digit : Nat} (hdigit : digit < 16) :
    hexDigit? digit.digitChar = some digit := by
  have hvalues : ∀ digit : Fin 16,
      hexDigit? digit.val.digitChar = some digit.val := by decide
  exact hvalues ⟨digit, hdigit⟩

/-- Four hexadecimal digits hold a code below U+10000. -/
theorem exists_hexCode_eq {code : Nat} (hcode : code < 0x10000) :
    ∃ a b c d, hexCode 4 code = [a, b, c, d] ∧
      codeUnit? a b c d = some code := by
  refine ⟨_, _, _, _, rfl, ?_⟩
  have hdigit (number : Nat) :
      hexDigit? (number % 16).digitChar = some (number % 16) :=
    hexDigit?_digitChar (Nat.mod_lt number (by decide))
  simp only [codeUnit?, hdigit, Option.bind_eq_bind, Option.bind_some,
    Option.pure_def, Option.some.injEq]
  omega

/-- A character that needs no escape stands for itself. -/
theorem readBody_cons {char : Char} (rest : List Char) (hquote : char ≠ '"')
    (hbackslash : char ≠ '\\') (hcontrol : ¬ char.toNat < 0x20) :
    readBody (char :: rest) = consChar char (readBody rest) := by
  rw [readBody.eq_def]
  split <;> simp_all

theorem readBody_backslash {char decoded : Char} (rest : List Char)
    (hcode : char ≠ 'u') (hdecoded : unescape? char = some decoded) :
    readBody ('\\' :: char :: rest) = consChar decoded (readBody rest) := by
  rw [readBody, hdecoded]
  intro a b c d others hchar
  exact absurd hchar hcode

theorem readBody_hexCode {char : Char} (rest : List Char)
    (hcontrol : char.toNat < 0x20) :
    readBody ('\\' :: 'u' :: (hexCode 4 char.toNat ++ rest)) =
      consChar char (readBody rest) := by
  have hcode : char.toNat < 0x10000 := by omega
  obtain ⟨a, b, c, d, hdigits, hunit⟩ := exists_hexCode_eq hcode
  have hhigh : isHighSurrogate char.toNat = false := by
    simp [isHighSurrogate]
    omega
  have hlow : isLowSurrogate char.toNat = false := by
    simp [isLowSurrogate]
    omega
  simp [hdigits, readBody, hunit, hhigh, hlow]

theorem readBody_escapeChar_append (char : Char) (rest : List Char) :
    readBody (escapeChar char ++ rest) = consChar char (readBody rest) := by
  rw [escapeChar]
  split_ifs with hself hbackspace htab hfeed hform hreturn hcontrol
  · rcases hself with rfl | rfl <;>
      exact readBody_backslash rest (by decide) rfl
  · exact readBody_backslash rest (by decide) (hbackspace ▸ rfl)
  · exact readBody_backslash rest (by decide) (htab ▸ rfl)
  · exact readBody_backslash rest (by decide) (hfeed ▸ rfl)
  · exact readBody_backslash rest (by decide) (hform ▸ rfl)
  · exact readBody_backslash rest (by decide) (hreturn ▸ rfl)
  · exact readBody_hexCode rest hcontrol
  · rw [not_or] at hself
    exact readBody_cons rest hself.1 hself.2 hcontrol

/-- The contents of a string are read back up to its closing quote. -/
theorem readBody_flatMap_escapeChar (text rest : List Char) :
    readBody (text.flatMap escapeChar ++ '"' :: rest) = some (text, rest) := by
  induction text with
  | nil => rfl
  | cons char text hind =>
    rw [List.flatMap_cons, List.append_assoc, readBody_escapeChar_append, hind]
    rfl

/-! ## Numerals -/

/-- What follows does not continue a numeral. -/
structure EndsNumeral (rest : List Char) : Prop where
  digit : StartsOutside Char.isDigit rest
  point : StartsOutside (· == '.') rest
  exponent : StartsOutside (fun char => char == 'e' || char == 'E') rest

theorem readDigits_append {digits rest : List Char} (hne : digits ≠ [])
    (hdigits : ∀ char ∈ digits, char.isDigit = true)
    (hrest : StartsOutside Char.isDigit rest) :
    readDigits (digits ++ rest) = some (digits, rest) := by
  rw [readDigits, takeWhile_append hdigits hrest,
    dropWhile_append hdigits hrest]
  cases digits with
  | nil => contradiction
  | cons first digits => rfl

theorem readWhole_decimalDigits_append (value : Nat) {rest : List Char}
    (hrest : StartsOutside Char.isDigit rest) :
    readWhole (decimalDigits value ++ rest) =
      some (decimalDigits value, rest) := by
  rw [readWhole, readDigits_append (decimalDigits_ne_nil value)
    (isDigit_of_mem_decimalDigits value) hrest]
  split
  · next second others after hread =>
    have hdigits := (Prod.mk.inj (Option.some.inj hread)).1
    have hzero : value = 0 := by
      apply eq_zero_of_head?_decimalDigits
      rw [hdigits, List.head?_cons]
    have hsingle : decimalDigits 0 = ['0'] := rfl
    rw [hzero, hsingle] at hdigits
    cases hdigits
  · rfl

theorem readFraction_of_ends {rest : List Char}
    (hpoint : StartsOutside (· == '.') rest) :
    readFraction rest = some ([], rest) := by
  rw [readFraction.eq_def]
  split
  · next after => simpa using startsOutside_cons.1 hpoint
  · rfl

theorem readExponent_of_ends {rest : List Char}
    (hexponent : StartsOutside (fun char => char == 'e' || char == 'E') rest) :
    readExponent rest = some (none, rest) := by
  rw [readExponent.eq_def]
  split
  · next after => simpa using startsOutside_cons.1 hexponent
  · next after => simpa using startsOutside_cons.1 hexponent
  · rfl

/-- Digits are read up to an exponent and with it, if there is one. -/
theorem readSigned_append_of_readExponent (limits : Limits) (sign : Int)
    (value : Nat) {rest after : List Char} {exponent : Option Int}
    (hdigit : StartsOutside Char.isDigit rest)
    (hpoint : StartsOutside (· == '.') rest)
    (hexponent : readExponent rest = some (exponent, after)) :
    readSigned limits sign (decimalDigits value ++ rest) =
      if limits.allowsDigits (sign < 0) (decimalDigits value).length then
        some (Magnitude.value ⟨decimalDigits value, [], exponent⟩ sign, after)
      else none := by
  simp [readSigned, readMagnitude, readWhole_decimalDigits_append value hdigit,
    readFraction_of_ends hpoint, hexponent]

theorem readSigned_decimalDigits_append (limits : Limits) (sign : Int)
    (value : Nat) {rest : List Char} (hrest : EndsNumeral rest) :
    readSigned limits sign (decimalDigits value ++ rest) =
      if limits.allowsDigits (sign < 0) (decimalDigits value).length then
        some (.integer (sign * value), rest)
      else none := by
  have hexponent := readExponent_of_ends hrest.exponent
  rw [readSigned_append_of_readExponent limits sign value hrest.digit
    hrest.point hexponent]
  simp [Magnitude.value, naturalOf_decimalDigits]

/-- A numeral without a sign starts with a digit. -/
theorem exists_decimalDigits_eq (value : Nat) :
    ∃ first others, decimalDigits value = first :: others ∧
      first.isDigit = true := by
  obtain ⟨first, others, hdigits⟩ :=
    List.exists_cons_of_ne_nil (decimalDigits_ne_nil value)
  exact ⟨first, others, hdigits, isDigit_of_mem_decimalDigits value first
    (by simp [hdigits])⟩

theorem readNumeral_of_isDigit (limits : Limits) {first : Char}
    (rest : List Char) (hdigit : first.isDigit = true) :
    readNumeral limits (first :: rest) =
      readSigned limits 1 (first :: rest) := by
  rw [readNumeral]
  rintro others heq
  cases heq
  contradiction

/-- What stands in front of the digits of an integer is read as its sign. -/
theorem exists_readNumeral_decimal_eq (limits : Limits) (value : Int) :
    ∃ sign : Int, sign * value.natAbs = value ∧ (sign < 0 ↔ value < 0) ∧
      ∀ rest : List Char,
        readNumeral limits ((decimal value).toList ++ rest) =
          readSigned limits sign (decimalDigits value.natAbs ++ rest) := by
  by_cases hsign : value < 0
  · refine ⟨-1, by omega, by omega, ?_⟩
    intro rest
    rw [decimal, if_pos hsign, String.toList_ofList, List.cons_append,
      readNumeral]
  · refine ⟨1, by omega, by omega, ?_⟩
    intro rest
    obtain ⟨first, others, hdigits, hfirst⟩ :=
      exists_decimalDigits_eq value.natAbs
    rw [decimal, if_neg hsign, String.toList_ofList, hdigits,
      List.cons_append, readNumeral_of_isDigit limits _ hfirst]

theorem readNumeral_decimal_append (limits : Limits) (value : Int)
    {rest : List Char} (hrest : EndsNumeral rest) :
    readNumeral limits ((decimal value).toList ++ rest) =
      if limits.allowsDigits (value < 0)
          (decimalDigits value.natAbs).length then
        some (.integer value, rest)
      else none := by
  obtain ⟨sign, hvalue, hsign, hread⟩ :=
    exists_readNumeral_decimal_eq limits value
  have hnegative : decide (sign < 0) = decide (value < 0) :=
    decide_eq_decide.2 hsign
  rw [hread, readSigned_decimalDigits_append limits _ _ hrest, hvalue,
    hnegative]

/-! ## Tokens -/

/-- Behind white space the text is taken apart one token at a time. -/
theorem tokens?_cons (limits : Limits) {first : Char} (rest : List Char)
    (hblank : isBlank first = false) :
    tokens? limits (first :: rest) =
      (nextToken limits (first :: rest)).bind fun read =>
        (tokens? limits read.2).map (read.1 :: ·) := by
  rw [tokens?, hblank]
  simp only [Bool.false_eq_true, if_false]
  -- the reader keeps the equation of its `match`, which stops a rewrite
  split
  · next hread => rw [hread, Option.bind_none]
  · next hread => rw [hread, Option.bind_some]

section Tokens

variable (limits : Limits) (rest : List Char)

@[simp]
theorem tokens?_openObject :
    tokens? limits ('\x7b' :: rest) =
      (tokens? limits rest).map (.openObject :: ·) :=
  tokens?_cons limits rest rfl

@[simp]
theorem tokens?_closeObject :
    tokens? limits ('\x7d' :: rest) =
      (tokens? limits rest).map (.closeObject :: ·) :=
  tokens?_cons limits rest rfl

@[simp]
theorem tokens?_colon :
    tokens? limits (':' :: rest) = (tokens? limits rest).map (.colon :: ·) :=
  tokens?_cons limits rest rfl

@[simp]
theorem tokens?_comma :
    tokens? limits (',' :: rest) = (tokens? limits rest).map (.comma :: ·) :=
  tokens?_cons limits rest rfl

theorem tokens?_stringText_append (text : String) :
    tokens? limits ((stringText text).toList ++ rest) =
      (tokens? limits rest).map (.string text :: ·) := by
  have hbody := readBody_flatMap_escapeChar text.toList rest
  rw [stringText, String.toList_ofList, stringChars, List.cons_append,
    List.cons_append, List.append_assoc, List.singleton_append,
    tokens?_cons limits _ rfl, nextToken, hbody, Option.map_some,
    Option.bind_some, String.ofList_toList]

theorem tokens?_true :
    tokens? limits ("true".toList ++ rest) =
      (tokens? limits rest).map (.scalar (.bool true) :: ·) :=
  tokens?_cons limits _ rfl

theorem tokens?_false :
    tokens? limits ("false".toList ++ rest) =
      (tokens? limits rest).map (.scalar (.bool false) :: ·) :=
  tokens?_cons limits _ rfl

end Tokens

/-! ## Numerals as tokens -/

/-- No word of JSON starts with a digit, or with a minus sign and a digit. -/
theorem readWord_of_isDigit {first : Char} (rest : List Char)
    (hdigit : first.isDigit = true) :
    readWord (first :: rest) = none ∧
      readWord ('-' :: first :: rest) = none := by
  have hne {letter : Char} (hletter : letter.isDigit = false) :
      letter ≠ first := by
    rintro rfl
    rw [hdigit] at hletter
    contradiction
  simp [readWord, words, afterWord?, hne]

/-- A text that starts like a numeral and with no word is read as a numeral
first. -/
theorem tokens?_of_isDigit (limits : Limits) {first : Char} {rest : List Char}
    (hfirst : first.isDigit = true ∨ first = '-')
    (hword : readWord (first :: rest) = none) :
    tokens? limits (first :: rest) =
      (readNumeral limits (first :: rest)).bind fun read =>
        (tokens? limits read.2).map (.scalar read.1 :: ·) := by
  have hne {mark : Char} (hmark : mark.isDigit = false) (hminus : mark ≠ '-') :
      first ≠ mark := by
    rintro rfl
    rcases hfirst with hdigit | hdash
    · rw [hdigit] at hmark
      contradiction
    · exact hminus hdash
  have hblank : isBlank first = false := by simp [isBlank, hne]
  have htoken : nextToken limits (first :: rest) =
      (readNumeral limits (first :: rest)).map
        fun read => (.scalar read.1, read.2) := by
    rw [nextToken, readScalar, hword] <;> simp [hne]
  rw [tokens?_cons limits rest hblank, htoken, Option.bind_map]
  rfl

/-- The numeral of an integer starts with a digit, perhaps behind a minus. -/
theorem exists_decimal_eq (value : Int) :
    ∃ first others, first.isDigit = true ∧
      ((decimal value).toList = first :: others ∨
        (decimal value).toList = '-' :: first :: others) := by
  obtain ⟨first, others, hdigits, hfirst⟩ :=
    exists_decimalDigits_eq value.natAbs
  refine ⟨first, others, hfirst, ?_⟩
  rw [decimal, ← hdigits]
  split_ifs with hsign
  · exact .inr String.toList_ofList
  · exact .inl String.toList_ofList

/-- A text that starts with an integer is read as a numeral first. -/
theorem tokens?_decimal_eq (limits : Limits) (value : Int) (rest : List Char) :
    tokens? limits ((decimal value).toList ++ rest) =
      (readNumeral limits ((decimal value).toList ++ rest)).bind fun read =>
        (tokens? limits read.2).map (.scalar read.1 :: ·) := by
  obtain ⟨first, others, hfirst, hdecimal | hdecimal⟩ :=
    exists_decimal_eq value
  · rw [hdecimal]
    exact tokens?_of_isDigit limits (.inl hfirst)
      (readWord_of_isDigit (others ++ rest) hfirst).1
  · rw [hdecimal]
    exact tokens?_of_isDigit limits (.inr rfl)
      (readWord_of_isDigit (others ++ rest) hfirst).2

theorem tokens?_decimal_append (limits : Limits) (value : Int)
    {rest : List Char} (hrest : EndsNumeral rest) :
    tokens? limits ((decimal value).toList ++ rest) =
      if limits.allowsDigits (value < 0)
          (decimalDigits value.natAbs).length then
        (tokens? limits rest).map (.scalar (.integer value) :: ·)
      else none := by
  rw [tokens?_decimal_eq, readNumeral_decimal_append limits value hrest]
  split_ifs <;> rfl

/-! ## Control characters -/

/-- All characters are from U+0020 up, so the text is a single line. -/
def HasNoControls (text : List Char) : Prop :=
  ∀ char ∈ text, 0x20 ≤ char.toNat

theorem hasNoControls_append {left right : List Char} :
    HasNoControls (left ++ right) ↔
      HasNoControls left ∧ HasNoControls right :=
  List.forall_mem_append

theorem hasNoControls_cons {char : Char} {text : List Char} :
    HasNoControls (char :: text) ↔ 0x20 ≤ char.toNat ∧ HasNoControls text :=
  List.forall_mem_cons

theorem hasNoControls_of_isPrintableText {text : List Char}
    (hprintable : IsPrintableText text) : HasNoControls text :=
  fun char hmem => le_toNat_of_isPrintable (hprintable char hmem)

theorem hasNoControls_escapeChar (char : Char) :
    HasNoControls (escapeChar char) := by
  rw [escapeChar]
  split_ifs with hself hbackspace htab hfeed hform hreturn hcontrol
  · rcases hself with rfl | rfl <;> simp [HasNoControls]
  iterate 5 · simp [HasNoControls]
  · rw [hasNoControls_cons, hasNoControls_cons]
    exact ⟨by decide, by decide,
      hasNoControls_of_isPrintableText (isPrintableText_hexCode 4 char.toNat)⟩
  · simpa [HasNoControls] using hcontrol

/-- Every control character of a string is escaped. -/
theorem hasNoControls_stringText (text : String) :
    HasNoControls (stringText text).toList := by
  have hcontents : HasNoControls (text.toList.flatMap escapeChar) := by
    intro char hmem
    obtain ⟨source, -, hchar⟩ := List.mem_flatMap.1 hmem
    exact hasNoControls_escapeChar source char hchar
  rw [stringText, String.toList_ofList, stringChars, hasNoControls_append,
    hasNoControls_cons]
  exact ⟨⟨by decide, hcontents⟩, by simp [HasNoControls]⟩

end LispDatum.Json
