import LispDatum.Proofs.LongestRun
import LispDatum.Proofs.Reading
import LispDatum.Proofs.StringBody

/-!
# The grammar of an expression

`Reads` says what a text reads as by the way the text is put together: one
constructor for each form of a datum and one for each cause of refusal, every
one of them with the parts of the text in view.  Wherever a part is a longest
run, what follows it starts outside the class of the run.  `reads_iff` says that
the grammar is total and unambiguous and agrees with the reader, so that facts
about the reader become case analyses on how a text is composed.
-/

namespace LispDatum.Reader

open LispDatum.Numeral LispDatum.Unicode

theorem StartsOutside.of_isConstituent {rest : List Char}
    (hrest : StartsOutside isConstituent rest) :
    StartsOutside isWordChar rest :=
  hrest.mono fun _ => isConstituent_of_isWordChar

/-! ## Identifiers and radix literals -/

/-- A word that is a numeral rather than an identifier, or would be one if it
were not defective. -/
inductive RadixLike : List Char → Prop where
  | bare (radix : Radix) : RadixLike ['#', radix.letter]
  | numeral (radix : Radix) (digit : Char) (rest : List Char)
      (hdigit : isHexDigit digit = true) :
      RadixLike ('#' :: radix.letter :: digit :: rest)
  | unknown (letter digit : Char) (rest : List Char)
      (hletter : isLetter letter = true)
      (hradix : ∀ radix : Radix, letter ≠ radix.letter)
      (hdigit : isDigit digit = true) :
      RadixLike ('#' :: letter :: digit :: rest)

inductive Denotes : List Char → Datum → Prop where
  | truth : Denotes ['#', 't'] (.bool true)
  | falsity : Denotes ['#', 'f'] (.bool false)
  | atom (name : List Char) (htruth : name ≠ ['#', 't'])
      (hfalsity : name ≠ ['#', 'f']) :
      Denotes name (.atom (String.ofList name))

theorem denotes_iff {name : List Char} {datum : Datum} :
    Denotes name datum ↔ datumOfName name = datum := by
  constructor
  · intro hdenotes
    cases hdenotes with
    | truth => rfl
    | falsity => rfl
    | atom _ htruth hfalsity =>
      rw [datumOfName, if_neg htruth, if_neg hfalsity]
  · intro hdatum
    subst hdatum
    rw [datumOfName]
    by_cases htruth : name = ['#', 't']
    · rw [if_pos htruth, htruth]
      exact .truth
    · by_cases hfalsity : name = ['#', 'f']
      · rw [if_neg htruth, if_pos hfalsity, hfalsity]
        exact .falsity
      · rw [if_neg htruth, if_neg hfalsity]
        exact .atom name htruth hfalsity

theorem isConstituent_of_isLetter {char : Char}
    (hletter : isLetter char = true) : isConstituent char = true := by
  simp [isConstituent, isWordChar, hletter]

theorem startsRadixLiteral_iff {text : List Char} :
    startsRadixLiteral text = true ↔ ∃ letter rest,
      text = '#' :: letter :: rest ∧
        ((∃ radix : Radix, letter = radix.letter ∧ ∀ follow ∈ rest.head?,
            isHexDigit follow = true ∨ isConstituent follow = false) ∨
          (isLetter letter = true ∧ (∀ radix : Radix, letter ≠ radix.letter) ∧
            ∃ digit ∈ rest.head?, isDigit digit = true)) := by
  constructor
  · intro hliteral
    rw [startsRadixLiteral.eq_def] at hliteral
    split at hliteral
    · next letter rest =>
      refine ⟨letter, rest, rfl, ?_⟩
      cases hradix : Radix.ofLetter? letter with
      | none =>
        simp only [hradix, Option.isSome_none, Bool.false_eq_true, if_false,
          Bool.and_eq_true, Option.any_eq_true] at hliteral
        obtain ⟨hletter, digit, hhead, hdigit⟩ := hliteral
        exact .inr ⟨hletter, Radix.ofLetter?_eq_none_iff.1 hradix, digit,
          hhead, hdigit⟩
      | some radix =>
        simp only [hradix, Option.isSome_some, if_true, Option.all_eq_true,
          Bool.or_eq_true, Bool.not_eq_true'] at hliteral
        exact .inl ⟨radix, Radix.ofLetter?_eq_some_iff.1 hradix, hliteral⟩
    · contradiction
  · rintro ⟨letter, rest, rfl, ⟨radix, rfl, hfollow⟩ |
      ⟨hletter, hradix, digit, hhead, hdigit⟩⟩
    · simpa [startsRadixLiteral, Option.all_eq_true] using hfollow
    · simp only [startsRadixLiteral, Radix.ofLetter?_eq_none_iff.2 hradix,
        hletter, Option.mem_def.1 hhead, Option.any_some, hdigit]
      rfl

theorem startsRadixLiteral_of_head?_ne {text : List Char}
    (hhead : text.head? ≠ some '#') : startsRadixLiteral text = false := by
  rw [← Bool.not_eq_true, startsRadixLiteral_iff]
  rintro ⟨letter, rest, rfl, -⟩
  exact hhead rfl

/-- A name holds the number sign and the letter that the text begins with, since
both continue a name. -/
theorem exists_eq_cons_cons_append {name rest after : List Char} {letter : Char}
    (hrest : StartsOutside isConstituent rest)
    (hletter : isConstituent letter = true)
    (htext : name ++ rest = '#' :: letter :: after) :
    ∃ others, name = '#' :: letter :: others ∧ after = others ++ rest := by
  match name, htext with
  | [], htext =>
    subst htext
    have hsign := startsOutside_cons.1 hrest
    rw [isConstituent_of_isInitial isInitial_numberSign] at hsign
    cases hsign
  | [first], htext =>
    obtain ⟨rfl, rfl⟩ := List.cons.inj htext
    rw [startsOutside_cons.1 hrest] at hletter
    cases hletter
  | first :: second :: others, htext =>
    simp only [List.cons_append, List.cons.injEq] at htext
    exact ⟨others, by rw [htext.1, htext.2.1], htext.2.2.symm⟩

theorem radixLike_of_startsRadixLiteral_append {name rest : List Char}
    (hname : ∀ char ∈ name, isConstituent char = true)
    (hrest : StartsOutside isConstituent rest)
    (hliteral : startsRadixLiteral (name ++ rest) = true) : RadixLike name := by
  obtain ⟨letter, after, htext, hkind⟩ := startsRadixLiteral_iff.1 hliteral
  have hletter : isConstituent letter = true := by
    apply isConstituent_of_isLetter
    rcases hkind with ⟨radix, rfl, -⟩ | ⟨hletter, -, -⟩
    · exact radix.isLetter_letter
    · exact hletter
  obtain ⟨others, rfl, rfl⟩ := exists_eq_cons_cons_append hrest hletter htext
  cases others with
  | nil =>
    rcases hkind with ⟨radix, rfl, -⟩ | ⟨-, -, digit, hhead, hdigit⟩
    · exact .bare radix
    · have hword : isConstituent digit = true := by
        apply isConstituent_of_isWordChar
        apply isWordChar_of_isHexDigit
        exact isHexDigit_of_isDigit hdigit
      rw [hrest digit hhead] at hword
      contradiction
  | cons digit others =>
    have hdigit : isConstituent digit = true := hname digit (by simp)
    rcases hkind with ⟨radix, rfl, hfollow⟩ |
      ⟨hletter, hradix, other, hhead, hother⟩
    · rcases hfollow digit rfl with hhex | houtside
      · exact .numeral radix digit others hhex
      · rw [houtside] at hdigit
        contradiction
    · cases hhead
      exact .unknown letter digit others hletter hradix hother

theorem RadixLike.startsRadixLiteral_append {name rest : List Char}
    (hlike : RadixLike name) (hrest : StartsOutside isConstituent rest) :
    startsRadixLiteral (name ++ rest) = true := by
  rw [startsRadixLiteral_iff]
  cases hlike with
  | bare radix =>
    refine ⟨_, rest, rfl, .inl ⟨radix, rfl, ?_⟩⟩
    intro follow hfollow
    exact .inr (hrest follow hfollow)
  | numeral radix digit others hdigit =>
    exact ⟨_, _, rfl, .inl ⟨radix, rfl, by simp [hdigit]⟩⟩
  | unknown letter digit others hletter hradix hdigit =>
    exact ⟨_, _, rfl, .inr ⟨hletter, hradix, digit, rfl, hdigit⟩⟩

/-- Three characters decide whether the longest word at the beginning of a text
is radix-like. -/
theorem startsRadixLiteral_append_iff {name rest : List Char}
    (hname : ∀ char ∈ name, isConstituent char = true)
    (hrest : StartsOutside isConstituent rest) :
    startsRadixLiteral (name ++ rest) = true ↔ RadixLike name := by
  constructor
  · exact radixLike_of_startsRadixLiteral_append hname hrest
  · intro hlike
    exact hlike.startsRadixLiteral_append hrest

/-! ## Texts and what they read as -/

/-- How a text is composed and what it reads as. -/
inductive Reads : List Char → Reading → Prop where
  | identifier (first : Char) (others rest : List Char) (datum : Datum)
      (hfirst : isInitial first = true)
      (hothers : ∀ char ∈ others, isConstituent char = true)
      (hrest : StartsOutside isConstituent rest)
      (hradix : ¬ RadixLike (first :: others))
      (hdatum : Denotes (first :: others) datum) :
      Reads (first :: others ++ rest) (.accepted datum (others.length + 1))
  | string (items : List Item) (rest : List Char) :
      Reads ('"' :: (Item.spell items ++ '"' :: rest))
        (.accepted (.string (String.ofList (items.map Item.value)))
          ((Item.spell items).length + 2))
  | decimalNumeral (first : Char) (others rest : List Char)
      (hdigits : ∀ char ∈ first :: others, isDigit char = true)
      (hrest : StartsOutside isDigit rest) :
      Reads (first :: others ++ rest)
        (.accepted (.number (positional 10 (first :: others)))
          (others.length + 1))
  | radixNumeral (radix : Radix) (first : Char) (others rest : List Char)
      (hdigits : ∀ char ∈ first :: others, radix.isDigit char = true)
      (hrest : StartsOutside isWordChar rest) :
      Reads ('#' :: radix.letter :: (first :: others ++ rest))
        (.accepted (.number (positional radix.base (first :: others)))
          (others.length + 3))
  | noExpression (text : List Char)
      (hinitial : StartsOutside isInitial text)
      (hquote : text.head? ≠ some '"')
      (hdigit : StartsOutside isDigit text) :
      Reads text (.refused (.noExpression text.head?) 0 0)
  | openString (items : List Item) :
      Reads ('"' :: Item.spell items)
        (.refused .openString ((Item.spell items).length + 1)
          ((Item.spell items).length + 1))
  | openEscape (items : List Item) :
      Reads ('"' :: (Item.spell items ++ ['\\']))
        (.refused .openEscape ((Item.spell items).length + 2)
          ((Item.spell items).length + 2))
  | badEscape (items : List Item) (char : Char) (rest : List Char)
      (hchar : ∀ escape : Escape, char ≠ escape.letter) :
      Reads ('"' :: (Item.spell items ++ '\\' :: char :: rest))
        (.refused (.badEscape char) ((Item.spell items).length + 2)
          ((Item.spell items).length + 2))
  | unknownRadix (letter digit : Char) (rest : List Char)
      (hletter : isLetter letter = true)
      (hradix : ∀ radix : Radix, letter ≠ radix.letter)
      (hdigit : isDigit digit = true) :
      Reads ('#' :: letter :: digit :: rest)
        (.refused (.badRadix (some letter)) 1 1)
  | noDigits (radix : Radix) (rest : List Char)
      (hrest : StartsOutside isConstituent rest) :
      Reads ('#' :: radix.letter :: rest) (.refused (.noDigits radix) 2 2)
  | badDigit (radix : Radix) (digits : List Char) (char : Char)
      (rest : List Char)
      (hdigits : ∀ digit ∈ digits, radix.isDigit digit = true)
      (hchar : radix.isDigit char = false) (hword : isWordChar char = true)
      (hfirst : ∀ first ∈ (digits ++ [char]).head?, isHexDigit first = true) :
      Reads ('#' :: radix.letter :: (digits ++ char :: rest))
        (.refused (.badDigit radix char) (digits.length + 2)
          (digits.length + 3 + (rest.takeWhile isWordChar).length))

theorem reading_of_startsAtom {text : List Char}
    (hatom : startsAtom text = true)
    (hliteral : startsRadixLiteral text = false) :
    reading text = .accepted (datumOfName (text.take (atomLength text)))
      (atomLength text) := by
  simp [reading, readingBy, atomReading?, hatom, hliteral]

theorem reading_quote (rest : List Char) :
    reading ('"' :: rest) =
      match Body.scan rest with
      | .closed contents length =>
        .accepted (.string (String.ofList contents)) (1 + length)
      | .broken cause length => .refused cause (1 + length) (1 + length) := by
  have hatom : startsAtom ('"' :: rest) = false := by simp [startsAtom]
  simp only [reading, readingBy, atomReading?, hatom, Bool.false_and,
    Bool.false_eq_true, if_false, List.findSome?_cons, stringReading?]
  cases Body.scan rest <;> rfl

theorem reading_of_startsRadixLiteral {text : List Char}
    (hliteral : startsRadixLiteral text = true) :
    reading text = radixReading text := by
  obtain ⟨letter, rest, rfl, -⟩ := startsRadixLiteral_iff.1 hliteral
  simp [reading, readingBy, atomReading?, hliteral, stringReading?,
    numberReading?]

theorem reading_radix (radix : Radix) {rest : List Char}
    (hfollow : ∀ follow ∈ rest.head?,
      isHexDigit follow = true ∨ isConstituent follow = false) :
    reading ('#' :: radix.letter :: rest) =
      digitsReading radix (rest.takeWhile isWordChar) := by
  have hliteral : startsRadixLiteral ('#' :: radix.letter :: rest) = true :=
    startsRadixLiteral_iff.2 ⟨_, rest, rfl, .inl ⟨radix, rfl, hfollow⟩⟩
  rw [reading_of_startsRadixLiteral hliteral]
  simp [radixReading]

theorem digitsReading_of_isDigit {radix : Radix} {first : Char}
    {others : List Char}
    (hdigits : ∀ char ∈ first :: others, radix.isDigit char = true) :
    digitsReading radix (first :: others) =
      .accepted (.number (positional radix.base (first :: others)))
        (others.length + 3) := by
  rw [digitsReading, List.dropWhile_eq_nil_iff.2 hdigits]
  simp
  omega

theorem digitsReading_append {radix : Radix} {digits : List Char} {char : Char}
    (rest : List Char)
    (hdigits : ∀ digit ∈ digits, radix.isDigit digit = true)
    (hchar : radix.isDigit char = false) :
    digitsReading radix (digits ++ char :: rest) =
      .refused (.badDigit radix char) (digits.length + 2)
        (digits.length + 3 + rest.length) := by
  have hstop : StartsOutside radix.isDigit (char :: rest) :=
    startsOutside_cons.2 hchar
  rw [digitsReading, dropWhile_append hdigits hstop,
    takeWhile_append hdigits hstop]
  simp
  omega

/-- Digits of a radix and one more letter or digit belong to one run. -/
theorem takeWhile_digits_append {radix : Radix} {digits rest : List Char}
    {char : Char} (hdigits : ∀ digit ∈ digits, radix.isDigit digit = true)
    (hword : isWordChar char = true) :
    (digits ++ char :: rest).takeWhile isWordChar =
      digits ++ char :: rest.takeWhile isWordChar := by
  rw [List.takeWhile_append_of_pos fun digit hmem =>
      Radix.isWordChar_of_isDigit (hdigits digit hmem),
    List.takeWhile_cons_of_pos hword]

theorem reading_of_isDigit {first : Char} {others : List Char}
    (hdigit : isDigit first = true) :
    reading (first :: others) =
      .accepted (.number (positional 10 ((first :: others).takeWhile isDigit)))
        ((first :: others).takeWhile isDigit).length := by
  have hsign : first ≠ '#' := by
    rintro rfl
    rw [isDigit_numberSign] at hdigit
    contradiction
  have hquote : first ≠ '"' := by
    rintro rfl
    rw [isDigit_quote] at hdigit
    contradiction
  have hliteral : startsRadixLiteral (first :: others) = false :=
    startsRadixLiteral_of_head?_ne (by simpa using hsign)
  simp [reading, readingBy, atomReading?, startsAtom,
    isInitial_of_isDigit hdigit, stringReading?, hquote, numberReading?,
    hliteral, hdigit]

theorem reading_of_startsOutside {text : List Char}
    (hinitial : StartsOutside isInitial text) (hquote : text.head? ≠ some '"')
    (hdigit : StartsOutside isDigit text) :
    reading text = .refused (.noExpression text.head?) 0 0 := by
  cases text with
  | nil => rfl
  | cons first others =>
    rw [startsOutside_cons] at hinitial hdigit
    have hsign : first ≠ '#' := by
      rintro rfl
      rw [isInitial_numberSign] at hinitial
      contradiction
    have hliteral : startsRadixLiteral (first :: others) = false :=
      startsRadixLiteral_of_head?_ne (by simpa using hsign)
    have hfirst : first ≠ '"' := by simpa using hquote
    simp [reading, readingBy, atomReading?, startsAtom, hinitial,
      stringReading?, hfirst, numberReading?, hliteral, hdigit]

/-- The grammar tells what the reader does. -/
theorem Reads.reading_eq {text : List Char} {outcome : Reading}
    (hreads : Reads text outcome) : reading text = outcome := by
  cases hreads with
  | identifier first others rest datum hfirst hothers hrest hradix hdatum =>
    have hname : ∀ char ∈ first :: others, isConstituent char = true := by
      simpa [isConstituent_of_isInitial hfirst] using hothers
    have hatom : startsAtom (first :: others ++ rest) = true := by
      simp [startsAtom, hfirst]
    have hliteral : startsRadixLiteral (first :: others ++ rest) = false := by
      rw [← Bool.not_eq_true, startsRadixLiteral_append_iff hname hrest]
      exact hradix
    have hlength : atomLength (first :: others ++ rest) =
        (first :: others).length := by
      simp [atomLength, takeWhile_append hothers hrest, Nat.add_comm]
    rw [reading_of_startsAtom hatom hliteral, hlength,
      List.take_left' rfl, denotes_iff.1 hdatum, List.length_cons]
  | string items rest =>
    rw [reading_quote, Body.scan_spell_append]
    simp [Body.scan, Body.prepend]
    omega
  | decimalNumeral first others rest hdigits hrest =>
    rw [List.cons_append, reading_of_isDigit (hdigits first (by simp)),
      ← List.cons_append, takeWhile_append hdigits hrest, List.length_cons]
  | radixNumeral radix first others rest hdigits hrest =>
    have hword : ∀ char ∈ first :: others, isWordChar char = true :=
      fun char hmem => Radix.isWordChar_of_isDigit (hdigits char hmem)
    have hfirst := Radix.isHexDigit_of_isDigit (hdigits first (by simp))
    rw [reading_radix radix (by simp [hfirst]), takeWhile_append hword hrest,
      digitsReading_of_isDigit hdigits]
  | noExpression text hinitial hquote hdigit =>
    exact reading_of_startsOutside hinitial hquote hdigit
  | openString items =>
    rw [reading_quote, ← List.append_nil (Item.spell items),
      Body.scan_spell_append]
    simp [Body.scan, Body.prepend]
    omega
  | openEscape items =>
    rw [reading_quote, Body.scan_spell_append]
    simp [Body.scan, Body.prepend]
    omega
  | badEscape items char rest hchar =>
    rw [reading_quote, Body.scan_spell_append]
    simp [Body.scan, Escape.unescape?_eq_none_iff.2 hchar, Body.prepend]
    omega
  | unknownRadix letter digit rest hletter hradix hdigit =>
    have hliteral : startsRadixLiteral ('#' :: letter :: digit :: rest) = true :=
      startsRadixLiteral_iff.2
        ⟨letter, _, rfl, .inr ⟨hletter, hradix, digit, rfl, hdigit⟩⟩
    rw [reading_of_startsRadixLiteral hliteral]
    simp [radixReading, Radix.ofLetter?_eq_none_iff.2 hradix]
  | noDigits radix rest hrest =>
    rw [reading_radix radix fun follow hmem => .inr (hrest follow hmem),
      hrest.of_isConstituent.takeWhile_eq_nil]
    rfl
  | badDigit radix digits char rest hdigits hchar hword hfirst =>
    have hfollow : ∀ follow ∈ (digits ++ char :: rest).head?,
        isHexDigit follow = true ∨ isConstituent follow = false := by
      intro follow hmem
      cases digits <;> exact .inl (hfirst follow (by simpa using hmem))
    rw [reading_radix radix hfollow, takeWhile_digits_append hdigits hword,
      digitsReading_append _ hdigits hchar]

/-- A radix letter before a hexadecimal digit opens a numeral, good or bad. -/
theorem exists_reads_radix (radix : Radix) {digit : Char} (rest : List Char)
    (hdigit : isHexDigit digit = true) :
    ∃ outcome, Reads ('#' :: radix.letter :: digit :: rest) outcome := by
  obtain ⟨digits, after, hsplit, hdigits, hafter⟩ :=
    exists_run radix.isDigit (digit :: rest)
  cases digits with
  | nil =>
    rw [List.nil_append] at hsplit
    subst hsplit
    exact ⟨_, .badDigit radix [] digit rest (by simp)
      (startsOutside_cons.1 hafter) (isWordChar_of_isHexDigit hdigit)
      (by simp [hdigit])⟩
  | cons first digits =>
    have hfirst : isHexDigit first = true := by
      obtain ⟨rfl, -⟩ := List.cons.inj hsplit
      exact hdigit
    rw [hsplit]
    by_cases hword : StartsOutside isWordChar after
    · exact ⟨_, .radixNumeral radix first digits after hdigits hword⟩
    · cases after with
      | nil => exact absurd (startsOutside_nil _) hword
      | cons char after =>
        rw [startsOutside_cons, Bool.not_eq_false] at hword
        exact ⟨_, .badDigit radix (first :: digits) char after hdigits
          (startsOutside_cons.1 hafter) hword (by simp [hfirst])⟩

theorem exists_reads_string (others : List Char) :
    ∃ outcome, Reads ('"' :: others) outcome := by
  obtain ⟨items, rest, rfl, hrest⟩ := exists_spell_append others
  cases hrest with
  | closed rest => exact ⟨_, .string items rest⟩
  | ended =>
    rw [List.append_nil]
    exact ⟨_, .openString items⟩
  | endedEscape => exact ⟨_, .openEscape items⟩
  | badEscape char rest hchar =>
    rw [Escape.unescape?_eq_none_iff] at hchar
    exact ⟨_, .badEscape items char rest hchar⟩

/-- A longest word is an identifier or opens a radix literal, good or bad. -/
theorem exists_reads_word {first : Char} (others : List Char)
    (hinitial : isInitial first = true) :
    ∃ outcome, Reads (first :: others) outcome := by
  obtain ⟨name, rest, rfl, hname, hrest⟩ := exists_run isConstituent others
  by_cases hradix : RadixLike (first :: name)
  · cases hradix with
    | bare radix => exact ⟨_, .noDigits radix rest hrest⟩
    | numeral radix second others hsecond =>
      exact exists_reads_radix radix (others ++ rest) hsecond
    | unknown letter second others hletter hradix hsecond =>
      exact ⟨_, .unknownRadix letter second (others ++ rest) hletter hradix
        hsecond⟩
  · exact ⟨_, .identifier first name rest _ hinitial hname hrest hradix
      (denotes_iff.2 rfl)⟩

/-- Every text is composed in one of the ways of the grammar. -/
theorem exists_reads (text : List Char) : ∃ outcome, Reads text outcome := by
  cases text with
  | nil => exact ⟨_, .noExpression [] (startsOutside_nil _) (by simp)
      (startsOutside_nil _)⟩
  | cons first others =>
    by_cases hquote : first = '"'
    · subst hquote
      exact exists_reads_string others
    by_cases hdigit : isDigit first = true
    · obtain ⟨run, rest, rfl, hrun, hrest⟩ := exists_run isDigit others
      have hdigits : ∀ char ∈ first :: run, isDigit char = true := by
        simpa [hdigit] using hrun
      exact ⟨_, .decimalNumeral first run rest hdigits hrest⟩
    by_cases hinitial : isInitial first = true
    · exact exists_reads_word others hinitial
    · rw [Bool.not_eq_true] at hdigit hinitial
      exact ⟨_, .noExpression (first :: others)
        (startsOutside_cons.2 hinitial) (by simpa using hquote)
        (startsOutside_cons.2 hdigit)⟩

theorem reads_iff {text : List Char} {outcome : Reading} :
    Reads text outcome ↔ reading text = outcome := by
  constructor
  · exact Reads.reading_eq
  · rintro rfl
    obtain ⟨outcome, hreads⟩ := exists_reads text
    rwa [hreads.reading_eq]

/-- A text of digits is a numeral up to its end. -/
theorem reads_decimalNumeral {first : Char} {others : List Char}
    (hdigits : ∀ char ∈ first :: others, isDigit char = true) :
    Reads (first :: others)
      (.accepted (.number (positional 10 (first :: others)))
        (others.length + 1)) := by
  have hreads := Reads.decimalNumeral first others [] hdigits
    (startsOutside_nil isDigit)
  rwa [List.append_nil] at hreads

theorem reads_radixNumeral (radix : Radix) {first : Char} {others : List Char}
    (hdigits : ∀ char ∈ first :: others, radix.isDigit char = true) :
    Reads ('#' :: radix.letter :: first :: others)
      (.accepted (.number (positional radix.base (first :: others)))
        (others.length + 3)) := by
  have hreads := Reads.radixNumeral radix first others [] hdigits
    (startsOutside_nil isWordChar)
  rwa [List.append_nil] at hreads

/-! ## What the reader returns -/

theorem readInput_ok_iff {input : Input} {datum : Datum} {stop : Int} :
    ((readInput input).1 = .ok datum ∧ (readInput input).2.position = stop) ↔
      ∃ length : Nat, Reads input.text (.accepted datum length) ∧
        stop = length := by
  simp only [readInput_eq, reads_iff]
  cases reading input.text with
  | accepted found length => simp [Reading.result, Reading.length, eq_comm]
  | refused cause distance length => simp [Reading.result]

/-- A cause for refusal lies in the text or at its end. -/
theorem Reads.distance_le {text : List Char} {cause : Cause}
    {distance length : Nat}
    (hreads : Reads text (.refused cause distance length)) :
    distance ≤ text.length := by
  cases hreads <;> simp

theorem readInput_error_iff {input : Input} {fault : Fault} :
    (readInput input).1 = .error fault ↔ ∃ cause distance length,
      Reads input.text (.refused cause distance length) ∧
        fault = .refused (cause.diagnostic input distance) := by
  simp only [readInput_eq, reads_iff]
  cases hreading : reading input.text with
  | accepted found length => simp [Reading.result]
  | refused cause distance length =>
    -- the place of the cause lies in the text, so it can be told
    have hdistance := (reads_iff.2 hreading).distance_le
    simp [Reading.result, cause.fault_of_natAbs_le, hdistance, eq_comm]

end LispDatum.Reader
