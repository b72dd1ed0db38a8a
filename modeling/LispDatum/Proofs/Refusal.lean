import LispDatum.Proofs.Grammar

/-!
# What is refused, and where

For each kind of finding, `Kind.ArisesAt` states on the text alone when there is
such a finding and at which offset.  A text is refused exactly if one kind of
finding arises in it, which is then the only one and has only one place.
-/

namespace LispDatum.Reader

open LispDatum.Unicode

/-- There is a finding of this kind in the text, at this offset. -/
def Kind.ArisesAt (text : List Char) (offset : Int) : Kind → Prop
  | unexpectedCharacter => offset = 0 ∧
      (text = [] ∨ ∃ first rest, text = first :: rest ∧
        isInitial first = false ∧ first ≠ '"' ∧ isDigit first = false)
  | unknownRadix => offset = 1 ∧
      ∃ letter digit rest, text = '#' :: letter :: digit :: rest ∧
        isLetter letter = true ∧ (∀ radix : Radix, letter ≠ radix.letter) ∧
        isDigit digit = true
  | invalidRadixDigits => ∃ (radix : Radix) (rest run : List Char),
      text = '#' :: radix.letter :: rest ∧
      (rest = [] ∨ ∃ follow others, rest = follow :: others ∧
        (isConstituent follow = false ∨ isHexDigit follow = true)) ∧
      run = rest.takeWhile isWordChar ∧
      ((run = [] ∧ offset = 2) ∨ ∃ index : Nat, offset = 2 + index ∧
        run.findIdx? (fun char => !radix.isDigit char) = some index)
  | invalidEscape => ∃ items char rest,
      text = '"' :: (Item.spell items ++ '\\' :: char :: rest) ∧
      (∀ escape : Escape, char ≠ escape.letter) ∧
      offset = (Item.spell items).length + 2
  | unterminatedString => offset = text.length ∧ ∃ items,
      text = '"' :: Item.spell items ∨ text = '"' :: (Item.spell items ++ ['\\'])

/-- The first character of a run that fails a test stands behind those that pass
it. -/
theorem findIdx?_append_cons {test : Char → Bool} {passed rest : List Char}
    {char : Char} (hpassed : ∀ other ∈ passed, test other = true)
    (hchar : test char = false) :
    (passed ++ char :: rest).findIdx? (fun other => !test other) =
      some passed.length := by
  have hnone : passed.findIdx? (fun other => !test other) = none := by
    rw [List.findIdx?_eq_none_iff]
    intro other hmem
    rw [hpassed other hmem, Bool.not_true]
  rw [List.findIdx?_append, hnone, List.findIdx?_cons]
  simp [hchar]

theorem Reads.arisesAt {text : List Char} {cause : Cause}
    {distance length : Nat}
    (hreads : Reads text (.refused cause distance length)) :
    cause.kind.ArisesAt text distance := by
  cases hreads with
  | noExpression _ hinitial hquote hdigit =>
    refine ⟨rfl, ?_⟩
    cases text with
    | nil => exact .inl rfl
    | cons first rest =>
      exact .inr ⟨first, rest, rfl, startsOutside_cons.1 hinitial,
        by simpa using hquote, startsOutside_cons.1 hdigit⟩
  | openString items => exact ⟨by simp, items, .inl rfl⟩
  | openEscape items => exact ⟨by simp; omega, items, .inr rfl⟩
  | badEscape items char rest hchar =>
    exact ⟨items, char, rest, rfl, hchar, by simp⟩
  | unknownRadix letter digit rest hletter hradix hdigit =>
    exact ⟨rfl, letter, digit, rest, rfl, hletter, hradix, hdigit⟩
  | noDigits radix rest hrest =>
    refine ⟨radix, rest, [], rfl, ?_, ?_, .inl ⟨rfl, rfl⟩⟩
    · cases rest with
      | nil => exact .inl rfl
      | cons follow others =>
        exact .inr ⟨follow, others, rfl, .inl (startsOutside_cons.1 hrest)⟩
    · rw [hrest.of_isConstituent.takeWhile_eq_nil]
  | badDigit radix digits char rest hdigits hchar hword hfirst =>
    refine ⟨radix, _, digits ++ char :: rest.takeWhile isWordChar, rfl, ?_,
      (takeWhile_digits_append hdigits hword).symm,
      .inr ⟨digits.length, by simp; omega, findIdx?_append_cons hdigits hchar⟩⟩
    cases digits with
    | nil => exact .inr ⟨char, rest, rfl, .inr (hfirst char rfl)⟩
    | cons first digits =>
      exact .inr ⟨first, _, rfl, .inr (hfirst first rfl)⟩

/-- A run of letters and digits with a first bad digit is split there. -/
theorem exists_digits_append {radix : Radix} {rest : List Char} {index : Nat}
    (hindex : (rest.takeWhile isWordChar).findIdx?
      (fun char => !radix.isDigit char) = some index) :
    ∃ digits char others, rest = digits ++ char :: others ∧
      index = digits.length ∧
      (∀ digit ∈ digits, radix.isDigit digit = true) ∧
      radix.isDigit char = false ∧ isWordChar char = true := by
  obtain ⟨digits, tail, hrun, hdigits, htail⟩ :=
    exists_run radix.isDigit (rest.takeWhile isWordChar)
  cases tail with
  | nil =>
    rw [hrun, List.append_nil] at hindex
    have hnone : digits.findIdx? (fun char => !radix.isDigit char) = none := by
      rw [List.findIdx?_eq_none_iff]
      intro digit hmem
      rw [hdigits digit hmem, Bool.not_true]
    rw [hnone] at hindex
    contradiction
  | cons char others =>
    have hchar := startsOutside_cons.1 htail
    have hword : isWordChar char = true := by
      have hmem : char ∈ rest.takeWhile isWordChar := by simp [hrun]
      exact List.mem_takeWhile_imp hmem
    rw [hrun, findIdx?_append_cons hdigits hchar] at hindex
    refine ⟨digits, char, others ++ rest.dropWhile isWordChar, ?_,
      (Option.some.inj hindex).symm, hdigits, hchar, hword⟩
    calc
      rest = rest.takeWhile isWordChar ++ rest.dropWhile isWordChar :=
        List.takeWhile_append_dropWhile.symm
      _ = digits ++ char :: (others ++ rest.dropWhile isWordChar) := by
        rw [hrun, List.append_assoc, List.cons_append]

/-- A run that opens a radix literal starts with a hexadecimal digit, since its
first character continues a name. -/
theorem isHexDigit_of_mem_head? {radix : Radix} {digits others : List Char}
    {char : Char} (hdigits : ∀ digit ∈ digits, radix.isDigit digit = true)
    (hword : isWordChar char = true)
    (hfollow : ∀ follow ∈ (digits ++ char :: others).head?,
      isConstituent follow = false ∨ isHexDigit follow = true) :
    ∀ first ∈ (digits ++ [char]).head?, isHexDigit first = true := by
  intro first hmem
  cases digits with
  | nil =>
    cases hmem
    rcases hfollow char rfl with houtside | hhex
    · rw [isConstituent_of_isWordChar hword] at houtside
      contradiction
    · exact hhex
  | cons digit digits =>
    cases hmem
    exact Radix.isHexDigit_of_isDigit (hdigits first (by simp))

theorem Kind.ArisesAt.exists_reads {text : List Char} {offset : Int}
    {kind : Kind} (harises : kind.ArisesAt text offset) :
    ∃ (cause : Cause) (distance length : Nat),
      Reads text (.refused cause distance length) ∧ cause.kind = kind ∧
        offset = distance := by
  cases kind with
  | unexpectedCharacter =>
    obtain ⟨rfl, rfl | ⟨first, rest, rfl, hinitial, hquote, hdigit⟩⟩ := harises
    · exact ⟨_, _, _, .noExpression [] (startsOutside_nil _) (by simp)
        (startsOutside_nil _), rfl, rfl⟩
    · exact ⟨_, _, _, .noExpression _ (startsOutside_cons.2 hinitial)
        (by simpa using hquote) (startsOutside_cons.2 hdigit), rfl, rfl⟩
  | unterminatedString =>
    obtain ⟨rfl, items, rfl | rfl⟩ := harises
    · exact ⟨_, _, _, .openString items, rfl, by simp⟩
    · exact ⟨_, _, _, .openEscape items, rfl, by simp; omega⟩
  | invalidEscape =>
    obtain ⟨items, char, rest, rfl, hchar, rfl⟩ := harises
    exact ⟨_, _, _, .badEscape items char rest hchar, rfl, by simp⟩
  | unknownRadix =>
    obtain ⟨rfl, letter, digit, rest, rfl, hletter, hradix, hdigit⟩ := harises
    exact ⟨_, _, _, .unknownRadix letter digit rest hletter hradix hdigit, rfl,
      rfl⟩
  | invalidRadixDigits =>
    obtain ⟨radix, rest, run, rfl, hfollow, rfl, hplace⟩ := harises
    rcases hplace with ⟨hempty, rfl⟩ | ⟨index, rfl, hindex⟩
    · have hrest : StartsOutside isConstituent rest := by
        rcases hfollow with rfl | ⟨follow, others, rfl, houtside | hhex⟩
        · exact startsOutside_nil _
        · exact startsOutside_cons.2 houtside
        · rw [List.takeWhile_cons_of_pos (isWordChar_of_isHexDigit hhex)]
            at hempty
          contradiction
      exact ⟨_, _, _, .noDigits radix rest hrest, rfl, rfl⟩
    · obtain ⟨digits, char, others, rfl, rfl, hdigits, hchar, hword⟩ :=
        exists_digits_append hindex
      have hhead : ∀ follow ∈ (digits ++ char :: others).head?,
          isConstituent follow = false ∨ isHexDigit follow = true := by
        intro follow hmem
        rcases hfollow with hnil | ⟨first, tail, hsplit, hfollow⟩
        · simp at hnil
        · rw [hsplit] at hmem
          cases hmem
          exact hfollow
      exact ⟨_, _, _, .badDigit radix digits char others hdigits hchar hword
        (isHexDigit_of_mem_head? hdigits hword hhead), rfl, by simp; omega⟩

/-- The kinds of findings and their conditions: a text is refused with a kind of
finding at an offset exactly if there is such a finding, and if it is refused at
all, there is no other. -/
theorem readInput_refused_iff_arisesAt (input : Input) :
    (∀ (kind : Kind) (offset : Int),
      (∃ diagnostic, (readInput input).1 = .error (.refused diagnostic) ∧
        diagnostic.kind = kind ∧ diagnostic.offset = offset) ↔
          kind.ArisesAt input.text offset) ∧
    ((∃ fault, (readInput input).1 = .error fault) ↔
      ∃! finding : Kind × Int, finding.1.ArisesAt input.text finding.2) := by
  have hkind : ∀ (kind : Kind) (offset : Int),
      (∃ diagnostic, (readInput input).1 = .error (.refused diagnostic) ∧
        diagnostic.kind = kind ∧ diagnostic.offset = offset) ↔
          kind.ArisesAt input.text offset := by
    intro kind offset
    constructor
    · rintro ⟨diagnostic, hrefused, rfl, rfl⟩
      obtain ⟨cause, distance, length, hreads, hfault⟩ :=
        readInput_error_iff.1 hrefused
      cases hfault
      exact hreads.arisesAt
    · intro harises
      obtain ⟨cause, distance, length, hreads, rfl, rfl⟩ :=
        harises.exists_reads
      exact ⟨_, readInput_error_iff.2 ⟨cause, distance, length, hreads, rfl⟩,
        rfl, rfl⟩
  refine ⟨hkind, ?_, ?_⟩
  · rintro ⟨fault, hfault⟩
    obtain ⟨cause, distance, length, hreads, rfl⟩ :=
      readInput_error_iff.1 hfault
    refine ⟨(cause.kind, distance), hreads.arisesAt, ?_⟩
    rintro ⟨kind, offset⟩ harises
    obtain ⟨diagnostic, hrefused, rfl, rfl⟩ := (hkind kind offset).2 harises
    rw [hfault] at hrefused
    cases hrefused
    rfl
  · rintro ⟨⟨kind, offset⟩, harises, -⟩
    obtain ⟨diagnostic, hrefused, -⟩ := (hkind kind offset).2 harises
    exact ⟨_, hrefused⟩

end LispDatum.Reader
