import LispDatum.Proofs.Grammar

/-!
# Texts that are refused and their continuations

A text can be refused because it ends too early or because it is wrong, and the
offset of the diagnostic tells which.  Whatever comes before the offset can be
completed to a text that is accepted.  If the offset is the end of the text,
then so can the text itself.  Otherwise the characters up to the offset, and
never less than three, decide: every text that begins with them is refused with
the same diagnostic.
-/

namespace LispDatum.Reader

open LispDatum.Numeral

/-- A datum is read at the beginning of the input. -/
def IsAccepted (input : Input) : Prop :=
  ∃ datum, (readInput input).1 = .ok datum

/-- A datum is read once the right characters follow. -/
def CanBeCompleted (input : Input) : Prop :=
  ∃ rest, IsAccepted { input with text := input.text ++ rest }

theorem isAccepted_iff {input : Input} :
    IsAccepted input ↔
      ∃ datum length, Reads input.text (.accepted datum length) := by
  constructor
  · intro ⟨datum, hread⟩
    obtain ⟨length, hreads, -⟩ := readInput_ok_iff.1 ⟨hread, rfl⟩
    exact ⟨datum, length, hreads⟩
  · intro ⟨datum, length, hreads⟩
    exact ⟨datum, (readInput_ok_iff.2 ⟨length, hreads, rfl⟩).1⟩

theorem Reads.unique {text : List Char} {left right : Reading}
    (hleft : Reads text left) (hright : Reads text right) : left = right := by
  rw [← reads_iff.1 hleft, reads_iff.1 hright]

/-! ## Completing what comes before the offset -/

/-- A string that ends in a backslash is completed by an escape and a quote. -/
theorem exists_reads_escape (items : List Item) :
    ∃ datum length,
      Reads ('"' :: (Item.spell items ++ ['\\', 'n', '"']))
        (.accepted datum length) := by
  have hspell : Item.spell items ++ ['\\', 'n', '"'] =
      Item.spell (items ++ [.escaped .lineFeed]) ++ ['"'] := by
    simp [Item.spell, Item.chars, Escape.letter]
  rw [hspell]
  exact ⟨_, _, .string (items ++ [.escaped .lineFeed]) []⟩

/-- Digits of a radix are completed by a zero, which every radix has. -/
theorem exists_reads_zero (radix : Radix) (digits : List Char)
    (hdigits : ∀ digit ∈ digits, radix.isDigit digit = true) :
    ∃ datum length,
      Reads ('#' :: radix.letter :: (digits ++ ['0']))
        (.accepted datum length) := by
  have hzero : radix.isDigit '0' = true := by
    cases radix <;> decide
  cases digits with
  | nil =>
    exact ⟨_, _, reads_radixNumeral radix (by simpa using hzero)⟩
  | cons first digits =>
    have hall : ∀ digit ∈ first :: (digits ++ ['0']),
        radix.isDigit digit = true := by
      intro digit hmem
      rw [← List.cons_append, List.mem_append, List.mem_singleton] at hmem
      rcases hmem with hmem | rfl
      · exact hdigits digit hmem
      · exact hzero
    exact ⟨_, _, reads_radixNumeral radix hall⟩

/-- The characters before a cause for refusal are no cause for refusal. -/
theorem Reads.exists_completion {text : List Char} {cause : Cause}
    {distance length : Nat}
    (hreads : Reads text (.refused cause distance length)) :
    ∃ rest datum stop,
      Reads (text.take distance ++ rest) (.accepted datum stop) := by
  cases hreads with
  | noExpression text hinitial hquote hdigit =>
    exact ⟨['0'], _, _,
      .decimalNumeral '0' [] [] (by simp; decide) (startsOutside_nil _)⟩
  | openString items =>
    rw [List.take_of_length_le (by simp)]
    exact ⟨['"'], _, _, .string items []⟩
  | openEscape items =>
    obtain ⟨datum, stop, hescape⟩ := exists_reads_escape items
    rw [List.take_of_length_le (by simp)]
    exact ⟨['n', '"'], datum, stop, by simpa using hescape⟩
  | badEscape items char rest hchar =>
    obtain ⟨datum, stop, hescape⟩ := exists_reads_escape items
    have htake : (Item.spell items ++ '\\' :: char :: rest).take
        ((Item.spell items).length + 1) = Item.spell items ++ ['\\'] := by
      rw [List.take_length_add_append]
      rfl
    rw [List.take_succ_cons, htake]
    exact ⟨['n', '"'], datum, stop, by simpa using hescape⟩
  | unknownRadix letter digit rest hletter hradix hdigit =>
    refine ⟨[], _, _, .identifier '#' [] [] _ isInitial_numberSign (by simp)
      (startsOutside_nil _) ?_ (denotes_iff.2 rfl)⟩
    intro hlike
    cases hlike
  | noDigits radix rest hrest =>
    obtain ⟨datum, stop, hzero⟩ := exists_reads_zero radix [] (by simp)
    exact ⟨['0'], datum, stop, hzero⟩
  | badDigit radix digits char rest hdigits hchar hword hfirst =>
    obtain ⟨datum, stop, hzero⟩ := exists_reads_zero radix digits hdigits
    rw [List.take_succ_cons, List.take_succ_cons, List.take_left' rfl]
    exact ⟨['0'], datum, stop, hzero⟩

/-! ## The characters that decide -/

/-- A cause that lies within the text is decided by the characters up to it, or
by three of them if these are less. -/
theorem Reads.exists_decisive {text : List Char} {cause : Cause}
    {distance length : Nat}
    (hreads : Reads text (.refused cause distance length))
    (hwithin : distance < text.length) :
    ∃ decisive tail, text = decisive ++ tail ∧
      decisive.length ≤ max (distance + 1) 3 ∧
      ∀ rest, ∃ stop, Reads (decisive ++ rest)
        (.refused cause distance stop) := by
  cases hreads with
  | noExpression text hinitial hquote hdigit =>
    cases text with
    | nil => contradiction
    | cons first tail =>
      rw [startsOutside_cons] at hinitial hdigit
      refine ⟨[first], tail, rfl, by simp, fun rest => ⟨0, ?_⟩⟩
      exact .noExpression (first :: rest) (startsOutside_cons.2 hinitial)
        (by simpa using hquote) (startsOutside_cons.2 hdigit)
  | openString items => simp at hwithin
  | openEscape items => simp at hwithin
  | badEscape items char tail hchar =>
    refine ⟨'"' :: (Item.spell items ++ ['\\', char]), tail, by simp, by simp,
      fun rest => ?_⟩
    have hreads := Reads.badEscape items char rest hchar
    exact ⟨_, by simpa using hreads⟩
  | unknownRadix letter digit tail hletter hradix hdigit =>
    exact ⟨['#', letter, digit], tail, rfl, by simp, fun rest =>
      ⟨_, .unknownRadix letter digit rest hletter hradix hdigit⟩⟩
  | noDigits radix tail htail =>
    cases tail with
    | nil => simp at hwithin
    | cons follow tail =>
      rw [startsOutside_cons] at htail
      exact ⟨['#', radix.letter, follow], tail, rfl, by simp, fun rest =>
        ⟨_, .noDigits radix (follow :: rest) (startsOutside_cons.2 htail)⟩⟩
  | badDigit radix digits char tail hdigits hchar hword hfirst =>
    refine ⟨'#' :: radix.letter :: (digits ++ [char]), tail, by simp, by simp,
      fun rest => ?_⟩
    have hreads := Reads.badDigit radix digits char rest hdigits hchar hword
      hfirst
    exact ⟨_, by simpa using hreads⟩

theorem Reads.take_append {text : List Char} {cause : Cause}
    {distance length : Nat}
    (hreads : Reads text (.refused cause distance length))
    (hwithin : distance < text.length) (rest : List Char) :
    ∃ stop, Reads (text.take (max (distance + 1) 3) ++ rest)
      (.refused cause distance stop) := by
  obtain ⟨decisive, tail, rfl, hlength, hdecides⟩ :=
    hreads.exists_decisive hwithin
  rw [List.take_append, List.take_of_length_le hlength, List.append_assoc]
  exact hdecides _

theorem Reads.not_accepted_append {text : List Char} {cause : Cause}
    {distance length : Nat}
    (hreads : Reads text (.refused cause distance length))
    (hwithin : distance < text.length) (rest : List Char) (datum : Datum)
    (stop : Nat) : ¬ Reads (text ++ rest) (.accepted datum stop) := by
  intro haccepted
  obtain ⟨decisive, tail, rfl, -, hdecides⟩ := hreads.exists_decisive hwithin
  rw [List.append_assoc] at haccepted
  obtain ⟨other, hrefused⟩ := hdecides (tail ++ rest)
  have heq := haccepted.unique hrefused
  contradiction

/-! ## The diagnostic -/

/-- A diagnostic is about the characters before its offset. -/
theorem Cause.diagnostic_congr (cause : Cause) (input : Input)
    {text : List Char} {offset : Nat}
    (htake : text.take offset = input.text.take offset) :
    cause.diagnostic { input with text := text } offset =
      cause.diagnostic input offset := by
  have hbefore : Input.before { input with text := text } offset =
      input.before offset := by
    have hbound (other : Input) : other.bound offset = offset := by
      simp [Input.bound]
    rw [Input.before, Input.before, hbound, hbound]
    exact htake
  simp only [Cause.diagnostic, Input.line, Input.column, Input.lastBreak,
    hbefore]

/-- What the offset of a diagnostic tells of the text and its continuations. -/
structure Diagnostic.Separates (diagnostic : Diagnostic) (input : Input)
    (offset : Nat) : Prop where
  offset_eq : diagnostic.offset = offset
  le_length : offset ≤ input.text.length
  /-- The characters before the offset can be completed. -/
  completes_before :
    CanBeCompleted { input with text := input.text.take offset }
  /-- Within the text, a few characters decide on every continuation. -/
  decided : offset < input.text.length → ∀ rest,
    (readInput { input with
      text := input.text.take (max (offset + 1) 3) ++ rest }).1 =
        .error (.refused diagnostic)
  /-- The offset is the end of the text exactly if the text can be completed. -/
  at_end_iff : offset = input.text.length ↔ CanBeCompleted input

/-- Whenever reading fails, the offset of the diagnostic separates texts that
are wrong from texts that are incomplete. -/
theorem readInput_refused_separates (input : Input) (fault : Fault)
    (hfault : (readInput input).1 = .error fault) :
    ∃ diagnostic offset, fault = .refused diagnostic ∧
      diagnostic.Separates input offset := by
  obtain ⟨cause, distance, length, hreads, rfl⟩ := readInput_error_iff.1 hfault
  obtain ⟨rest, datum, stop, hcompleted⟩ := hreads.exists_completion
  refine ⟨_, distance, rfl, rfl, hreads.distance_le, ?_, ?_, ?_⟩
  · exact ⟨rest, isAccepted_iff.2 ⟨datum, stop, hcompleted⟩⟩
  · intro hwithin rest
    obtain ⟨stop, hrefused⟩ := hreads.take_append hwithin rest
    have htake : (input.text.take (max (distance + 1) 3) ++ rest).take
        distance = input.text.take distance := by
      rw [List.take_append_of_le_length (by simp; omega), List.take_take,
        Nat.min_eq_left (by omega)]
    rw [← cause.diagnostic_congr input htake]
    exact readInput_error_iff.2 ⟨cause, distance, stop, hrefused, rfl⟩
  · constructor
    · intro hend
      rw [List.take_of_length_le hend.ge] at hcompleted
      exact ⟨rest, isAccepted_iff.2 ⟨datum, stop, hcompleted⟩⟩
    · intro ⟨rest, haccepted⟩
      obtain ⟨datum, stop, hreads'⟩ := isAccepted_iff.1 haccepted
      by_contra hne
      have hwithin := lt_of_le_of_ne hreads.distance_le hne
      exact hreads.not_accepted_append hwithin rest datum stop hreads'

/-- In `#b12` the digit two is wrong: four characters decide. -/
theorem separates_badDigit :
    ∃ diagnostic,
      (readInput (.ofString "#b12")).1 = .error (.refused diagnostic) ∧
        diagnostic.Separates (.ofString "#b12") 3 := by
  obtain ⟨diagnostic, offset, hfault, hseparates⟩ :=
    readInput_refused_separates (.ofString "#b12")
      (.refused ((Cause.badDigit .binary '2').diagnostic (.ofString "#b12") 3))
      (by rfl)
  cases hfault
  have hoffset : offset = 3 := Int.ofNat.inj hseparates.offset_eq.symm
  subst hoffset
  exact ⟨_, by rfl, hseparates⟩

end LispDatum.Reader
