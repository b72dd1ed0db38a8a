import LispDatum.Proofs.Grammar

/-!
# How far a reading gets

A reader is left where its last reading ended.  A datum has at least one
character, so one reading after the other moves on, until the text is used up or
refused.  A refusal leaves the reader at the offset that it tells, with one
exception: the digits behind a radix letter are passed over before they are
judged, so the reader stands behind all of them whichever is wrong.
-/

namespace LispDatum.Reader

/-- Where a refusal for this kind of finding, told at an offset, leaves a reader
that started in or behind the text. -/
def Kind.StopsAt (input : Input) (start : Nat) (offset stop : Int) :
    Kind → Prop
  | unexpectedCharacter => offset = start ∧ stop = offset
  | unterminatedString => offset = input.text.length ∧ stop = offset
  | invalidEscape => stop = offset ∧
      ∃ index : Nat, stop = index + 1 ∧ input.text[index]? = some '\\'
  | unknownRadix => offset = start + 1 ∧ stop = offset
  | invalidRadixDigits => start + 2 ≤ offset ∧ offset ≤ stop ∧
      stop = start + 2 +
        ((input.text.drop (start + 2)).takeWhile isWordChar).length

/-- What a reading does to the position of the reader. -/
structure Advances (input : Input) (start : Nat)
    (result : Except Fault Datum × Progress) : Prop where
  accepted : ∀ datum, result.1 = .ok datum →
    start < result.2.position ∧ result.2.position ≤ input.text.length
  refused : ∀ diagnostic, result.1 = .error (.refused diagnostic) →
    start ≤ diagnostic.offset ∧ diagnostic.offset ≤ result.2.position ∧
      result.2.position ≤ max start input.text.length ∧
      diagnostic.kind.StopsAt input start diagnostic.offset result.2.position

/-- Several data, one behind the other. -/
def readTimes : Nat → ReadM (List Datum)
  | 0 => return []
  | count + 1 => do
    let datum ← readDatum
    let data ← readTimes count
    return datum :: data

/-! ## One reading -/

theorem Reads.length_pos {text : List Char} {datum : Datum} {length : Nat}
    (hreads : Reads text (.accepted datum length)) : 0 < length := by
  cases hreads <;> exact Nat.succ_pos _

theorem Reads.length_le {text : List Char} {outcome : Reading}
    (hreads : Reads text outcome) : outcome.length ≤ text.length := by
  cases hreads with
  | badDigit radix digits char rest hdigits hchar hword hfirst =>
    have hrun := (List.takeWhile_prefix (l := rest) isWordChar).length_le
    simp only [Reading.length, List.length_cons, List.length_append]
    omega
  | _ => simp [Reading.length]

theorem Reads.distance_le_length {text : List Char} {cause : Cause}
    {distance length : Nat}
    (hreads : Reads text (.refused cause distance length)) :
    distance ≤ length := by
  cases hreads with
  | badDigit radix digits char rest hdigits hchar hword hfirst =>
    omega
  | _ => exact le_refl _

/-- The kind of a finding fixes where the reader stops, told from the characters
that are ahead of it. -/
theorem Reads.stopsAt {input : Input} {start : Nat} {cause : Cause}
    {distance length : Nat}
    (hreads : Reads (input.text.drop start)
      (.refused cause distance length)) :
    cause.kind.StopsAt input start (start + distance) (start + length) := by
  have hlength := List.length_drop (i := start) (l := input.text)
  have hdigits : input.text.drop (start + 2) =
      (input.text.drop start).drop 2 := List.drop_drop.symm
  generalize hahead : input.text.drop start = ahead at hreads hlength hdigits
  cases hreads with
  | noExpression text hinitial hquote hdigit =>
    exact ⟨add_zero _, rfl⟩
  | openString items =>
    rw [List.length_cons] at hlength
    exact ⟨by push_cast; omega, rfl⟩
  | openEscape items =>
    rw [List.length_cons, List.length_append, List.length_singleton]
      at hlength
    exact ⟨by push_cast; omega, rfl⟩
  | badEscape items char rest hchar =>
    refine ⟨rfl, start + ((Item.spell items).length + 1), ?_, ?_⟩
    · push_cast
      ring
    · rw [← List.getElem?_drop, hahead]
      simp
  | unknownRadix letter digit rest hletter hradix hdigit =>
    exact ⟨rfl, rfl⟩
  | noDigits radix rest hrest =>
    have hrun : (input.text.drop (start + 2)).takeWhile isWordChar = [] := by
      rw [hdigits]
      exact hrest.of_isConstituent.takeWhile_eq_nil
    rw [Cause.kind, Kind.StopsAt, hrun]
    exact ⟨le_refl _, le_refl _, (add_zero _).symm⟩
  | badDigit radix digits char rest hvalid hchar hword hfirst =>
    have hrun : (input.text.drop (start + 2)).takeWhile isWordChar =
        digits ++ char :: rest.takeWhile isWordChar := by
      rw [hdigits]
      exact takeWhile_digits_append hvalid hword
    rw [Cause.kind, Kind.StopsAt, hrun, List.length_append, List.length_cons]
    push_cast
    omega

theorem advances_readDatum (input : Input) (start : Nat)
    (trace : List Event) :
    Advances input start (readDatum.runFrom input ⟨start, trace⟩) := by
  rw [runFrom_readDatum input ⟨start, trace⟩ (Int.natCast_nonneg start),
    Int.toNat_natCast]
  have hahead := List.length_drop (i := start) (l := input.text)
  cases hreading : reading (input.text.drop start) with
  | accepted datum length =>
    have hreads := reads_iff.2 hreading
    have hpos := hreads.length_pos
    have hlength : length ≤ (input.text.drop start).length := hreads.length_le
    refine ⟨?_, ?_⟩
    · intro _ _
      simp only [Reading.length]
      omega
    · intro diagnostic hrefused
      cases hrefused
  | refused cause distance length =>
    have hreads := reads_iff.2 hreading
    have hdistance := hreads.distance_le_length
    have hlength : length ≤ (input.text.drop start).length := hreads.length_le
    refine ⟨?_, ?_⟩
    · intro datum haccepted
      cases haccepted
    · intro diagnostic hrefused
      rw [Cause.eq_diagnostic_of_fault (Except.error.inj hrefused)]
      simp only [Cause.diagnostic, Reading.length]
      refine ⟨by omega, by omega, by omega, hreads.stopsAt⟩

/-! ## Repeated readings -/

/-- Several data are read as the first of them and then the others. -/
theorem exists_of_runFrom_readTimes_succ {input : Input}
    {progress later : Progress} {count : Nat} {data : List Datum}
    (hread : (readTimes (count + 1)).runFrom input progress =
      (.ok data, later)) :
    ∃ datum others middle, data = datum :: others ∧
      readDatum.runFrom input progress = (.ok datum, middle) ∧
      (readTimes count).runFrom input middle = (.ok others, later) := by
  rw [readTimes, runFrom_bind] at hread
  rcases hfirst : readDatum.runFrom input progress with
    ⟨fault | datum, middle⟩
  · rw [hfirst] at hread
    cases hread
  · simp only [hfirst, runFrom_bind] at hread
    rcases hothers : (readTimes count).runFrom input middle with
      ⟨fault | others, stop⟩
    · rw [hothers] at hread
      cases hread
    · rw [hothers] at hread
      cases hread
      exact ⟨datum, others, middle, rfl, rfl, hothers⟩

/-- Each of several readings moves the reader by one character at least, and
none past the end of the text. -/
theorem advances_readTimes {input : Input} {start count : Nat}
    {trace : List Event} {data : List Datum} {later : Progress}
    (hread : (readTimes count).runFrom input ⟨start, trace⟩ =
      (.ok data, later)) :
    data.length = count ∧ start + count ≤ later.position ∧
      later.position ≤ max start input.text.length := by
  induction count generalizing start trace data with
  | zero =>
    cases hread
    exact ⟨rfl, by simp, by simp⟩
  | succ count hind =>
    obtain ⟨datum, others, ⟨position, record⟩, rfl, hfirst, hothers⟩ :=
      exists_of_runFrom_readTimes_succ hread
    have hadvances := advances_readDatum input start trace
    rw [hfirst] at hadvances
    have hmoved : start < position ∧ position ≤ input.text.length :=
      hadvances.accepted datum rfl
    -- the next reading starts at an offset of the text again
    obtain ⟨next, rfl⟩ := Int.eq_ofNat_of_zero_le
      ((Int.natCast_nonneg start).trans hmoved.1.le)
    obtain ⟨hcount, hposition, hbound⟩ := hind hothers
    rw [List.length_cons, hcount]
    exact ⟨rfl, by push_cast; omega, by omega⟩

/-- A reader that starts in a text or behind it reads a datum and stands behind
it, or refuses the text and stands where the kind of the finding tells.  So
readings that succeed one after the other use up the text. -/
theorem readDatum_advances :
    (∀ (input : Input) (start : Nat) (trace : List Event),
      Advances input start (readDatum.runFrom input ⟨start, trace⟩)) ∧
    ∀ (input : Input) (start count : Nat) (trace : List Event)
      (data : List Datum) (later : Progress),
      (readTimes count).runFrom input ⟨start, trace⟩ = (.ok data, later) →
        data.length = count ∧ start + count ≤ later.position ∧
          later.position ≤ max start input.text.length := by
  refine ⟨advances_readDatum, ?_⟩
  intro input start count trace data later hread
  exact advances_readTimes hread

/-- Two data are read out of one text, and the reader then stands behind both.
A wrong digit is told at its own offset, and the reader stands behind the digits
that follow it. -/
theorem readDatum_advances_twice :
    (∃ later, (readTimes 2).runFrom (.ofString "#xF\"\"(") {} =
        (.ok [.number 15, .string ""], later) ∧ 2 ≤ later.position) ∧
      Kind.StopsAt (.ofString "#b12z") 0 3 5 .invalidRadixDigits := by
  have hread : (readTimes 2).runFrom (.ofString "#xF\"\"(") {} =
      (.ok [.number 15, .string ""],
        ⟨5, [.accepted .number 3, .accepted .string 5]⟩) := by rfl
  have hrefused : (readDatum.runFrom (.ofString "#b12z") {}).1 =
      .error (.refused ((Cause.badDigit .binary '2').diagnostic
        (.ofString "#b12z") 3)) := by rfl
  obtain ⟨hadvances, htimes⟩ := readDatum_advances
  have hstop := (hadvances (.ofString "#b12z") 0 []).refused _ hrefused
  exact ⟨⟨_, hread, (htimes _ 0 2 _ _ _ hread).2.1⟩, hstop.2.2.2⟩

end LispDatum.Reader
