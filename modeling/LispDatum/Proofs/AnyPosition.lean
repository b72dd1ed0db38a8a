import LispDatum.Proofs.Grammar
import LispDatum.Reader.Verdict

/-!
# Reading from any position

A reader can be set to any integer position.  Before everything that the text
addresses it can only fail.  From a negative offset it runs through the tail of
the text and on into its beginning, and the characters that it sees on the way
are not those that the piece between the two offsets holds.  Yet that piece has
no other characters than the ones that were passed over, so its digits have been
checked and have a value.  Past the end of the text nothing is left to read; the
refusal then tells the place as long as its column has not too many digits.
-/

namespace LispDatum.Reader

open LispDatum.Numeral

/-! ## The characters ahead -/

namespace Input

variable {input : Input} {offset : Int} {ahead : List Char}

theorem ahead?_eq_none_iff :
    input.ahead? offset = none ↔ offset < -input.text.length := by
  rw [ahead?]
  split_ifs with hnonneg hindex
  · simp
    omega
  · simp
    omega
  · simp
    omega

theorem neg_length_le (hahead : input.ahead? offset = some ahead) :
    -input.text.length ≤ offset := by
  by_contra hbelow
  rw [not_le, ← ahead?_eq_none_iff, hahead] at hbelow
  contradiction

theorem exists_ahead? (hoffset : -input.text.length ≤ offset) :
    ∃ ahead, input.ahead? offset = some ahead := by
  rw [← Option.ne_none_iff_exists', Ne, ahead?_eq_none_iff]
  omega

/-- From an offset in the text, what lies ahead reaches to the end of the
text. -/
theorem add_length_ahead (hahead : input.ahead? offset = some ahead)
    (hoffset : offset ≤ input.text.length) :
    offset + ahead.length = input.text.length := by
  by_cases hnonneg : 0 ≤ offset
  · rw [ahead?_of_nonneg input hnonneg] at hahead
    rw [← Option.some.inj hahead, List.length_drop]
    omega
  · obtain ⟨index, hindex, rfl, rfl⟩ := ahead?_of_neg (by omega) hahead
    rw [List.length_append, List.length_drop]
    omega

/-- A piece of the text has only characters that were passed over. -/
theorem mem_take_of_mem_slice (hahead : input.ahead? offset = some ahead)
    {length : Nat} {char : Char}
    (hmem : char ∈ input.slice offset (offset + length)) :
    char ∈ ahead.take length := by
  by_cases hnonneg : 0 ≤ offset
  · rw [ahead?_of_nonneg input hnonneg] at hahead
    rw [slice_of_nonneg input hnonneg, Option.some.inj hahead] at hmem
    exact hmem
  · obtain ⟨index, hindex, rfl, rfl⟩ := ahead?_of_neg (by omega) hahead
    have hstart : input.bound (index - input.text.length) = index := by
      rw [bound, if_pos (by omega)]
      omega
    rw [slice, before, hstart] at hmem
    by_cases htail : index + length < input.text.length
    · -- the piece lies in the tail
      have hstop : input.bound (index - input.text.length + length) =
          index + length := by
        rw [bound, if_pos (by omega)]
        omega
      have hwithin : length ≤ (input.text.drop index).length := by
        rw [List.length_drop]
        omega
      rw [hstop, List.drop_take, Nat.add_sub_cancel_left] at hmem
      rw [List.take_append_of_le_length hwithin]
      exact hmem
    · -- the piece is cut out of what was read at the beginning of the text
      have hstop : input.bound (index - input.text.length + length) =
          length - (input.text.drop index).length := by
        rw [bound, if_neg (by omega), List.length_drop]
        omega
      rw [hstop] at hmem
      rw [List.take_append, List.mem_append]
      exact .inr (List.mem_of_mem_drop hmem)

theorem length_slice_le (hahead : input.ahead? offset = some ahead)
    (length : Nat) :
    (input.slice offset (offset + length)).length ≤ length := by
  by_cases hnonneg : 0 ≤ offset
  · rw [slice_of_nonneg input hnonneg]
    exact List.length_take_le length _
  · obtain ⟨index, hindex, rfl, -⟩ := ahead?_of_neg (by omega) hahead
    rw [slice, List.length_drop, before, List.length_take, bound, bound]
    split_ifs <;> omega

end Input

/-! ## The digits that a value is taken of -/

/-- The digits of a decimal numeral are passed over as digits, so the piece of
the text that they are taken from has no other characters. -/
theorem isDigit_of_mem_slice {input : Input} {offset : Int} {ahead : List Char}
    (hahead : input.ahead? offset = some ahead) {char : Char}
    (hmem : char ∈
      input.slice offset (offset + (ahead.takeWhile isDigit).length)) :
    isDigit char = true := by
  have htaken := Input.mem_take_of_mem_slice hahead hmem
  rw [take_length_takeWhile] at htaken
  exact List.mem_takeWhile_imp htaken

/-! ## Where an action ends that starts in the text -/

/-- The action ends between its start and the end of the text, and if it fails,
then because the text is refused for a cause whose place is told. -/
structure Stays {Value : Type} (input : Input) (start : Int)
    (result : Except Fault Value × Progress) : Prop where
  start_le : start ≤ result.2.position
  position_le : result.2.position ≤ input.text.length
  refused : ∀ fault, result.1 = .error fault → ∃ (cause : Cause) (offset : Int),
    fault = .refused (cause.diagnostic input offset)

section Stays

variable {Value Result : Type} {input : Input} {start : Int}

theorem stays_ok (value : Value) {position : Int} {trace : List Event}
    (hstart : start ≤ position) (hend : position ≤ input.text.length) :
    Stays input start
      ((.ok value, ⟨position, trace⟩) : Except Fault Value × Progress) where
  start_le := hstart
  position_le := hend
  refused := by
    intro fault hfault
    contradiction

/-- A refusal stays in the text if its place lies there. -/
theorem stays_refuseAt (cause : Cause) {offset position : Int}
    {trace : List Event} (hstart : start ≤ position)
    (hend : position ≤ input.text.length)
    (hoffset : offset.natAbs ≤ input.text.length) :
    Stays input start ((refuseAt offset cause : ReadM Value).runFrom input
      ⟨position, trace⟩) := by
  rw [runFrom_refuseAt, cause.fault_of_natAbs_le hoffset]
  refine ⟨hstart, hend, ?_⟩
  intro fault hfault
  exact ⟨cause, offset, (Except.error.inj hfault).symm⟩

/-- A failed action stays in the text whatever value it was to return. -/
theorem Stays.of_error {fault : Fault} {later : Progress}
    (hstays : Stays input start
      ((.error fault, later) : Except Fault Value × Progress)) :
    Stays input start
      ((.error fault, later) : Except Fault Result × Progress) where
  start_le := hstays.start_le
  position_le := hstays.position_le
  refused := by
    intro other hother
    apply hstays.refused
    exact congrArg Except.error (Except.error.inj hother)

/-- What is made of a returned value leaves the reader where it is. -/
theorem Stays.map {action : ReadM Value} {progress : Progress}
    (hstays : Stays input start (action.runFrom input progress))
    (convert : Value → Result) :
    Stays input start ((convert <$> action).runFrom input progress) := by
  rw [runFrom_map]
  rcases hrun : action.runFrom input progress with ⟨fault | value, later⟩
  · rw [hrun] at hstays
    exact hstays.of_error
  · rw [hrun] at hstays
    exact stays_ok _ hstays.start_le hstays.position_le

end Stays

/-! ## Each alternative stays in the text -/

theorem atomLength_le {ahead : List Char} (hatom : startsAtom ahead = true) :
    atomLength ahead ≤ ahead.length := by
  cases ahead with
  | nil => contradiction
  | cons first others =>
    have hrun := (List.takeWhile_prefix (l := others) isConstituent).length_le
    simp only [atomLength, List.drop_succ_cons, List.drop_zero,
      List.length_cons]
    omega

/-- The number of characters that a scan passes over. -/
def Body.length : Body → Nat
  | .closed _ length => length
  | .broken _ length => length

theorem Body.length_cons (char : Char) (length : Nat) (body : Body) :
    (body.cons char length).length = length + body.length := by
  cases body <;> rfl

theorem Body.length_scan_le (text : List Char) :
    (Body.scan text).length ≤ text.length := by
  fun_induction Body.scan text with
  | case1 => exact le_refl 0
  | case2 rest => simp [length]
  | case3 => simp [length]
  | case4 char rest decoded _ hind =>
    rw [length_cons, List.length_cons, List.length_cons]
    omega
  | case5 char rest _ => simp [length]
  | case6 char rest _ _ _ hind =>
    rw [length_cons, List.length_cons]
    omega

section Alternatives

variable {input : Input} (progress : Progress) {ahead : List Char}

theorem readAtom_stays
    (hahead : input.ahead? progress.position = some ahead)
    (hposition : progress.position ≤ input.text.length) :
    Stays input progress.position (readAtom.runFrom input progress) := by
  have hlength := Input.add_length_ahead hahead hposition
  simp only [readAtom, runFrom_bind, runFrom_lookAhead, hahead]
  split
  · next hatom =>
    rw [Bool.and_eq_true] at hatom
    have hatomLength := atomLength_le hatom.1
    simp only [runFrom_bind, runFrom_takeNext, runFrom_pure]
    exact stays_ok _ (by omega) (by omega)
  · exact stays_ok none (le_refl _) hposition

theorem readString_stays
    (hahead : input.ahead? progress.position = some ahead)
    (hposition : progress.position ≤ input.text.length) :
    Stays input progress.position (readString.runFrom input progress) := by
  have hindex := Input.neg_length_le hahead
  have hlength := Input.add_length_ahead hahead hposition
  rw [runFrom_readString input progress hahead, stringReading?.eq_def]
  split
  · next rest =>
    have hscan := Body.length_scan_le rest
    rw [List.length_cons] at hlength
    cases hbody : Body.scan rest with
    | closed contents length =>
      rw [hbody, Body.length] at hscan
      simp only [outcome]
      exact stays_ok _ (by omega) (by omega)
    | broken cause length =>
      rw [hbody, Body.length] at hscan
      simp only [outcome_refused]
      exact stays_refuseAt cause (by omega) (by omega) (by omega)
  · exact stays_ok none (le_refl _) hposition

/-- A run without a digit and a digit that is none of the radix are refused;
the value is taken of digits of the radix only. -/
theorem runFrom_checkDigits_cases (input : Input) (progress : Progress)
    (start : Int) (radix : Radix) (digits : List Char) :
    (∃ (cause : Cause) (index : Nat), index ≤ digits.length ∧
      (checkDigits start radix digits).runFrom input progress =
        (refuseAt (start + index) cause : ReadM Int).runFrom input progress) ∨
    ((∀ char ∈ digits, radix.isDigit char = true) ∧
      (checkDigits start radix digits).runFrom input progress =
        (.ok (positional radix.base digits), progress)) := by
  by_cases hempty : digits.isEmpty = true
  · refine .inl ⟨.noDigits radix, 0, Nat.zero_le _, ?_⟩
    simp [checkDigits, hempty]
  · simp only [checkDigits, hempty, if_false, Bool.false_eq_true,
      find?_zipIdx_not, zero_add]
    cases hrest : digits.dropWhile radix.isDigit with
    | nil =>
      rw [List.dropWhile_eq_nil_iff] at hrest
      refine .inr ⟨hrest, runFrom_valueOf_of_isHexDigit input progress ?_⟩
      intro char hmem
      exact Radix.isHexDigit_of_isDigit (hrest char hmem)
    | cons char others =>
      have hprefix := List.takeWhile_prefix (l := digits) radix.isDigit
      exact .inl ⟨.badDigit radix char, _, hprefix.length_le, rfl⟩

/-- A reader that was moved over the digits stays there while they are
checked. -/
theorem checkDigits_stays {start begin position : Int} {trace : List Event}
    (radix : Radix) {digits : List Char} (hstart : start ≤ position)
    (hend : position ≤ input.text.length)
    (hindex : -input.text.length ≤ begin)
    (hdigits : begin + digits.length ≤ position) :
    Stays input start
      ((checkDigits begin radix digits).runFrom input ⟨position, trace⟩) := by
  rcases runFrom_checkDigits_cases input ⟨position, trace⟩ begin radix digits
    with ⟨cause, index, hlength, hrefused⟩ | ⟨-, hvalue⟩
  · rw [hrefused]
    exact stays_refuseAt cause hstart hend (by omega)
  · rw [hvalue]
    exact stays_ok _ hstart hend

theorem readRadix_stays
    (hahead : input.ahead? progress.position = some ahead)
    (hposition : progress.position ≤ input.text.length)
    (hliteral : startsRadixLiteral ahead = true) :
    Stays input progress.position (readRadix.runFrom input progress) := by
  have hindex := Input.neg_length_le hahead
  have hlength := Input.add_length_ahead hahead hposition
  obtain ⟨letter, rest, rfl, -⟩ := startsRadixLiteral_iff.1 hliteral
  rw [List.length_cons, List.length_cons] at hlength
  have hnext : input.ahead? (progress.position + 1) = some (letter :: rest) :=
    Input.ahead?_add hahead 1
  cases hradix : Radix.ofLetter? letter with
  | none =>
    have hrefused : readRadix.runFrom input progress =
        (refuseAt (progress.position + 1) (.badRadix (some letter)) :
          ReadM Datum).runFrom input
            { progress with position := progress.position + 1 } := by
      simp [readRadix, runFrom_lookAhead, hnext, hradix]
    rw [hrefused]
    exact stays_refuseAt _ (by omega) (by omega) (by omega)
  | some radix =>
    have hdigits : input.ahead? (progress.position + 1 + 1) = some rest :=
      Input.ahead?_add hnext 1
    have hword := (List.takeWhile_prefix (l := rest) isWordChar).length_le
    have hslice := Input.length_slice_le hdigits
      (rest.takeWhile isWordChar).length
    have hchecked : readRadix.runFrom input progress =
        (Datum.number <$> checkDigits (progress.position + 1 + 1) radix
          (input.slice (progress.position + 1 + 1)
            (progress.position + 1 + 1 +
              (rest.takeWhile isWordChar).length))).runFrom input
                { progress with
                  position := progress.position + 1 + 1 +
                    (rest.takeWhile isWordChar).length } := by
      simp [readRadix, runFrom_lookAhead, hnext, hradix]
    rw [hchecked]
    apply Stays.map
    exact checkDigits_stays radix (by omega) (by omega) (by omega) (by omega)

theorem readNumber_stays
    (hahead : input.ahead? progress.position = some ahead)
    (hposition : progress.position ≤ input.text.length) :
    Stays input progress.position (readNumber.runFrom input progress) := by
  have hlength := Input.add_length_ahead hahead hposition
  have hrun := (List.takeWhile_prefix (l := ahead) isDigit).length_le
  have hdigits : ∀ char ∈ input.slice progress.position
      (progress.position + (ahead.takeWhile isDigit).length),
      isHexDigit char = true := by
    intro char hmem
    exact isHexDigit_of_isDigit (isDigit_of_mem_slice hahead hmem)
  simp only [readNumber, runFrom_bind, runFrom_lookAhead, hahead]
  split
  · next hliteral =>
    have hradix := (readRadix_stays progress hahead hposition hliteral).map some
    rwa [map_eq_pure_bind] at hradix
  · split
    · simp only [runFrom_bind, runFrom_takeNext, runFrom_pure,
        runFrom_valueOf_of_isHexDigit input _ hdigits]
      exact stays_ok _ (by omega) (by omega)
    · exact stays_ok none (le_refl _) hposition

end Alternatives

/-! ## Reading one expression -/

section Expression

variable {input : Input} {start : Int}
  {alternatives : List (ReadM (Option Datum))}

/-- The alternatives are tried from the same position, where the reader stands
again if all of them decline. -/
theorem firstOf_stays (hstart : start ≤ input.text.length)
    (halternatives : ∀ alternative ∈ alternatives, ∀ trace,
      Stays input start (alternative.runFrom input ⟨start, trace⟩))
    (progress : Progress) :
    Stays input start ((firstOf start alternatives).runFrom input progress) ∧
      (((firstOf start alternatives).runFrom input progress).1 = .ok none →
        ((firstOf start alternatives).runFrom input progress).2.position =
          start) := by
  induction alternatives generalizing progress with
  | nil =>
    simp only [firstOf, runFrom_bind, runFrom_moveTo, runFrom_pure]
    exact ⟨stays_ok none (le_refl start) hstart, fun _ => trivial⟩
  | cons alternative others hind =>
    have hfirst := halternatives alternative List.mem_cons_self progress.trace
    have hothers := hind fun other hmem =>
      halternatives other (List.mem_cons_of_mem alternative hmem)
    simp only [firstOf, runFrom_bind, runFrom_moveTo]
    rcases hrun : alternative.runFrom input ⟨start, progress.trace⟩ with
      ⟨fault | _ | datum, later⟩
    · rw [hrun] at hfirst
      refine ⟨hfirst.of_error, ?_⟩
      intro hnone
      cases hnone
    · exact hothers later
    · rw [hrun] at hfirst
      refine ⟨stays_ok (some datum) hfirst.start_le hfirst.position_le, ?_⟩
      intro hnone
      cases hnone

theorem readBy_stays {progress : Progress} {ahead : List Char}
    (hahead : input.ahead? progress.position = some ahead)
    (hposition : progress.position ≤ input.text.length)
    (halternatives : ∀ alternative ∈ alternatives, ∀ trace,
      Stays input progress.position
        (alternative.runFrom input ⟨progress.position, trace⟩)) :
    Stays input progress.position
      ((readBy alternatives).runFrom input progress) := by
  have hindex := Input.neg_length_le hahead
  obtain ⟨hfirst, hnone⟩ := firstOf_stays hposition halternatives progress
  simp only [readBy, runFrom_bind, runFrom_position]
  rcases hrun : (firstOf progress.position alternatives).runFrom input progress
    with ⟨fault | _ | datum, later⟩
  · rw [hrun] at hfirst
    exact hfirst.of_error
  · rw [hrun] at hnone
    have hback : later.position = progress.position := hnone rfl
    simp only [charAhead, runFrom_bind, runFrom_lookAheadBy, Int.add_zero,
      hback, hahead, runFrom_pure, runFrom_refuse]
    exact stays_refuseAt _ hback.ge (hback ▸ hposition) (by omega)
  · rw [hrun] at hfirst
    simp only [runFrom_bind, runFrom_position, runFrom_record, runFrom_pure]
    exact stays_ok datum hfirst.start_le hfirst.position_le

theorem readDatum_stays (progress : Progress) {ahead : List Char}
    (hahead : input.ahead? progress.position = some ahead)
    (hposition : progress.position ≤ input.text.length) :
    Stays input progress.position (readDatum.runFrom input progress) := by
  apply readBy_stays hahead hposition
  intro alternative hmem trace
  simp only [List.mem_cons, List.not_mem_nil, or_false] at hmem
  rcases hmem with rfl | rfl | rfl
  · exact readAtom_stays ⟨_, trace⟩ hahead hposition
  · exact readString_stays ⟨_, trace⟩ hahead hposition
  · exact readNumber_stays ⟨_, trace⟩ hahead hposition

/-- Before all that the text addresses the first look ahead fails. -/
theorem runFrom_readDatum_of_lt (progress : Progress)
    (hbefore : progress.position < -input.text.length) :
    readDatum.runFrom input progress =
      (.error (.outOfRange progress.position), progress) := by
  have hahead := Input.ahead?_eq_none_iff.2 hbefore
  simp only [readDatum, readBy, firstOf, readAtom, runFrom_bind,
    runFrom_position, runFrom_moveTo, runFrom_lookAhead, hahead]

/-- Past the end of the text nothing is left that could start an expression. -/
theorem runFrom_readDatum_of_gt (progress : Progress)
    (hpast : input.text.length < progress.position) :
    (readDatum.runFrom input progress).1 =
        .error ((Cause.noExpression none).fault input progress.position) ∧
      (readDatum.runFrom input progress).2.position = progress.position := by
  have hnothing : input.text.drop progress.position.toNat = [] :=
    List.drop_eq_nil_of_le (by omega)
  have hreading : reading [] = .refused (.noExpression none) 0 0 := rfl
  rw [runFrom_readDatum input progress (by omega), hnothing, hreading]
  simp [Reading.result, Reading.length]

/-- From whatever position a text is refused, the diagnostic is that of a cause
and of its place. -/
theorem exists_cause_of_refused {progress : Progress} {diagnostic : Diagnostic}
    (hrefused : (readDatum.runFrom input progress).1 =
      .error (.refused diagnostic)) :
    ∃ (cause : Cause) (offset : Int),
      diagnostic = cause.diagnostic input offset := by
  by_cases hbefore : progress.position < -input.text.length
  · rw [runFrom_readDatum_of_lt progress hbefore] at hrefused
    cases hrefused
  · by_cases hpast : input.text.length < progress.position
    · rw [(runFrom_readDatum_of_gt progress hpast).1] at hrefused
      have hfault := Except.error.inj hrefused
      exact ⟨_, _, Cause.eq_diagnostic_of_fault hfault⟩
    · obtain ⟨ahead, hahead⟩ := Input.exists_ahead? (not_lt.1 hbefore)
      have hstays := readDatum_stays progress hahead (not_lt.1 hpast)
      obtain ⟨cause, offset, hfault⟩ := hstays.refused _ hrefused
      exact ⟨cause, offset, Fault.refused.inj hfault⟩

end Expression

/-! ## Places that cannot be told -/

namespace Input

/-- The last line feed before an offset, if any, lies in the text. -/
theorem lastBreak_lt (input : Input) (offset : Int) :
    input.lastBreak offset < input.text.length := by
  have hbefore := (List.take_prefix (input.bound offset) input.text).length_le
  rw [lastBreak, before]
  omega

theorem column_pos {input : Input} {offset : Int}
    (hpast : input.text.length < offset) : 0 < input.column offset := by
  have hbreak := input.lastBreak_lt offset
  rw [column]
  omega

theorem canTell_eq_false_iff {input : Input} {offset : Int}
    (hpast : input.text.length < offset) :
    input.canTell offset = false ↔ 10 ^ digitLimit ≤ input.column offset := by
  have hcolumn := column_pos hpast
  have hlimit : 0 < digitLimit := by decide
  calc
    input.canTell offset = false ↔
        ¬ (decimalDigits (input.column offset).natAbs).length ≤ digitLimit := by
      rw [canTell, decide_eq_false (by omega), Bool.false_or,
        decide_eq_false_iff_not]
    _ ↔ 10 ^ digitLimit ≤ (input.column offset).natAbs := by
      rw [not_le, lt_length_decimalDigits_iff hlimit]
    _ ↔ 10 ^ digitLimit ≤ input.column offset := by
      rw [← Int.natAbs_of_nonneg hcolumn.le]
      norm_cast

end Input

/-! ## All positions -/

/-- What becomes of a reader that is set to a position. -/
structure IsSafeAt (input : Input) (start : Int) (trace : List Event) :
    Prop where
  /-- The position is out of range exactly before all that the text
  addresses. -/
  outOfRange_iff :
    (∃ offset, (readDatum.runFrom input ⟨start, trace⟩).1 =
      .error (.outOfRange offset)) ↔ start < -input.text.length
  /-- Out of range nothing moves. -/
  unmoved : start < -input.text.length →
    (readDatum.runFrom input ⟨start, trace⟩).2 = ⟨start, trace⟩
  /-- A place cannot be told exactly if it lies past the end of the text and
  its column has more than 4300 digits. -/
  tooManyDigits_iff :
    (readDatum.runFrom input ⟨start, trace⟩).1 = .error .tooManyDigits ↔
      input.text.length < start ∧ 10 ^ digitLimit ≤ input.column start
  /-- Everywhere else the reader returns a datum or refuses the text. -/
  settled : -input.text.length ≤ start →
    ¬ (input.text.length < start ∧ 10 ^ digitLimit ≤ input.column start) →
      (∃ datum, (readDatum.runFrom input ⟨start, trace⟩).1 = .ok datum) ∨
        ∃ diagnostic, (readDatum.runFrom input ⟨start, trace⟩).1 =
          .error (.refused diagnostic)
  /-- The reader never moves back, and never past the end of the text. -/
  bounded : -input.text.length ≤ start →
    start ≤ (readDatum.runFrom input ⟨start, trace⟩).2.position ∧
      (readDatum.runFrom input ⟨start, trace⟩).2.position ≤
        max start input.text.length

/-- The pieces of the text that are valued as numerals, in an action that is run
from a position, have digits only. -/
structure ValuesDigitsOnly (input : Input) (start : Int) (trace : List Event) :
    Prop where
  /-- The piece of a decimal numeral may wrap around the end of the text. -/
  decimal : ∀ ahead, input.ahead? start = some ahead →
    ∀ char ∈ input.slice start (start + (ahead.takeWhile isDigit).length),
      isDigit char = true
  /-- The piece behind a radix letter is valued only if all its characters are
  digits of the radix. -/
  radix : ∀ (begin : Int) (radix : Radix) (digits : List Char) (value : Int),
    ((checkDigits begin radix digits).runFrom input ⟨start, trace⟩).1 =
      .ok value → ∀ char ∈ digits, radix.isDigit char = true
  /-- No character without a value is found when the value is taken. -/
  known : ∀ (begin : Int) (radix : Radix) (digits : List Char) (bad : BadDigit),
    ((checkDigits begin radix digits).runFrom input ⟨start, trace⟩).1 ≠
      .error (.badDigit bad)

theorem valuesDigitsOnly (input : Input) (start : Int) (trace : List Event) :
    ValuesDigitsOnly input start trace := by
  refine ⟨?_, ?_, ?_⟩
  · intro ahead hahead char hmem
    exact isDigit_of_mem_slice hahead hmem
  · intro begin radix digits value hvalue
    rcases runFrom_checkDigits_cases input ⟨start, trace⟩ begin radix digits
      with ⟨cause, index, -, hrefused⟩ | ⟨hdigits, -⟩
    · rw [hrefused, runFrom_refuseAt] at hvalue
      cases hvalue
    · exact hdigits
  · intro begin radix digits bad hbad
    rcases runFrom_checkDigits_cases input ⟨start, trace⟩ begin radix digits
      with ⟨cause, index, -, hrefused⟩ | ⟨-, hvalue⟩
    · rw [hrefused, runFrom_refuseAt, Cause.fault] at hbad
      split at hbad <;> cases hbad
    · rw [hvalue] at hbad
      cases hbad

section Regions

variable {input : Input} {start : Int} (trace : List Event)

theorem isSafeAt_of_lt (hbefore : start < -input.text.length) :
    IsSafeAt input start trace := by
  have hrun := runFrom_readDatum_of_lt ⟨start, trace⟩ hbefore
  refine ⟨?_, ?_, ?_, ?_, ?_⟩
  · rw [hrun]
    exact ⟨fun _ => hbefore, fun _ => ⟨start, rfl⟩⟩
  · intro _
    rw [hrun]
  · rw [hrun]
    constructor
    · intro hlong
      cases hlong
    · omega
  · omega
  · omega

/-- In the text or in its tail, the reader stays in the text. -/
theorem isSafeAt_of_le (hindex : -input.text.length ≤ start)
    (hstart : start ≤ input.text.length) : IsSafeAt input start trace := by
  obtain ⟨ahead, hahead⟩ := Input.exists_ahead? hindex
  obtain ⟨hposition, hend, hrefused⟩ :=
    readDatum_stays ⟨start, trace⟩ hahead hstart
  have hfault : ∀ fault,
      (readDatum.runFrom input ⟨start, trace⟩).1 = .error fault →
        ∃ diagnostic, fault = .refused diagnostic := by
    intro fault hfault
    obtain ⟨cause, offset, hrefused⟩ := hrefused fault hfault
    exact ⟨_, hrefused⟩
  refine ⟨?_, ?_, ?_, ?_, ?_⟩
  · refine ⟨?_, by omega⟩
    rintro ⟨offset, hrange⟩
    obtain ⟨diagnostic, hrefused⟩ := hfault _ hrange
    contradiction
  · omega
  · refine ⟨?_, by omega⟩
    intro hlong
    obtain ⟨diagnostic, hrefused⟩ := hfault _ hlong
    contradiction
  · intro _ _
    cases hresult : (readDatum.runFrom input ⟨start, trace⟩).1 with
    | ok datum => exact .inl ⟨datum, rfl⟩
    | error fault =>
      obtain ⟨diagnostic, rfl⟩ := hfault fault hresult
      exact .inr ⟨diagnostic, rfl⟩
  · intro _
    exact ⟨hposition, le_max_of_le_right hend⟩

/-- Past the end of the text the reader stays where it is, and it depends on the
column whether the refusal can be told. -/
theorem isSafeAt_of_gt (hpast : input.text.length < start) :
    IsSafeAt input start trace := by
  obtain ⟨hresult, hposition⟩ :=
    runFrom_readDatum_of_gt ⟨start, trace⟩ hpast
  have hlong := Input.canTell_eq_false_iff hpast
  rw [Cause.fault] at hresult
  refine ⟨?_, ?_, ?_, ?_, ?_⟩
  · refine ⟨?_, by omega⟩
    rintro ⟨offset, hrange⟩
    rw [hresult] at hrange
    split at hrange <;> cases hrange
  · omega
  · rw [hresult, ← hlong]
    cases input.canTell start <;> simp [hpast]
  · intro _ htold
    rw [← hlong, and_iff_right hpast, Bool.not_eq_false] at htold
    rw [hresult, if_pos htold]
    exact .inr ⟨_, rfl⟩
  · intro _
    rw [hposition]
    exact ⟨le_refl start, le_max_left start _⟩

end Regions

theorem isSafeAt (input : Input) (start : Int) (trace : List Event) :
    IsSafeAt input start trace := by
  by_cases hbefore : start < -input.text.length
  · exact isSafeAt_of_lt trace hbefore
  · by_cases hpast : input.text.length < start
    · exact isSafeAt_of_gt trace hpast
    · exact isSafeAt_of_le trace (not_lt.1 hbefore) (not_lt.1 hpast)

/-- A position at the beginning of the text lies in it, so a datum is read there
or the text is refused. -/
theorem readInput_ok_or_refused (input : Input) :
    (∃ datum, (readInput input).1 = .ok datum) ∨
      ∃ diagnostic, (readInput input).1 = .error (.refused diagnostic) := by
  cases hresult : (readInput input).1 with
  | ok datum => exact .inl ⟨datum, rfl⟩
  | error fault =>
    obtain ⟨cause, distance, length, -, rfl⟩ := readInput_error_iff.1 hresult
    exact .inr ⟨_, rfl⟩

theorem exists_recognize_eq (text : String) :
    ∃ line, recognize text = .ok line := by
  rw [recognize]
  rcases readInput_ok_or_refused (.ofString text) with
    ⟨datum, hresult⟩ | ⟨diagnostic, hresult⟩
  · rw [hresult]
    exact ⟨_, rfl⟩
  · rw [hresult]
    exact ⟨_, rfl⟩

/-- A reader can be set to every position: it is out of range only before all
that the text addresses, no digit is valued that has not been checked, and the
only other way to return neither a datum nor a diagnostic is a column that has
too many digits.  From the beginning of a text there is always a datum or a
diagnostic, hence a verdict. -/
theorem readDatum_isSafeAt :
    (∀ (input : Input) (start : Int) (trace : List Event),
      IsSafeAt input start trace ∧ ValuesDigitsOnly input start trace) ∧
    (∀ input : Input, (∃ datum, (readInput input).1 = .ok datum) ∨
      ∃ diagnostic, (readInput input).1 = .error (.refused diagnostic)) ∧
    ∀ text, ∃ line, recognize text = .ok line := by
  refine ⟨?_, readInput_ok_or_refused, exists_recognize_eq⟩
  intro input start trace
  exact ⟨isSafeAt input start trace, valuesDigitsOnly input start trace⟩

/-- Far enough behind the empty text there is neither a datum nor a diagnostic,
since the column would have 4301 digits. -/
theorem readDatum_untold :
    -((Input.ofString "").text.length : Int) ≤ 10 ^ 4300 - 1 ∧
    ¬ ((∃ datum, (readDatum.runFrom (.ofString "") ⟨10 ^ 4300 - 1, []⟩).1 =
        .ok datum) ∨
      ∃ diagnostic, (readDatum.runFrom (.ofString "") ⟨10 ^ 4300 - 1, []⟩).1 =
        .error (.refused diagnostic)) := by
  have hlimit : (10 : Int) ^ 4300 = 10 ^ digitLimit := rfl
  have hlarge : (1 : Int) < 10 ^ digitLimit :=
    one_lt_pow₀ (by decide) (by decide)
  have hpast : ((Input.ofString "").text.length : Int) < 10 ^ digitLimit - 1 :=
    sub_pos.2 hlarge
  have hcolumn : (Input.ofString "").column (10 ^ digitLimit - 1) =
      10 ^ digitLimit := by
    have htext : (Input.ofString "").text = [] := rfl
    rw [Input.column, Input.lastBreak, Input.before, htext, List.take_nil]
    simp
  have htell := (Input.canTell_eq_false_iff hpast).2 hcolumn.ge
  have hresult := (runFrom_readDatum_of_gt ⟨_, []⟩ hpast).1
  rw [Cause.fault, htell] at hresult
  have hindex : -((Input.ofString "").text.length : Int) ≤ 0 :=
    neg_nonpos.2 (Int.natCast_nonneg _)
  rw [hlimit, hresult]
  refine ⟨hindex.trans (hpast.le.trans' (Int.natCast_nonneg _)), ?_⟩
  rintro (⟨datum, hdatum⟩ | ⟨diagnostic, hrefused⟩)
  · cases hdatum
  · cases hrefused

end LispDatum.Reader
