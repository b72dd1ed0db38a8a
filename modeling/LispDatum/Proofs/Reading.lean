import LispDatum.Proofs.CharClass
import LispDatum.Proofs.Positional
import LispDatum.Proofs.StringBody
import LispDatum.Reader.Expression
import LispDatum.Reader.Lemmas
import Mathlib.Data.List.TakeWhile

/-!
# What the characters ahead read as

Reading one expression moves a position over an input and leaves a trace, but
away from negative offsets it decides on the characters ahead alone.  `reading`
is that decision as a function of a list of characters, and `runFrom_readDatum`
says that the reader does what it tells: it returns the datum or the diagnostic,
moves by its length and adds its event to the trace.  What is proved of the
reader afterwards is proved of `reading`.
-/

namespace LispDatum.Reader

open LispDatum.Numeral

/-- What becomes of the characters ahead. -/
inductive Reading where
  /-- A datum is spelled by the first `length` characters. -/
  | accepted (datum : Datum) (length : Nat)
  /-- A cause for refusal lies `distance` characters ahead, and is found after
  `length` characters are passed over. -/
  | refused (cause : Cause) (distance length : Nat)
deriving DecidableEq, Repr

namespace Reading

def length : Reading → Nat
  | accepted _ length => length
  | refused _ _ length => length

/-- The datum that is returned, or the fault. -/
def result (input : Input) (position : Int) : Reading → Except Fault Datum
  | accepted datum _ => .ok datum
  | refused cause distance _ =>
    .error (cause.fault input (position + distance))

def event (position : Int) : Reading → Event
  | accepted datum length => .accepted datum.tag (position + length)
  | refused cause distance _ =>
    .found cause.kind (position + distance) cause.message

end Reading

/-! ## The alternatives as functions of the characters ahead -/

def atomReading? (ahead : List Char) : Option Reading :=
  if startsAtom ahead && !startsRadixLiteral ahead then
    some (.accepted (datumOfName (ahead.take (atomLength ahead)))
      (atomLength ahead))
  else none

def stringReading? : List Char → Option Reading
  | '"' :: rest =>
    match Body.scan rest with
    | .closed contents length =>
      some (.accepted (.string (String.ofList contents)) (1 + length))
    | .broken cause length => some (.refused cause (1 + length) (1 + length))
  | _ => none

/-- The digits after a radix letter: all must be digits of the radix, of which
there must be one. -/
def digitsReading (radix : Radix) (digits : List Char) : Reading :=
  if digits.isEmpty then .refused (.noDigits radix) 2 2
  else
    match digits.dropWhile radix.isDigit with
    | [] =>
      .accepted (.number (positional radix.base digits)) (2 + digits.length)
    | char :: _ =>
      .refused (.badDigit radix char)
        (2 + (digits.takeWhile radix.isDigit).length) (2 + digits.length)

def radixReading (ahead : List Char) : Reading :=
  match (ahead.drop 1).head?.bind Radix.ofLetter? with
  | none => .refused (.badRadix (ahead.drop 1).head?) 1 1
  | some radix => digitsReading radix ((ahead.drop 2).takeWhile isWordChar)

def numberReading? (ahead : List Char) : Option Reading :=
  if startsRadixLiteral ahead then some (radixReading ahead)
  else if ahead.head?.any isDigit then
    some (.accepted (.number (positional 10 (ahead.takeWhile isDigit)))
      (ahead.takeWhile isDigit).length)
  else none

/-- The first of some alternatives that does not decline the characters ahead;
if all decline, no expression starts there. -/
def readingBy (views : List (List Char → Option Reading)) (ahead : List Char) :
    Reading :=
  (views.findSome? fun view => view ahead).getD
    (.refused (.noExpression ahead.head?) 0 0)

/-- What the characters ahead read as. -/
def reading (ahead : List Char) : Reading :=
  readingBy [atomReading?, stringReading?, numberReading?] ahead

/-! ## What lies ahead -/

theorem ahead?_of_nonneg (input : Input) {offset : Int} (hoffset : 0 ≤ offset) :
    input.ahead? offset = some (input.text.drop offset.toNat) := by
  rw [Input.ahead?, if_pos hoffset]

namespace Input

variable {input : Input} {offset : Int} {ahead : List Char}

/-- Behind a negative offset comes the tail of the text, and then the text. -/
theorem ahead?_of_neg (hneg : offset < 0)
    (hahead : input.ahead? offset = some ahead) :
    ∃ index : Nat, index < input.text.length ∧
      offset = index - input.text.length ∧
      ahead = input.text.drop index ++ input.text := by
  rw [ahead?, if_neg (by omega)] at hahead
  split at hahead
  · refine ⟨(input.text.length + offset).toNat, by omega, by omega, ?_⟩
    exact (Option.some.inj hahead).symm
  · contradiction

theorem ahead?_tail {index : Nat} (hindex : index < input.text.length) :
    input.ahead? (index - input.text.length) =
      some (input.text.drop index ++ input.text) := by
  have htail : (input.text.length + ((index : Int) - input.text.length)).toNat =
      index := by omega
  rw [ahead?, if_neg (by omega), if_pos (by omega), htail]

/-- Moving on leaves behind what is passed over, also from the end of the text
to its beginning. -/
theorem ahead?_add (hahead : input.ahead? offset = some ahead) (length : Nat) :
    input.ahead? (offset + length) = some (ahead.drop length) := by
  by_cases hnonneg : 0 ≤ offset
  · rw [ahead?_of_nonneg input hnonneg] at hahead
    rw [ahead?_of_nonneg input (by omega), ← Option.some.inj hahead,
      List.drop_drop, Int.toNat_add hnonneg (by omega), Int.toNat_natCast]
  · obtain ⟨index, hindex, rfl, rfl⟩ := ahead?_of_neg (by omega) hahead
    by_cases htail : index + length < input.text.length
    · have hoffset : (index : Int) - input.text.length + length =
          (index + length : Nat) - input.text.length := by omega
      have hwithin : length ≤ (input.text.drop index).length := by
        rw [List.length_drop]
        omega
      rw [hoffset, ahead?_tail htail, List.drop_append_of_le_length hwithin,
        List.drop_drop]
    · have hoffset : (index : Int) - input.text.length + length =
          (length - (input.text.length - index) : Nat) := by omega
      have hpast : (input.text.drop index).length ≤ length := by
        rw [List.length_drop]
        omega
      rw [hoffset, ahead?_of_nonneg input (by omega), Int.toNat_natCast,
        List.drop_append, List.drop_eq_nil_of_le hpast, List.nil_append,
        List.length_drop]

end Input

/-! ## The contents of a string -/

section Strings

variable {input : Input} {position : Int} {trace : List Event}
  {ahead : List Char}

/-- What reading an escape ends with, where these characters are behind its
backslash. -/
def escapeOutcome (input : Input) (progress : Progress) :
    List Char → Except Fault Char × Progress
  | [] => (refuse .openEscape : ReadM Char).runFrom input progress
  | char :: _ =>
    match unescape? char with
    | some decoded =>
      (.ok decoded, { progress with position := progress.position + 1 })
    | none => (refuse (.badEscape char) : ReadM Char).runFrom input progress

theorem runFrom_readEscape (hahead : input.ahead? position = some ahead) :
    readEscape.runFrom input ⟨position, trace⟩ =
      escapeOutcome input ⟨position, trace⟩ ahead := by
  simp only [readEscape, runFrom_bind, runFrom_lookAhead, hahead]
  cases ahead with
  | nil => rfl
  | cons char rest =>
    simp only [escapeOutcome]
    cases unescape? char <;> rfl

/-- What reading the contents of a string ends with, where they scan like
this. -/
def Body.outcome (input : Input) (progress : Progress) :
    Body → Except Fault (List Char) × Progress
  | .closed contents length =>
    (.ok contents, { progress with position := progress.position + length })
  | .broken cause length =>
    (refuse cause : ReadM (List Char)).runFrom input
      { progress with position := progress.position + length }

/-- A character is put in front of the contents, and none in front of a
fault. -/
theorem Body.outcome_cons (char : Char) (length : Nat) (body : Body) :
    (body.cons char length).outcome input ⟨position, trace⟩ =
      match body.outcome input ⟨position + length, trace⟩ with
      | (.ok contents, later) => (.ok (char :: contents), later)
      | (.error fault, later) => (.error fault, later) := by
  cases body <;> simp [Body.cons, outcome, Int.add_assoc]

/-- Reading the contents of a string does what their scan tells.  The induction
is on the scan, from wherever the reader stands. -/
theorem runFrom_readContents (hahead : input.ahead? position = some ahead) :
    (readContents ahead).runFrom input ⟨position, trace⟩ =
      (Body.scan ahead).outcome input ⟨position, trace⟩ := by
  have hnext {position : Int} {first : Char} {rest : List Char}
      (hfirst : input.ahead? position = some (first :: rest)) :
      input.ahead? (position + 1) = some rest := Input.ahead?_add hfirst 1
  fun_induction Body.scan ahead generalizing position with
  | case1 => simp [readContents, Body.outcome]
  | case2 rest => rfl
  | case3 =>
    have hescape := hnext hahead
    simp [readContents, runFrom_readEscape hescape, escapeOutcome, Body.outcome]
  | case4 char rest decoded hdecoded hind =>
    have hescape := hnext hahead
    have hrest := hnext hescape
    have htwo : position + 1 + 1 = position + (2 : Nat) := by omega
    rw [htwo] at hrest
    rw [Body.outcome_cons, ← hind hrest]
    simp only [readContents, runFrom_bind, runFrom_advance, Nat.cast_one,
      runFrom_readEscape hescape, escapeOutcome, hdecoded, htwo, runFrom_pure]
    rcases (readContents rest).runFrom input ⟨position + (2 : Nat), trace⟩ with
      ⟨_ | contents, later⟩ <;> rfl
  | case5 char rest hchar =>
    have hescape := hnext hahead
    simp [readContents, runFrom_readEscape hescape, escapeOutcome, hchar,
      Body.outcome]
  | case6 char rest hquote hlast hbackslash hind =>
    have hread : readContents (char :: rest) = do
        advance 1
        return char :: (← readContents rest) := by
      rw [readContents] <;> assumption
    rw [Body.outcome_cons, Nat.cast_one, ← hind (hnext hahead), hread]
    simp only [runFrom_bind, runFrom_advance, Nat.cast_one, runFrom_pure]
    rcases (readContents rest).runFrom input ⟨position + 1, trace⟩ with
      ⟨_ | contents, later⟩ <;> rfl

end Strings

/-! ## Each alternative does what its function tells -/

section Alternatives

variable (input : Input) (progress : Progress)

/-- What an alternative returns and what progress it leaves.  Only a refusal is
recorded by the alternative itself. -/
def outcome :
    Option Reading → Except Fault (Option Datum) × Progress
  | none => (.ok none, progress)
  | some (.accepted datum length) =>
    (.ok (some datum), { progress with position := progress.position + length })
  | some (.refused cause distance length) =>
    (.error (cause.fault input (progress.position + distance)),
      { position := progress.position + length
        trace := progress.trace ++
          [.found cause.kind (progress.position + distance) cause.message] })

theorem outcome_refused (cause : Cause) (distance length : Nat) :
    outcome input progress (some (.refused cause distance length)) =
      (refuseAt (progress.position + distance) cause :
        ReadM (Option Datum)).runFrom input
          { progress with position := progress.position + length } := by
  rw [runFrom_refuseAt, outcome]

/-- The alternative decides on the characters ahead, by the given function. -/
def Realizes (alternative : ReadM (Option Datum))
    (view : List Char → Option Reading) : Prop :=
  ∀ (input : Input) (progress : Progress), 0 ≤ progress.position →
    alternative.runFrom input progress =
      outcome input progress (view (input.text.drop progress.position.toNat))

theorem runFrom_lookAhead_of_nonneg (hposition : 0 ≤ progress.position) :
    lookAhead.runFrom input progress =
      (.ok (input.text.drop progress.position.toNat), progress) := by
  rw [runFrom_lookAhead, ahead?_of_nonneg input hposition]

/-- The piece of the text that is passed over is the beginning of what was
ahead. -/
theorem slice_of_nonneg {start : Int} (hstart : 0 ≤ start)
    (length : Nat) :
    input.slice start (start + length) =
      (input.text.drop start.toNat).take length := by
  have hstop : 0 ≤ start + length := by omega
  have hlength : (start + length).toNat - start.toNat = length := by omega
  rw [Input.slice, Input.before, Input.bound, Input.bound,
    if_neg (not_lt.2 hstart), if_neg (not_lt.2 hstop), List.drop_take, hlength]

theorem readAtom_realizes : Realizes readAtom atomReading? := by
  intro input progress hposition
  simp only [readAtom, runFrom_bind,
    runFrom_lookAhead_of_nonneg input progress hposition, atomReading?]
  split
  · simp only [runFrom_bind, runFrom_takeNext, runFrom_pure,
      slice_of_nonneg input hposition, outcome]
  · simp only [runFrom_pure, outcome]

theorem runFrom_readString {ahead : List Char}
    (hahead : input.ahead? progress.position = some ahead) :
    readString.runFrom input progress =
      outcome input progress (stringReading? ahead) := by
  simp only [readString, runFrom_bind, runFrom_lookAhead, hahead]
  rw [stringReading?.eq_def]
  split
  · next rest =>
    have hrest : input.ahead? (progress.position + 1) = some rest :=
      Input.ahead?_add hahead 1
    simp only [runFrom_bind, runFrom_advance, Nat.cast_one,
      runFrom_readContents hrest]
    cases Body.scan rest <;>
      simp [Body.outcome, outcome, Int.add_assoc]
  · simp only [runFrom_pure, outcome]

theorem readString_realizes : Realizes readString stringReading? := by
  intro input progress hposition
  exact runFrom_readString input progress (ahead?_of_nonneg input hposition)

/-- The first character that fails a test, found by index or by splitting the
list where the test first fails. -/
theorem find?_zipIdx_not (test : Char → Bool) (chars : List Char)
    (start : Nat) :
    ((chars.zipIdx start).find? fun entry => !test entry.1) =
      (chars.dropWhile test).head?.map fun char =>
        (char, start + (chars.takeWhile test).length) := by
  induction chars generalizing start with
  | nil => rfl
  | cons char chars hind =>
    by_cases hchar : test char = true
    · have hshift : start + 1 + (chars.takeWhile test).length =
          start + ((chars.takeWhile test).length + 1) := by omega
      simp [List.zipIdx_cons, hchar, hind, hshift]
    · simp [List.zipIdx_cons, hchar]

/-- The digits of a radix have values, so their run has one. -/
theorem runFrom_valueOf_of_isHexDigit {base : Nat} {digits : List Char}
    (hdigits : ∀ char ∈ digits, isHexDigit char = true) :
    (valueOf base digits).runFrom input progress =
      (.ok (positional base digits), progress) := by
  rw [runFrom_valueOf, digitsValue_eq_positional base fun char hmem =>
    isSome_digitValue? (hdigits char hmem)]

/-- Once the digits are passed over, the first of them that is none of the radix
decides. -/
theorem runFrom_checkDigits (radix : Radix) (digits : List Char) :
    ((fun value => some (Datum.number value)) <$>
        checkDigits (progress.position + 2) radix digits).runFrom input
        { progress with position := progress.position + 2 + digits.length } =
      outcome input progress (some (digitsReading radix digits)) := by
  have hlength (length : Nat) : progress.position + 2 + (length : Int) =
      progress.position + (2 + length : Nat) := by omega
  rw [runFrom_map, checkDigits, digitsReading]
  by_cases hempty : digits.isEmpty = true
  · have hnil : digits = [] := List.isEmpty_iff.1 hempty
    subst hnil
    simp [outcome]
  · simp only [hempty, if_false, Bool.false_eq_true, find?_zipIdx_not, zero_add]
    cases hrest : digits.dropWhile radix.isDigit with
    | nil =>
      have hdigits : ∀ char ∈ digits, isHexDigit char = true := by
        intro char hmem
        exact Radix.isHexDigit_of_isDigit
          (List.dropWhile_eq_nil_iff.1 hrest char hmem)
      simp only [List.head?_nil, Option.map_none, hlength,
        runFrom_valueOf_of_isHexDigit input _ hdigits, outcome]
    | cons char rest =>
      simp only [List.head?_cons, Option.map_some, runFrom_refuseAt, outcome,
        hlength]

theorem take_length_takeWhile (test : Char → Bool) (chars : List Char) :
    chars.take (chars.takeWhile test).length = chars.takeWhile test :=
  (List.prefix_iff_eq_take.1 (List.takeWhile_prefix test)).symm

theorem readRadix_realizes :
    Realizes (some <$> readRadix) fun ahead => some (radixReading ahead) := by
  intro input progress hposition
  have hnext : 0 ≤ progress.position + 1 := by omega
  have hstart : 0 ≤ progress.position + 2 := by omega
  have htwo : progress.position + 1 + 1 = progress.position + 2 := by omega
  have hahead : input.text.drop (progress.position + 1).toNat =
      (input.text.drop progress.position.toNat).drop 1 := by
    rw [List.drop_drop, Int.toNat_add hposition (by omega)]
    rfl
  have hrest : input.text.drop (progress.position + 2).toNat =
      (input.text.drop progress.position.toNat).drop 2 := by
    rw [List.drop_drop, Int.toNat_add hposition (by omega)]
    rfl
  have htwice : ((input.text.drop progress.position.toNat).drop 1).drop 1 =
      (input.text.drop progress.position.toNat).drop 2 := List.drop_drop
  simp only [readRadix, runFrom_map, runFrom_bind, runFrom_advance,
    Nat.cast_one, runFrom_lookAhead_of_nonneg input ⟨_, _⟩ hnext, hahead,
    radixReading]
  cases hradix : ((input.text.drop progress.position.toNat).drop 1).head?.bind
      Radix.ofLetter? with
  | none =>
    simp only [runFrom_refuse, runFrom_refuseAt, outcome, Nat.cast_one]
  | some radix =>
    simp only [runFrom_bind, runFrom_advance, runFrom_position,
      runFrom_takeNext, Nat.cast_one, htwo, slice_of_nonneg input hstart, hrest,
      htwice, take_length_takeWhile, ← runFrom_checkDigits, runFrom_map]
    generalize ((input.text.drop progress.position.toNat).drop 2).takeWhile
      isWordChar = digits
    rcases (checkDigits (progress.position + 2) radix digits).runFrom input
      { progress with position := progress.position + 2 + digits.length } with
      ⟨_ | value, later⟩ <;> rfl

theorem readNumber_realizes : Realizes readNumber numberReading? := by
  intro input progress hposition
  simp only [readNumber, runFrom_bind,
    runFrom_lookAhead_of_nonneg input progress hposition, numberReading?]
  split
  · have hradix := readRadix_realizes input progress hposition
    rw [map_eq_pure_bind] at hradix
    exact hradix
  · split
    · have hdigits : ∀ char ∈
          (input.text.drop progress.position.toNat).takeWhile isDigit,
          isHexDigit char = true := by
        intro char hmem
        exact isHexDigit_of_isDigit (List.mem_takeWhile_imp hmem)
      simp only [runFrom_bind, runFrom_takeNext, runFrom_pure,
        slice_of_nonneg input hposition, take_length_takeWhile,
        runFrom_valueOf_of_isHexDigit input _ hdigits, outcome, Nat.cast_ofNat]
    · simp only [runFrom_pure, outcome]

/-! ## The first alternative that does not decline -/

/-- Declining leaves the progress alone, so the alternatives see the same
characters and the first that does not decline is the one that counts. -/
theorem runFrom_firstOf {start : Int} (hstart : 0 ≤ start)
    {alternatives : List (ReadM (Option Datum))}
    {views : List (List Char → Option Reading)}
    (hrealizes : List.Forall₂ Realizes alternatives views) :
    (firstOf start alternatives).runFrom input progress =
      outcome input { progress with position := start }
        (views.findSome? fun view => view (input.text.drop start.toNat)) := by
  induction hrealizes generalizing progress with
  | nil => rfl
  | @cons alternative view alternatives views hhead htail hind =>
    have hfirst := hhead input { progress with position := start } hstart
    simp only [firstOf, runFrom_bind, runFrom_moveTo, hfirst,
      List.findSome?_cons]
    cases hview : view (input.text.drop start.toNat) with
    | none => simp only [outcome, hind]
    | some reading => cases reading <;> simp only [outcome, runFrom_pure]

end Alternatives

/-! ## Reading one expression -/

theorem runFrom_readBy (input : Input) (progress : Progress)
    (hposition : 0 ≤ progress.position)
    {alternatives : List (ReadM (Option Datum))}
    {views : List (List Char → Option Reading)}
    (hrealizes : List.Forall₂ Realizes alternatives views) :
    (readBy alternatives).runFrom input progress =
      let reading := readingBy views
        (input.text.drop progress.position.toNat)
      (reading.result input progress.position,
        { position := progress.position + reading.length
          trace := progress.trace ++ [reading.event progress.position] }) := by
  simp only [readBy, runFrom_bind, runFrom_position,
    runFrom_firstOf input progress hposition hrealizes, readingBy]
  cases (views.findSome? fun view =>
      view (input.text.drop progress.position.toNat)) with
  | none =>
    simp [outcome, charAhead, runFrom_lookAheadBy,
      ahead?_of_nonneg input hposition, Reading.result, Reading.length,
      Reading.event]
  | some reading =>
    cases reading <;>
      simp [outcome, Reading.result, Reading.length, Reading.event]

/-- The reader does what `reading` tells of the characters ahead. -/
theorem runFrom_readDatum (input : Input) (progress : Progress)
    (hposition : 0 ≤ progress.position) :
    readDatum.runFrom input progress =
      let reading := reading (input.text.drop progress.position.toNat)
      (reading.result input progress.position,
        { position := progress.position + reading.length
          trace := progress.trace ++ [reading.event progress.position] }) :=
  runFrom_readBy input progress hposition <|
    .cons readAtom_realizes <| .cons readString_realizes <|
      .cons readNumber_realizes .nil

theorem readInput_eq (input : Input) :
    readInput input =
      ((reading input.text).result input 0,
        { position := (reading input.text).length
          trace := [(reading input.text).event 0] }) := by
  have hread := runFrom_readDatum input {} (le_refl 0)
  simpa only [readInput, Int.toNat_zero, List.drop_zero, zero_add,
    List.nil_append] using hread

end LispDatum.Reader
