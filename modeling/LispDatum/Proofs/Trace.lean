import LispDatum.Proofs.AnyPosition
import LispDatum.Proofs.Choice

/-!
# What a reading records

A record is made in two places only: where a text is refused, and behind the
choice between the alternatives, for the datum that one of them returned.  So an
action that returns something has recorded nothing, and one that fails has
recorded its refusal once.  Each step of the reader keeps to this from whatever
position, and so do steps that follow each other; hence one reading leaves one
record, which tells how it ended.
-/

namespace LispDatum.Reader

open LispDatum.Numeral

/-- The records that an action has made when it ends with a fault. -/
def Fault.IsToldBy : Fault → List Event → Prop
  | .outOfRange _, records => records = []
  | .badDigit _, records => records = []
  | .refused diagnostic, records =>
    records = [.found diagnostic.kind diagnostic.offset diagnostic.message]
  | .tooManyDigits, records =>
    ∃ kind offset message, records = [.found kind offset message]

/-- Nothing is recorded behind a trace unless the run fails, and then its
refusal. -/
def AddsRefusal {Value : Type} (trace : List Event) :
    Except Fault Value × Progress → Prop
  | (.ok _, later) => later.trace = trace
  | (.error fault, later) =>
    ∃ records, later.trace = trace ++ records ∧ fault.IsToldBy records

/-- The action records nothing but its own refusal, wherever it is run. -/
def RecordsRefusal {Value : Type} (action : ReadM Value) : Prop :=
  ∀ (input : Input) (progress : Progress),
    AddsRefusal progress.trace (action.runFrom input progress)

/-! ## Single steps -/

section Steps

variable {Value Result : Type}

theorem RecordsRefusal.pure (value : Value) :
    RecordsRefusal (pure value : ReadM Value) :=
  fun _ _ => rfl

/-- A failed action ends the sequence with its records; otherwise the next one
starts from the same trace. -/
theorem RecordsRefusal.bind {action : ReadM Value}
    {next : Value → ReadM Result} (haction : RecordsRefusal action)
    (hnext : ∀ value, RecordsRefusal (next value)) :
    RecordsRefusal (action >>= next) := by
  intro input progress
  have hfirst := haction input progress
  rw [runFrom_bind]
  rcases hrun : action.runFrom input progress with ⟨fault | value, later⟩
  · rw [hrun] at hfirst
    exact hfirst
  · rw [hrun] at hfirst
    have htrace : later.trace = progress.trace := hfirst
    rw [← htrace]
    exact hnext value input later

theorem recordsRefusal_position : RecordsRefusal position :=
  fun _ _ => rfl

theorem recordsRefusal_advance (length : Nat) :
    RecordsRefusal (advance length) :=
  fun _ _ => rfl

theorem recordsRefusal_takeNext (length : Nat) :
    RecordsRefusal (takeNext length) :=
  fun _ _ => rfl

theorem recordsRefusal_lookAhead : RecordsRefusal lookAhead := by
  intro input progress
  rw [runFrom_lookAhead]
  cases input.ahead? progress.position with
  | some ahead => rfl
  | none => exact ⟨[], (List.append_nil _).symm, rfl⟩

theorem recordsRefusal_valueOf (base : Nat) (digits : List Char) :
    RecordsRefusal (valueOf base digits) := by
  intro input progress
  rw [runFrom_valueOf]
  cases digitsValue base digits with
  | ok value => rfl
  | error bad => exact ⟨[], (List.append_nil _).symm, rfl⟩

/-- Refusing a text makes one record, also if the place cannot be told. -/
theorem recordsRefusal_refuseAt (offset : Int) (cause : Cause) :
    RecordsRefusal (refuseAt offset cause : ReadM Value) := by
  intro input progress
  rw [runFrom_refuseAt, Cause.fault]
  refine ⟨_, rfl, ?_⟩
  split
  · rfl
  · exact ⟨_, _, _, rfl⟩

theorem recordsRefusal_refuse (cause : Cause) :
    RecordsRefusal (refuse cause : ReadM Value) :=
  recordsRefusal_position.bind fun offset =>
    recordsRefusal_refuseAt offset cause

end Steps

/-! ## The alternatives -/

theorem recordsRefusal_readAtom : RecordsRefusal readAtom := by
  apply recordsRefusal_lookAhead.bind
  intro ahead
  split
  · exact (recordsRefusal_takeNext _).bind fun name => .pure _
  · exact .pure none

theorem recordsRefusal_readEscape : RecordsRefusal readEscape := by
  apply recordsRefusal_lookAhead.bind
  intro ahead
  split
  · exact recordsRefusal_refuse _
  · split
    · exact (recordsRefusal_advance 1).bind fun _ => .pure _
    · exact recordsRefusal_refuse _

theorem recordsRefusal_readContents (ahead : List Char) :
    RecordsRefusal (readContents ahead) := by
  fun_induction readContents ahead with
  | case1 => exact recordsRefusal_refuse _
  | case2 => exact (recordsRefusal_advance 1).bind fun _ => .pure _
  | case3 =>
    exact (recordsRefusal_advance 1).bind fun _ =>
      recordsRefusal_readEscape.bind fun _ => .pure _
  | case4 _ rest hind =>
    exact (recordsRefusal_advance 1).bind fun _ =>
      recordsRefusal_readEscape.bind fun _ => hind.bind fun _ => .pure _
  | case5 char rest _ _ _ hind =>
    exact (recordsRefusal_advance 1).bind fun _ => hind.bind fun _ => .pure _

theorem recordsRefusal_readString : RecordsRefusal readString := by
  apply recordsRefusal_lookAhead.bind
  intro ahead
  split
  · exact (recordsRefusal_advance 1).bind fun _ =>
      (recordsRefusal_readContents _).bind fun _ => .pure _
  · exact .pure none

theorem recordsRefusal_checkDigits (start : Int) (radix : Radix)
    (digits : List Char) : RecordsRefusal (checkDigits start radix digits) := by
  intro input progress
  rcases runFrom_checkDigits_cases input progress start radix digits with
    ⟨cause, index, -, hrefused⟩ | ⟨-, hvalue⟩
  · rw [hrefused]
    exact recordsRefusal_refuseAt _ cause input progress
  · rw [hvalue]
    rfl

theorem recordsRefusal_readRadix : RecordsRefusal readRadix := by
  apply (recordsRefusal_advance 1).bind
  intro _
  apply recordsRefusal_lookAhead.bind
  intro ahead
  split
  · exact recordsRefusal_refuse _
  · apply (recordsRefusal_advance 1).bind
    intro _
    apply recordsRefusal_position.bind
    intro start
    apply (recordsRefusal_takeNext _).bind
    intro digits
    exact (recordsRefusal_checkDigits start _ digits).bind fun value => .pure _

theorem recordsRefusal_readNumber : RecordsRefusal readNumber := by
  apply recordsRefusal_lookAhead.bind
  intro ahead
  split
  · exact recordsRefusal_readRadix.bind fun datum => .pure _
  · split
    · apply (recordsRefusal_takeNext _).bind
      intro digits
      exact (recordsRefusal_valueOf 10 digits).bind fun value => .pure _
    · exact .pure none

theorem recordsRefusal_of_mem {alternative : ReadM (Option Datum)}
    (hmem : alternative ∈ alternatives) : RecordsRefusal alternative := by
  simp only [alternatives, List.mem_cons, List.not_mem_nil, or_false] at hmem
  rcases hmem with rfl | rfl | rfl
  · exact recordsRefusal_readAtom
  · exact recordsRefusal_readString
  · exact recordsRefusal_readNumber

/-! ## The choice between them -/

section Choice

variable {input : Input} {start : Int} {trace : List Event}

theorem RecordsRefusal.trace_eq_of_declines
    {alternative : ReadM (Option Datum)} {progress : Progress}
    (hrecords : RecordsRefusal alternative)
    (hdeclines : Declines input progress alternative) :
    (alternative.runFrom input progress).2.trace = progress.trace := by
  have hadds := hrecords input progress
  rw [Declines] at hdeclines
  rcases hrun : alternative.runFrom input progress with ⟨fault | result, later⟩
  · rw [hrun] at hdeclines
    cases hdeclines
  · rw [hrun] at hadds
    exact hadds

/-- Alternatives that decline are passed over without a trace. -/
theorem runFrom_firstOf_append {earlier others : List (ReadM (Option Datum))}
    (hrecords : ∀ alternative ∈ earlier, RecordsRefusal alternative)
    (hdeclines : ∀ alternative ∈ earlier,
      Declines input ⟨start, trace⟩ alternative) (position : Int) :
    (firstOf start (earlier ++ others)).runFrom input ⟨position, trace⟩ =
      (firstOf start others).runFrom input ⟨start, trace⟩ := by
  induction earlier generalizing position with
  | nil => cases others <;> rfl
  | cons alternative earlier hind =>
    have hnone := hdeclines alternative List.mem_cons_self
    have hfirst := hrecords alternative List.mem_cons_self
    have htrace := hfirst.trace_eq_of_declines hnone
    rw [Declines] at hnone
    rw [List.cons_append, firstOf]
    simp only [runFrom_bind, runFrom_moveTo]
    rcases hrun : alternative.runFrom input ⟨start, trace⟩ with
      ⟨result, ⟨stop, record⟩⟩
    rw [hrun] at hnone htrace
    have hresult : result = .ok none := hnone
    have hrecord : record = trace := htrace
    rw [hresult, hrecord]
    exact hind
      (fun other hmem => hrecords other (List.mem_cons_of_mem _ hmem))
      (fun other hmem => hdeclines other (List.mem_cons_of_mem _ hmem))
      stop

/-- An alternative that does not decline ends the choice. -/
theorem runFrom_firstOf_cons {alternative : ReadM (Option Datum)}
    (others : List (ReadM (Option Datum)))
    (hcommits : ¬ Declines input ⟨start, trace⟩ alternative) :
    (firstOf start (alternative :: others)).runFrom input ⟨start, trace⟩ =
      alternative.runFrom input ⟨start, trace⟩ := by
  simp only [firstOf, runFrom_bind, runFrom_moveTo]
  rcases hrun : alternative.runFrom input ⟨start, trace⟩ with
    ⟨fault | _ | datum, later⟩
  · rfl
  · rw [Declines, hrun] at hcommits
    exact absurd rfl hcommits
  · rfl

theorem recordsRefusal_firstOf (start : Int)
    {order : List (ReadM (Option Datum))}
    (hrecords : ∀ alternative ∈ order, RecordsRefusal alternative) :
    RecordsRefusal (firstOf start order) := by
  have hmove : RecordsRefusal (moveTo start) := fun _ _ => rfl
  induction order with
  | nil => exact hmove.bind fun _ => .pure none
  | cons alternative others hind =>
    apply hmove.bind
    intro _
    apply (hrecords alternative List.mem_cons_self).bind
    intro result
    cases result with
    | some datum => exact .pure _
    | none =>
      exact hind fun other hmem =>
        hrecords other (List.mem_cons_of_mem alternative hmem)

end Choice

/-! ## One reading -/

/-- A reading that returns a datum records it, and one that fails records its
refusal. -/
theorem trace_readDatum (input : Input) (progress : Progress) :
    match readDatum.runFrom input progress with
    | (.ok datum, later) =>
      later.trace = progress.trace ++ [.accepted datum.tag later.position]
    | (.error fault, later) =>
      ∃ records, later.trace = progress.trace ++ records ∧
        fault.IsToldBy records := by
  have hfirst := recordsRefusal_firstOf progress.position
    (fun _ hmem => recordsRefusal_of_mem hmem) input progress
  change match (readBy alternatives).runFrom input progress with
    | (.ok datum, later) => _
    | (.error fault, later) => _
  simp only [readBy, runFrom_bind, runFrom_position]
  rcases hrun : (firstOf progress.position alternatives).runFrom input progress
    with ⟨fault | _ | datum, later⟩
  · rw [hrun] at hfirst
    exact hfirst
  · rw [hrun] at hfirst
    have htrace : later.trace = progress.trace := hfirst
    simp only [charAhead, runFrom_bind, runFrom_lookAheadBy, Int.add_zero]
    cases input.ahead? later.position with
    | none => exact ⟨[], by rw [List.append_nil, htrace], rfl⟩
    | some ahead =>
      have hrefused : AddsRefusal later.trace
          ((refuseAt later.position (.noExpression ahead.head?) :
            ReadM Datum).runFrom input later) :=
        recordsRefusal_refuseAt _ _ input later
      rw [runFrom_refuseAt] at hrefused
      simp only [runFrom_pure, runFrom_refuse, runFrom_refuseAt, ← htrace]
      exact hrefused
  · rw [hrun] at hfirst
    have htrace : later.trace = progress.trace := hfirst
    simp only [runFrom_bind, runFrom_position, runFrom_record, runFrom_pure,
      htrace]

/-- What a reading from the beginning of a text leaves in the trace, as it is
written out, and what the alternatives have to do with it. -/
structure IsRecordedOnce (input : Input) : Prop where
  /-- A datum is recorded by its tag and the position behind it. -/
  accepted : ∀ datum progress, readInput input = (.ok datum, progress) →
    progress.trace.map Event.render =
      ["parsed " ++ datum.tag.name ++ " ending at offset " ++
        decimal progress.position]
  /-- Otherwise the text is refused, and the finding is recorded. -/
  refused : ∀ fault progress, readInput input = (.error fault, progress) →
    ∃ diagnostic, fault = .refused diagnostic ∧
      progress.trace.map Event.render =
        [diagnostic.kind.text ++ " at offset " ++ decimal diagnostic.offset ++
          ": " ++ diagnostic.message]
  /-- An alternative that declines records nothing, wherever it is tried. -/
  declining : ∀ alternative ∈ alternatives, ∀ progress,
    Declines input progress alternative →
      (alternative.runFrom input progress).2.trace = progress.trace
  /-- The first alternative that does not decline is as if it had been tried
  alone: those before it leave nothing, and those behind it are not run. -/
  committing : ∀ earlier alternative later,
    alternatives = earlier ++ alternative :: later → ∀ progress,
      (∀ other ∈ earlier, Declines input progress other) →
      ¬ Declines input progress alternative →
        (firstOf progress.position alternatives).runFrom input progress =
          alternative.runFrom input progress

/-- The trace of a reading is one record, that of its outcome: either of the
datum or of the finding that the text is refused for. -/
theorem readInput_isRecordedOnce (input : Input) : IsRecordedOnce input where
  accepted := by
    intro datum progress haccepted
    have htrace := trace_readDatum input {}
    rw [readInput] at haccepted
    rw [haccepted] at htrace
    rw [htrace]
    rfl
  refused := by
    intro fault progress hrefused
    have htrace := trace_readDatum input {}
    rw [readInput] at hrefused
    rw [hrefused] at htrace
    obtain ⟨records, hrecords, htold⟩ := htrace
    rcases readInput_ok_or_refused input with
      ⟨datum, hdatum⟩ | ⟨diagnostic, hdiagnostic⟩
    · rw [readInput, hrefused] at hdatum
      cases hdatum
    · rw [readInput, hrefused] at hdiagnostic
      have hfault : fault = .refused diagnostic := Except.error.inj hdiagnostic
      rw [hfault] at htold
      have hrecord : records =
          [.found diagnostic.kind diagnostic.offset diagnostic.message] := htold
      refine ⟨diagnostic, hfault, ?_⟩
      rw [hrecords, hrecord]
      rfl
  declining := fun _ hmem _ hdeclines =>
    (recordsRefusal_of_mem hmem).trace_eq_of_declines hdeclines
  committing := by
    intro earlier alternative later hsplit progress hdeclines hcommits
    have hrecords : ∀ other ∈ earlier, RecordsRefusal other := by
      intro other hmem
      apply recordsRefusal_of_mem
      rw [hsplit]
      exact List.mem_append_left _ hmem
    rw [hsplit]
    exact (runFrom_firstOf_append hrecords hdeclines progress.position).trans
      (runFrom_firstOf_cons later hcommits)

end LispDatum.Reader
