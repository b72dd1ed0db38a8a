import LispDatum.Reader.Basic

/-!
# Equations of reading actions

What each action returns and what progress it leaves, as equations that replace
the definitions in proofs.  An action either returns a value or fails, and in
both cases the next progress is known.
-/

namespace LispDatum.Reader

open LispDatum.Numeral

/-- The diagnostic for a cause that lies at an offset. -/
def Cause.diagnostic (cause : Cause) (input : Input) (offset : Int) :
    Diagnostic where
  kind := cause.kind
  message := cause.message
  line := input.line offset
  column := input.column offset
  offset := offset
  source := input.source

/-- What refusing the text for a cause that lies at an offset ends with. -/
def Cause.fault (cause : Cause) (input : Input) (offset : Int) : Fault :=
  if input.canTell offset then .refused (cause.diagnostic input offset)
  else .tooManyDigits

theorem Cause.fault_of_natAbs_le (cause : Cause) {input : Input} {offset : Int}
    (hoffset : offset.natAbs ≤ input.text.length) :
    cause.fault input offset = .refused (cause.diagnostic input offset) := by
  rw [Cause.fault, if_pos]
  rw [Input.canTell, decide_eq_true hoffset, Bool.true_or]

theorem Cause.eq_diagnostic_of_fault {cause : Cause} {input : Input}
    {offset : Int} {diagnostic : Diagnostic}
    (hfault : cause.fault input offset = .refused diagnostic) :
    diagnostic = cause.diagnostic input offset := by
  rw [Cause.fault] at hfault
  split at hfault
  · exact (Fault.refused.inj hfault).symm
  · contradiction

variable {Value Result : Type} (input : Input) (progress : Progress)

@[simp]
theorem runFrom_pure (value : Value) :
    (pure value : ReadM Value).runFrom input progress =
      (.ok value, progress) := rfl

@[simp]
theorem runFrom_throw (fault : Fault) :
    (throw fault : ReadM Value).runFrom input progress =
      (.error fault, progress) := rfl

/-- An action continues where the one before it stopped, unless that failed. -/
@[simp]
theorem runFrom_bind (action : ReadM Value) (next : Value → ReadM Result) :
    (action >>= next).runFrom input progress =
      match action.runFrom input progress with
      | (.ok value, later) => (next value).runFrom input later
      | (.error fault, later) => (.error fault, later) := by
  simp only [ReadM.runFrom, ReaderT.bind, bind, ExceptT.bind, ExceptT.mk,
    ExceptT.run, StateT.bind, Id.run, ExceptT.bindCont]
  rcases action input progress with ⟨_ | value, later⟩ <;> rfl

@[simp]
theorem runFrom_map (action : ReadM Value) (convert : Value → Result) :
    (convert <$> action).runFrom input progress =
      match action.runFrom input progress with
      | (.ok value, later) => (.ok (convert value), later)
      | (.error fault, later) => (.error fault, later) := by
  rw [map_eq_pure_bind, runFrom_bind]
  rfl

@[simp]
theorem runFrom_read :
    (read : ReadM Input).runFrom input progress = (.ok input, progress) := rfl

@[simp]
theorem runFrom_position :
    position.runFrom input progress = (.ok progress.position, progress) := rfl

@[simp]
theorem runFrom_moveTo (target : Int) :
    (moveTo target).runFrom input progress =
      (.ok (), { progress with position := target }) := rfl

@[simp]
theorem runFrom_advance (length : Nat) :
    (advance length).runFrom input progress =
      (.ok (), { progress with position := progress.position + length }) := rfl

@[simp]
theorem runFrom_record (event : Event) :
    (record event).runFrom input progress =
      (.ok (), { progress with trace := progress.trace ++ [event] }) := rfl

/-- Looking ahead fails exactly where the text addresses nothing, and leaves
the progress alone. -/
theorem runFrom_lookAheadBy (distance : Int) :
    (lookAheadBy distance).runFrom input progress =
      match input.ahead? (progress.position + distance) with
      | some ahead => (.ok ahead, progress)
      | none =>
        (.error (.outOfRange (progress.position + distance)), progress) := by
  simp only [lookAheadBy, runFrom_bind, runFrom_read, runFrom_position]
  cases input.ahead? (progress.position + distance) <;> rfl

theorem runFrom_lookAhead :
    lookAhead.runFrom input progress =
      match input.ahead? progress.position with
      | some ahead => (.ok ahead, progress)
      | none => (.error (.outOfRange progress.position), progress) := by
  simp only [lookAhead, runFrom_lookAheadBy, Int.add_zero]

@[simp]
theorem runFrom_takeNext (length : Nat) :
    (takeNext length).runFrom input progress =
      (.ok (input.slice progress.position (progress.position + length)),
        { progress with position := progress.position + length }) := rfl

/-- A finding is recorded whether or not its place can be told. -/
@[simp]
theorem runFrom_diagnose (kind : Kind) (message : String) (offset : Int) :
    (diagnose kind message offset).runFrom input progress =
      (if input.canTell offset then
          .ok ⟨kind, message, input.line offset, input.column offset, offset,
            input.source⟩
        else .error .tooManyDigits,
        { progress with
          trace := progress.trace ++ [.found kind offset message] }) := by
  simp only [diagnose, runFrom_bind, runFrom_read, runFrom_record]
  split <;> rfl

@[simp]
theorem runFrom_refuseAt (offset : Int) (cause : Cause) :
    (refuseAt offset cause : ReadM Value).runFrom input progress =
      (.error (cause.fault input offset),
        { progress with
          trace := progress.trace ++
            [.found cause.kind offset cause.message] }) := by
  simp only [refuseAt, runFrom_bind, runFrom_diagnose, Cause.fault]
  cases input.canTell offset <;> rfl

@[simp]
theorem runFrom_refuse (cause : Cause) :
    (refuse cause : ReadM Value).runFrom input progress =
      (refuseAt progress.position cause : ReadM Value).runFrom
        input progress := rfl

theorem runFrom_valueOf (base : Nat) (digits : List Char) :
    (valueOf base digits).runFrom input progress =
      match digitsValue base digits with
      | .ok value => (.ok value, progress)
      | .error bad => (.error (.badDigit bad), progress) := by
  unfold valueOf
  cases digitsValue base digits <;> rfl

end LispDatum.Reader
