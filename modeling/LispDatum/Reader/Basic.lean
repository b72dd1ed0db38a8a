import LispDatum.Datum.Description
import LispDatum.Reader.Diagnostic
import LispDatum.Reader.Input

/-!
# Reading actions

A reading action runs over a fixed input.  It moves a position, leaves a trace
and returns a value or a fault; position and trace outlive the fault, so that a
caller sees where a failed action stopped.
-/

namespace LispDatum.Reader

open LispDatum.Numeral

/-- Why a reading action ends without a value. -/
inductive Fault where
  /-- The offset lies before all that the text addresses. -/
  | outOfRange (offset : Int)
  /-- A run of digits has a character without a digit value. -/
  | badDigit (bad : BadDigit)
  | refused (diagnostic : Diagnostic)
  /-- The text is to be refused for a place that cannot be told. -/
  | tooManyDigits
deriving DecidableEq, Repr

/-- The least offset that is an index at all. -/
def leastIndex : Int := -Nat.pow 2 63

def Fault.message : Fault → String
  | .outOfRange offset =>
    if offset < leastIndex then "cannot fit 'int' into an index-sized integer"
    else "string index out of range"
  | .badDigit bad => bad.message
  | .refused diagnostic => diagnostic.render
  | .tooManyDigits => Datum.TooManyDigits.message

/-- Where a reader stands and what it has recorded, oldest record first. -/
structure Progress where
  position : Int := 0
  trace : List Event := []
deriving DecidableEq, Repr

abbrev ReadM := ReaderT Input (ExceptT Fault (StateM Progress))

/-- The outcome of an action and the progress it leaves. -/
def ReadM.runFrom {Value : Type} (action : ReadM Value) (input : Input)
    (progress : Progress) : Except Fault Value × Progress :=
  ((action input).run progress).run

def position : ReadM Int := do
  return (← get).position

def moveTo (position : Int) : ReadM Unit :=
  modify fun progress => { progress with position }

def advance (length : Nat) : ReadM Unit := do
  moveTo ((← position) + length)

def record (event : Event) : ReadM Unit :=
  modify fun progress => { progress with trace := progress.trace ++ [event] }

/-- The characters ahead of the position that is `distance` further. -/
def lookAheadBy (distance : Int) : ReadM (List Char) := do
  let offset := (← position) + distance
  match (← read).ahead? offset with
  | some ahead => return ahead
  | none => throw (.outOfRange offset)

def lookAhead : ReadM (List Char) :=
  lookAheadBy 0

/-- The character that is `distance` further, if the text has one there. -/
def charAhead (distance : Int) : ReadM (Option Char) := do
  return (← lookAheadBy distance).head?

/-- Pass over a number of characters and return that piece of the text. -/
def takeNext (length : Nat) : ReadM (List Char) := do
  let start ← position
  advance length
  return (← read).slice start (← position)

/-- Record a finding at an offset and return its diagnostic, which tells the
place. -/
def diagnose (kind : Kind) (message : String) (offset : Int) :
    ReadM Diagnostic := do
  let input ← read
  record (.found kind offset message)
  if input.canTell offset then
    return {
      kind, message, offset
      line := input.line offset
      column := input.column offset
      source := input.source }
  else throw .tooManyDigits

/-- Refuse the text for what was found at an offset. -/
def refuseAt {Value : Type} (offset : Int) (cause : Cause) : ReadM Value := do
  throw (.refused (← diagnose cause.kind cause.message offset))

/-- Refuse the text for what was found at the current position. -/
def refuse {Value : Type} (cause : Cause) : ReadM Value := do
  refuseAt (← position) cause

def valueOf (base : Nat) (digits : List Char) : ReadM Int :=
  match digitsValue base digits with
  | .ok value => return value
  | .error bad => throw (.badDigit bad)

end LispDatum.Reader
