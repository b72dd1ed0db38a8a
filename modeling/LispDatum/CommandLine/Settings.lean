import LispDatum.CommandLine.Argument

/-!
# Settings

The arguments are taken from left to right.  The first unbroken run of operands
gives the expression by its first member; the other members of the run are
ignored, and operands of later runs are not recognized.  A flag may stand
before or after the run and may be repeated.  The help flag ends the matter as
soon as it is reached; unknown options are reported at the end, unless the
expression is missing altogether.
-/

namespace LispDatum.CommandLine

/-- What a command line asks for. -/
structure Settings where
  expression : String
  json : Bool
  verbose : Bool
deriving DecidableEq, Repr

/-- Why a command line asks for no expression to be read. -/
inductive Stop where
  | help
  | misuse (error : UsageError)
deriving DecidableEq, Repr

/-- Where the first run of operands stands. -/
inductive Run where
  | awaited
  | underway (expression : String)
  | ended (expression : String)
deriving DecidableEq, Repr

namespace Run

/-- The run ends, if it is underway. -/
def interrupt : Run → Run
  | .underway expression => .ended expression
  | run => run

/-- The expression that the run gave. -/
def expression? : Run → Option String
  | .awaited => none
  | .underway expression => some expression
  | .ended expression => some expression

end Run

/-- What has been taken from a command line. -/
structure Taken where
  run : Run := .awaited
  json : Bool := false
  verbose : Bool := false
  /-- The arguments that the command has no use for, in order. -/
  unrecognized : List String := []
deriving DecidableEq, Repr

namespace Taken

def takeFlag (taken : Taken) : Flag → Except Stop Taken
  | .help => .error .help
  | .json => .ok { taken with json := true }
  | .verbose => .ok { taken with verbose := true }

/-- Take an argument that the command has no use for. -/
def reject (taken : Taken) (text : String) : Taken :=
  { taken with unrecognized := taken.unrecognized ++ [text] }

def takeOperand (taken : Taken) (text : String) : Taken :=
  match taken.run with
  | .awaited => { taken with run := .underway text }
  | .underway _ => taken
  | .ended _ => taken.reject text

/-- Take the separator, which belongs to the run of operands around it. -/
def takeSeparator (taken : Taken) : Taken :=
  match taken.run with
  | .ended _ => taken.reject "--"
  | _ => taken

def take (taken : Taken) (argument : Argument) : Except Stop Taken :=
  match argument with
  | .operand text => .ok (taken.takeOperand text)
  | .separator => .ok taken.takeSeparator
  | .unknown text =>
    .ok ({ taken with run := taken.run.interrupt }.reject text)
  | .bare _ | .longWith _ _ | .shortWith _ _ =>
    match argument.flags with
    | .ok flags =>
      flags.foldlM takeFlag { taken with run := taken.run.interrupt }
    | .error error => .error (.misuse error)

def settings (taken : Taken) : Except Stop Settings :=
  match taken.run.expression? with
  | none => .error (.misuse .noExpression)
  | some expression =>
    if taken.unrecognized.isEmpty then
      .ok { expression, json := taken.json, verbose := taken.verbose }
    else .error (.misuse (.unrecognized taken.unrecognized))

end Taken

/-- What a command line asks for. -/
def Settings.ofArguments (arguments : List String) : Except Stop Settings := do
  let arguments ← (Argument.classifyAll arguments).mapError .misuse
  let taken ← arguments.foldlM Taken.take {}
  taken.settings

end LispDatum.CommandLine
