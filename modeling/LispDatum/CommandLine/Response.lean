import LispDatum.CommandLine.Settings
import LispDatum.Datum.Encoding
import LispDatum.Reader.Verdict

/-!
# Responses

What the command prints for its arguments, and the status it exits with: zero
for an expression or the help text, one for a text that is refused, two for a
misuse of the command line.
-/

namespace LispDatum.CommandLine

open LispDatum.Reader

/-- What a run of the command leaves. -/
structure Response where
  exitCode : UInt8
  stdout : String
  stderr : String
deriving DecidableEq, Repr

def usage : String := "usage: lispread [-h] [--json] [--verbose] expr\n"

def helpText : String :=
  usage ++
    "\nRecognize a single Lisp expression\n" ++
    "\npositional arguments:\n" ++
    "  expr           Expression text to parse\n" ++
    "\noptions:\n" ++
    "  -h, --help     show this help message and exit\n" ++
    "  --json         Also print the parsed value as JSON\n" ++
    "  --verbose, -v\n"

def asLine (text : String) : String := text ++ "\n"

/-- The trace as it is printed, one line for each record. -/
def traceText (trace : List Event) : String :=
  String.join (trace.map fun event =>
    asLine ("DEBUG lispread.parser: " ++ event.render))

/-- Read the expression that was asked for. -/
def Settings.run (settings : Settings) : Response :=
  let (outcome, progress) := readInput (.ofString settings.expression)
  let stderr := if settings.verbose then traceText progress.trace else ""
  match outcome with
  | .ok datum =>
    let json := if settings.json then asLine datum.jsonText else ""
    ⟨0, asLine (verdict none) ++ json, stderr⟩
  | .error (.refused diagnostic) =>
    ⟨1, asLine (verdict (some diagnostic)), stderr⟩
  | .error fault => ⟨1, "", stderr ++ asLine fault.message⟩

def respond (arguments : List String) : Response :=
  match Settings.ofArguments arguments with
  | .ok settings => settings.run
  | .error .help => ⟨0, helpText, ""⟩
  | .error (.misuse error) =>
    ⟨2, "", usage ++ asLine ("lispread: error: " ++ error.message)⟩

end LispDatum.CommandLine
