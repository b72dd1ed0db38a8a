import LispDatum.Reader.Expression

/-!
# Verdicts

The outcome of reading one expression in one line: what was found wrong, or that
a value was found.
-/

namespace LispDatum.Reader

/-- The line for a finding, or for a success. -/
def verdict : Option Diagnostic → String
  | some diagnostic => "No match: " ++ diagnostic.render
  | none => "Found value"

/-- Whether a text starts with an expression, in one line.  Faults other than a
refusal of the text are passed on. -/
def recognize (text : String) : Except Fault String :=
  match (readInput (.ofString text)).1 with
  | .ok _ => .ok (verdict none)
  | .error (.refused diagnostic) => .ok (verdict (some diagnostic))
  | .error fault => .error fault

end LispDatum.Reader
