import LispDatum.CommandLine.Response

/-!
# The command

Reads one Lisp expression from the arguments and reports what it found.
-/

/-- Answer the command line and exit with the status of the answer. -/
def main (arguments : List String) : IO UInt32 := do
  let response := LispDatum.CommandLine.respond arguments
  IO.print response.stdout
  IO.eprint response.stderr
  return response.exitCode.toUInt32
