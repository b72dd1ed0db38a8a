/-!
# Flags

The flags of the command line and their spellings.  A spelling with two dashes
may be cut short as long as it stays unambiguous; one with a single dash and a
letter may carry further letters.
-/

namespace LispDatum.CommandLine

inductive Flag where
  | help
  | json
  | verbose
deriving DecidableEq, Repr

namespace Flag

def all : List Flag := [.help, .json, .verbose]

def spellings : Flag → List String
  | .help => ["-h", "--help"]
  | .json => ["--json"]
  | .verbose => ["--verbose", "-v"]

def label (flag : Flag) : String := "/".intercalate flag.spellings

def vocabulary : List (String × Flag) :=
  all.flatMap fun flag => flag.spellings.map fun spelling => (spelling, flag)

def ofSpelling? (spelling : String) : Option Flag :=
  vocabulary.lookup spelling

/-- The flag that a letter names after a single dash. -/
def ofLetter? (letter : Char) : Option Flag :=
  ofSpelling? (String.ofList ['-', letter])

/-- The spellings that start in a given way, with their flags. -/
def completions (start : List Char) : List (String × Flag) :=
  vocabulary.filter fun entry => start.isPrefixOf entry.1.toList

end Flag

end LispDatum.CommandLine
