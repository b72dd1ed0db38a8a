/-!
# Ranges of code points

A property of characters that comes from a standard is kept as the list of the
ranges of code points that have it.
-/

namespace LispDatum.Unicode

/-- The code points from `first` to `last`, both included. -/
structure CodeRange where
  first : Nat
  last : Nat
deriving DecidableEq, Repr

def CodeRange.contains (range : CodeRange) (code : Nat) : Bool :=
  range.first ≤ code && code ≤ range.last

/-- Some range of the table has the code point. -/
def covers (table : List CodeRange) (code : Nat) : Bool :=
  table.any fun range => range.contains code

end LispDatum.Unicode
