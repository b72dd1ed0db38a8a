import LispDatum.Numeral

/-!
# Input

The text that is read, addressed by integer offsets.  Offset `i ≥ 0` stands
before the character of index `i`.  A negative offset counts from the end: the
text is then followed by itself, so that reading runs from the tail of the text
into its beginning.  Offsets further below than the text is long address
nothing.
-/

namespace LispDatum.Reader

open LispDatum.Numeral

/-- A text and the name of the place that it comes from. -/
structure Input where
  text : List Char
  source : String := "lisp"

namespace Input

/-- A text of unstated origin. -/
def ofString (text : String) : Input := { text := text.toList }

/-- The characters that lie ahead of an offset; there are none at the end of
the text and past it. -/
def ahead? (input : Input) (offset : Int) : Option (List Char) :=
  if 0 ≤ offset then some (input.text.drop offset.toNat)
  else if -input.text.length ≤ offset then
    some (input.text.drop (input.text.length + offset).toNat ++ input.text)
  else none

/-- The index that an offset bounds a piece of the text at: negative offsets
count from the end, and none lies before the beginning. -/
def bound (input : Input) (offset : Int) : Nat :=
  if offset < 0 then (input.text.length + offset).toNat else offset.toNat

def before (input : Input) (offset : Int) : List Char :=
  input.text.take (input.bound offset)

/-- The piece of the text between two offsets, empty where they are out of
order. -/
def slice (input : Input) (start stop : Int) : List Char :=
  (input.before stop).drop (input.bound start)

/-- The line that an offset lies on: one more than the line feeds before it. -/
def line (input : Input) (offset : Int) : Int :=
  (input.before offset).count '\n' + 1

/-- The index of the last line feed before an offset, or `-1`. -/
def lastBreak (input : Input) (offset : Int) : Int :=
  let before := input.before offset
  before.length - 1 - (before.reverse.takeWhile (· != '\n')).length

/-- The distance of an offset from the last line feed before it, so one for the
first character of a line. -/
def column (input : Input) (offset : Int) : Int :=
  offset - input.lastBreak offset

/-- Line and column of an offset can be written out.  Inside the text they are
as small as an index; past its end the column grows with the offset, until its
numeral has too many digits. -/
def canTell (input : Input) (offset : Int) : Bool :=
  offset.natAbs ≤ input.text.length ||
    (decimalDigits (input.column offset).natAbs).length ≤ digitLimit

end Input

end LispDatum.Reader
