import LispDatum.Datum.Basic
import LispDatum.Numeral

/-!
# Canonical spellings

The spelling of a datum is the text that it is best written as: an identifier
as it is, an integer as a decimal numeral, and a string with every character
escaped that has an escape.  A negative integer has no spelling that reads as a
number, because a minus sign starts an identifier.
-/

namespace LispDatum.Reader

/-- One character of a string. -/
def spellChar (char : Char) : List Char :=
  if char = '"' ∨ char = '\\' then ['\\', char]
  else if char = '\n' then ['\\', 'n']
  else if char = '\r' then ['\\', 'r']
  else if char = '\t' then ['\\', 't']
  else [char]

/-- The canonical spelling of a datum. -/
def spelling : Datum → List Char
  | .atom name => name.toList
  | .bool true => ['#', 't']
  | .bool false => ['#', 'f']
  | .string contents => '"' :: contents.toList.flatMap spellChar ++ ['"']
  | .number value => (Numeral.decimal value).toList

end LispDatum.Reader
