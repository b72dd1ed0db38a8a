import LispDatum.Text.Hex

/-!
# JSON strings

A JSON string is written between double quotes.  The quote, the backslash and
the characters below U+0020 are escaped, the latter by a letter where there is
one; all other characters stand for themselves.
-/

namespace LispDatum.Json

open LispDatum.Text

def escapeChar (char : Char) : List Char :=
  if char = '"' ∨ char = '\\' then ['\\', char]
  else if char = '\x08' then ['\\', 'b']
  else if char = '\t' then ['\\', 't']
  else if char = '\n' then ['\\', 'n']
  else if char = '\x0c' then ['\\', 'f']
  else if char = '\r' then ['\\', 'r']
  else if char.toNat < 0x20 then '\\' :: 'u' :: hexCode 4 char.toNat
  else [char]

/-- A JSON string, its quotes included. -/
def stringChars (text : List Char) : List Char :=
  '"' :: text.flatMap escapeChar ++ ['"']

/-- A JSON string, its quotes included. -/
def stringText (text : String) : String :=
  String.ofList (stringChars text.toList)

end LispDatum.Json
