import LispDatum.Text.Hex
import LispDatum.Unicode.Printable

/-!
# Quoted text

Messages show text between quote marks.  The mark is an apostrophe, or a double
quote for a text that has an apostrophe and no double quote.  Inside, the mark
and the backslash are preceded by a backslash, line feed, carriage return and
tab have letters, and every other unprintable character is written by its code
in two, four or eight hexadecimal digits.  Hence a quoted text is one line of
printable characters.
-/

namespace LispDatum.Text

open LispDatum.Unicode

/-- The mark that encloses a text. -/
def quoteMark (text : List Char) : Char :=
  if text.contains '\x27' && !text.contains '"' then '"' else '\x27'

/-- The escape of an unprintable character that has no letter. -/
def escapeCode (code : Nat) : List Char :=
  if code < 0x100 then '\\' :: 'x' :: hexCode 2 code
  else if code < 0x10000 then '\\' :: 'u' :: hexCode 4 code
  else '\\' :: 'U' :: hexCode 8 code

/-- One character of a text that is enclosed by `mark`. -/
def quoteChar (mark char : Char) : List Char :=
  if char = mark ∨ char = '\\' then ['\\', char]
  else if char = '\n' then ['\\', 'n']
  else if char = '\r' then ['\\', 'r']
  else if char = '\t' then ['\\', 't']
  else if isPrintable char then [char]
  else escapeCode char.toNat

/-- The characters of a quoted text, its marks included. -/
def quoteChars (text : List Char) : List Char :=
  let mark := quoteMark text
  mark :: text.flatMap (quoteChar mark) ++ [mark]

def quoted (text : String) : String :=
  String.ofList (quoteChars text.toList)

/-- What a message shows at a place: the empty text there is the end of the
input. -/
def shown (text : String) : String :=
  if text.isEmpty then "end of input" else quoted text

/-- What a message shows for the character ahead, if there is one. -/
def shownChar (ahead : Option Char) : String :=
  shown (String.ofList ahead.toList)

theorem shown_of_ne {text : String} (hne : text ≠ "") :
    shown text = quoted text := by
  have hempty : ¬ text.isEmpty = true := by
    rw [String.isEmpty_iff]
    exact hne
  rw [shown, if_neg hempty]

theorem shownChar_some (char : Char) :
    shownChar (some char) = quoted (String.ofList [char]) := by
  have hne : String.ofList [char] ≠ "" := by simp
  rw [shownChar, Option.toList_some, shown_of_ne hne]

end LispDatum.Text
