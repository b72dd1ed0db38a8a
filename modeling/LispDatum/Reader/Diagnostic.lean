import LispDatum.Datum.Basic
import LispDatum.Numeral
import LispDatum.Reader.Radix
import LispDatum.Text.Quoted

/-!
# Diagnostics

What can be wrong with a text, how it is worded and how it is reported.  A
`Cause` is what the reader found; its `Kind` is the class of such findings, and
a `Diagnostic` tells a finding together with its place.  An `Event` is one
record of the trace that the reader leaves.
-/

namespace LispDatum.Reader

open LispDatum.Text LispDatum.Numeral

/-- The classes of findings. -/
inductive Kind where
  | unexpectedCharacter
  | unterminatedString
  | invalidEscape
  | invalidRadixDigits
  | unknownRadix
deriving DecidableEq, Repr

namespace Kind

def all : List Kind :=
  [.unexpectedCharacter, .unterminatedString, .invalidEscape,
    .invalidRadixDigits, .unknownRadix]

def text : Kind → String
  | .unexpectedCharacter => "unexpected character"
  | .unterminatedString => "unterminated string"
  | .invalidEscape => "invalid escape"
  | .invalidRadixDigits => "invalid radix digits"
  | .unknownRadix => "unknown radix prefix"

def ofText? (text : String) : Option Kind :=
  all.find? fun kind => kind.text == text

/-- The refusal of a wording that no kind has. -/
def unknownText (text : String) : String :=
  quoted text ++ " is not a valid ErrorKind"

end Kind

/-- What the reader found wrong. -/
inductive Cause where
  /-- No expression starts with the character ahead, or none is left. -/
  | noExpression (ahead : Option Char)
  /-- The text ends inside a string. -/
  | openString
  /-- The text ends inside a string, just after a backslash. -/
  | openEscape
  /-- A backslash is followed by a character that it does not escape. -/
  | badEscape (char : Char)
  /-- The number sign is followed by no radix letter. -/
  | badRadix (ahead : Option Char)
  /-- No digit follows the radix letter. -/
  | noDigits (radix : Radix)
  /-- A character among the digits is no digit of the radix. -/
  | badDigit (radix : Radix) (char : Char)
deriving DecidableEq, Repr

namespace Cause

def kind : Cause → Kind
  | .noExpression _ => .unexpectedCharacter
  | .openString => .unterminatedString
  | .openEscape => .unterminatedString
  | .badEscape _ => .invalidEscape
  | .badRadix _ => .unknownRadix
  | .noDigits _ => .invalidRadixDigits
  | .badDigit _ _ => .invalidRadixDigits

def message : Cause → String
  | .noExpression ahead =>
    "unexpected " ++ shownChar ahead ++
      ", expecting letter, symbol, '\"' or digit"
  | .openString => "unexpected end of input, expecting closing '\"'"
  | .openEscape =>
    "unexpected end of input after '\\', expecting escape character"
  | .badEscape char =>
    "unsupported escape character " ++ shownChar (some char) ++
      ", expecting one of '\\\\', '\"', 'n', 'r', 't'"
  | .badRadix ahead =>
    "invalid radix prefix " ++ shown (String.ofList ('#' :: ahead.toList)) ++
      ", expecting one of '#b', '#o', '#d', '#x'"
  | .noDigits radix => "must supply at least one " ++ radix.digitName
  | .badDigit radix char =>
    "unexpected " ++ shownChar (some char) ++ ", expecting " ++ radix.digitName

end Cause

/-- A finding and its place.  Lines and columns are counted from one, the
offset in characters from zero. -/
structure Diagnostic where
  kind : Kind
  message : String
  line : Int
  column : Int
  offset : Int := 0
  source : String := "lisp"
deriving DecidableEq, Repr

def Diagnostic.render (diagnostic : Diagnostic) : String :=
  "\"" ++ diagnostic.source ++ "\" (line " ++ decimal diagnostic.line ++
    ", col " ++ decimal diagnostic.column ++ "): " ++
    diagnostic.kind.text ++ ": " ++ diagnostic.message

inductive Event where
  /-- An expression was read up to an offset. -/
  | accepted (tag : Tag) (stop : Int)
  /-- A finding was made at an offset. -/
  | found (kind : Kind) (offset : Int) (message : String)
deriving DecidableEq, Repr

def Event.render : Event → String
  | .accepted tag stop =>
    "parsed " ++ tag.name ++ " ending at offset " ++ decimal stop
  | .found kind offset message =>
    kind.text ++ " at offset " ++ decimal offset ++ ": " ++ message

end LispDatum.Reader
