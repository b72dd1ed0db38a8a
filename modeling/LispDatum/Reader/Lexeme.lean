import LispDatum.Reader.Diagnostic

/-!
# Lexemes

What the characters ahead amount to, decided on the characters alone.  An
identifier may contain the number sign, so a radix literal is told from an
identifier by the three characters it starts with: the number sign, a radix
letter, and then a hexadecimal digit or nothing that an identifier could
continue with; or the number sign, any other letter, and a digit.  Thus `#t`,
`#f` and `#foo` are identifiers, `#xFF` and `#b12` are numerals, and `#z5` is a
numeral of no known radix.
-/

namespace LispDatum.Reader

/-- An identifier may start with the character ahead.  So may a radix literal,
since the number sign is a symbol. -/
def startsAtom (ahead : List Char) : Bool :=
  ahead.head?.any isInitial

/-- The characters ahead start with a radix literal. -/
def startsRadixLiteral : List Char → Bool
  | '#' :: letter :: rest =>
    if (Radix.ofLetter? letter).isSome then
      rest.head?.all fun follow => isHexDigit follow || !isConstituent follow
    else Unicode.isLetter letter && rest.head?.any isDigit
  | _ => false

/-- The number of characters of the identifier ahead. -/
def atomLength (ahead : List Char) : Nat :=
  1 + (ahead.drop 1 |>.takeWhile isConstituent).length

/-- The datum that an identifier denotes: the two truth values have names. -/
def datumOfName (name : List Char) : Datum :=
  if name = ['#', 't'] then .bool true
  else if name = ['#', 'f'] then .bool false
  else .atom (String.ofList name)

def unescape? : Char → Option Char
  | '\\' => some '\\'
  | '"' => some '"'
  | 'n' => some '\n'
  | 'r' => some '\r'
  | 't' => some '\t'
  | _ => none

end LispDatum.Reader
