import LispDatum.Unicode.Letter

/-!
# Classes of characters

An identifier starts with a letter or a symbol and continues with letters,
digits and symbols.  Letters are those of every script; digits and symbols are
ASCII.
-/

namespace LispDatum.Reader

open LispDatum.Unicode

/-- The symbols, which identifiers may contain beside letters and digits. -/
def symbols : List Char := "!#$%&|*+-/:<=>?@^_~".toList

def digits : List Char := "0123456789".toList

def hexDigits : List Char := "0123456789abcdefABCDEF".toList

def isSymbol (char : Char) : Bool := symbols.contains char

/-- One of the ten ASCII digits. -/
def isDigit (char : Char) : Bool := digits.contains char

/-- An ASCII digit or one of the letters a to f in either case. -/
def isHexDigit (char : Char) : Bool := hexDigits.contains char

/-- A letter or an ASCII digit. -/
def isWordChar (char : Char) : Bool := isLetter char || isDigit char

/-- A character that an identifier may start with. -/
def isInitial (char : Char) : Bool := isLetter char || isSymbol char

/-- A character that an identifier may continue with. -/
def isConstituent (char : Char) : Bool := isWordChar char || isSymbol char

end LispDatum.Reader
