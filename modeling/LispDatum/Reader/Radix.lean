import LispDatum.Reader.CharClass

/-!
# Radixes

A numeral may name its base by a letter after the number sign, as in `#xFF`.
Each base has its own digits.
-/

namespace LispDatum.Reader

/-- A base that a numeral can name. -/
inductive Radix where
  | binary
  | octal
  | decimal
  | hexadecimal
deriving DecidableEq, Repr

namespace Radix

def all : List Radix := [.binary, .octal, .decimal, .hexadecimal]

def letter : Radix → Char
  | .binary => 'b'
  | .octal => 'o'
  | .decimal => 'd'
  | .hexadecimal => 'x'

def ofLetter? (letter : Char) : Option Radix :=
  all.find? fun radix => radix.letter == letter

def base : Radix → Nat
  | .binary => 2
  | .octal => 8
  | .decimal => 10
  | .hexadecimal => 16

/-- The digits that a numeral of this radix may have. -/
def digits : Radix → List Char
  | .binary => "01".toList
  | .octal => "01234567".toList
  | .decimal => Reader.digits
  | .hexadecimal => hexDigits

def isDigit (radix : Radix) (char : Char) : Bool := radix.digits.contains char

def digitName : Radix → String
  | .binary => "binary digit"
  | .octal => "octal digit"
  | .decimal => "decimal digit"
  | .hexadecimal => "hexadecimal digit"

end Radix

end LispDatum.Reader
