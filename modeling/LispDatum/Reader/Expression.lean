import LispDatum.Reader.Basic
import LispDatum.Reader.Lexeme

/-!
# Expressions

An expression is an identifier, a string or a numeral.  Each alternative either
declines, which leaves the position alone, or commits to the characters ahead,
after which every fault is final.  `readDatum` takes the first alternative that
does not decline; the text after the expression is never looked at.
-/

namespace LispDatum.Reader

def seesWordChar : ReadM Bool := do
  return (← charAhead 0).any isWordChar

def seesAnyOf (chars : List Char) : ReadM Bool := do
  return (← charAhead 0).any chars.contains

def seesRadixLiteral : ReadM Bool := do
  return startsRadixLiteral (← lookAhead)

/-- An identifier or one of the truth values. -/
def readAtom : ReadM (Option Datum) := do
  let ahead ← lookAhead
  if startsAtom ahead && !startsRadixLiteral ahead then
    let name ← takeNext (atomLength ahead)
    return some (datumOfName name)
  else return none

/-- The character that an escape stands for, read after its backslash. -/
def readEscape : ReadM Char := do
  match ← lookAhead with
  | [] => refuse .openEscape
  | char :: _ =>
    match unescape? char with
    | some decoded =>
      advance 1
      return decoded
    | none => refuse (.badEscape char)

/-- The contents of a string, read up to and past its closing quote.  The
argument is what lies ahead. -/
def readContents : List Char → ReadM (List Char)
  | [] => refuse .openString
  | '"' :: _ => do
    advance 1
    return []
  | ['\\'] => do
    advance 1
    return [← readEscape]
  | '\\' :: _ :: rest => do
    advance 1
    let decoded ← readEscape
    return decoded :: (← readContents rest)
  | char :: rest => do
    advance 1
    return char :: (← readContents rest)

def readString : ReadM (Option Datum) := do
  match ← lookAhead with
  | '"' :: rest =>
    advance 1
    return some (.string (String.ofList (← readContents rest)))
  | _ => return none

/-- The value of the digits of a numeral that names its radix.  They have been
passed over, and begin at `start`. -/
def checkDigits (start : Int) (radix : Radix) (digits : List Char) :
    ReadM Int := do
  if digits.isEmpty then refuseAt start (.noDigits radix)
  match digits.zipIdx.find? fun entry => !radix.isDigit entry.1 with
  | some (char, index) => refuseAt (start + index) (.badDigit radix char)
  | none => valueOf radix.base digits

/-- A numeral that names its radix.  The number sign is passed over unseen; all
letters and digits after the radix letter belong to the numeral. -/
def readRadix : ReadM Datum := do
  advance 1
  let ahead ← lookAhead
  match ahead.head?.bind Radix.ofLetter? with
  | none => refuse (.badRadix ahead.head?)
  | some radix =>
    advance 1
    let start ← position
    let digits ← takeNext (ahead.drop 1 |>.takeWhile isWordChar).length
    return .number (← checkDigits start radix digits)

/-- A numeral, decimal unless it names its radix. -/
def readNumber : ReadM (Option Datum) := do
  let ahead ← lookAhead
  if startsRadixLiteral ahead then
    return some (← readRadix)
  else if ahead.head?.any isDigit then
    let digits ← takeNext (ahead.takeWhile isDigit).length
    return some (.number (← valueOf 10 digits))
  else return none

/-- The first of some alternatives that does not decline at a position.  The
position is restored before each of them, and at the end if all decline. -/
def firstOf (start : Int) :
    List (ReadM (Option Datum)) → ReadM (Option Datum)
  | [] => do
    moveTo start
    return none
  | alternative :: others => do
    moveTo start
    match ← alternative with
    | some datum => return some datum
    | none => firstOf start others

/-- One expression by the given alternatives. -/
def readBy (alternatives : List (ReadM (Option Datum))) : ReadM Datum := do
  match ← firstOf (← position) alternatives with
  | some datum =>
    record (.accepted datum.tag (← position))
    return datum
  | none => refuse (.noExpression (← charAhead 0))

def readDatum : ReadM Datum :=
  readBy [readAtom, readString, readNumber]

/-- One expression at the beginning of an input. -/
def readInput (input : Input) : Except Fault Datum × Progress :=
  readDatum.runFrom input {}

end LispDatum.Reader
