import LispDatum.CommandLine.Flag
import LispDatum.Text.Quoted
import LispDatum.Unicode.DecimalDigit

/-!
# Arguments

What one argument of the command is, judged by itself: an operand, a flag, or
an option that the command does not know.  The separator `--` makes everything
after it an operand; an argument that starts with a dash is still an operand if
it is a lone dash, a negative number, or has a space.

Text behind the letter of a short flag is taken for further such letters, also
behind an equals sign.  All of them are looked up before any of these flags
takes effect, so a help flag does not hide a letter behind it that names no
flag.  There are option parsers that take text behind an equals sign for a value
and stop at a help flag; the one that the command uses does neither.
-/

namespace LispDatum.CommandLine

open LispDatum.Text LispDatum.Unicode

inductive UsageError where
  /-- An abbreviation fits several spellings. -/
  | ambiguous (argument : String) (spellings : List String)
  | unusedValue (flag : Flag) (value : String)
  | noExpression
  /-- Arguments that the command has no use for. -/
  | unrecognized (arguments : List String)
deriving DecidableEq, Repr

def UsageError.message : UsageError → String
  | .ambiguous argument spellings =>
    "ambiguous option: " ++ argument ++ " could match " ++
      ", ".intercalate spellings
  | .unusedValue flag value =>
    "argument " ++ flag.label ++ ": ignored explicit argument " ++ quoted value
  | .noExpression => "the following arguments are required: expr, rest"
  | .unrecognized arguments =>
    "unrecognized arguments: " ++ " ".intercalate arguments

inductive Argument where
  | operand (text : String)
  /-- The first `--`. -/
  | separator
  | bare (flag : Flag)
  /-- A flag of two dashes with a value after an equals sign. -/
  | longWith (flag : Flag) (value : List Char)
  /-- A flag of one dash and a letter with more text in the same argument. -/
  | shortWith (flag : Flag) (value : List Char)
  | unknown (text : String)
deriving DecidableEq, Repr

namespace Argument

/-- Digits, or a point with digits after it and perhaps before it. -/
def isUnsignedNumber (text : List Char) : Bool :=
  let whole := text.takeWhile isDecimalDigit
  match text.dropWhile isDecimalDigit with
  | [] => !whole.isEmpty
  | '.' :: fraction => !fraction.isEmpty && fraction.all isDecimalDigit
  | _ => false

/-- Leave out a line feed at the very end. -/
def dropFinalLineFeed (text : List Char) : List Char :=
  if text.getLast? = some '\n' then text.dropLast else text

/-- A minus sign and a number; a final line feed does not matter. -/
def isNegativeNumber : List Char → Bool
  | '-' :: rest => isUnsignedNumber (dropFinalLineFeed rest)
  | _ => false

def beforeEquals (text : List Char) : List Char :=
  text.takeWhile (· != '=')

def afterEquals? (text : List Char) : Option (List Char) :=
  match text.dropWhile (· != '=') with
  | [] => none
  | _ :: value => some value

/-- A flag of one dash or two, perhaps with a value. -/
def ofFlag (flag : Flag) (long : Bool) : Option (List Char) → Argument
  | none => .bare flag
  | some value => if long then .longWith flag value else .shortWith flag value

/-- An argument that starts with a dash and names no flag. -/
def ofDashed (text : String) : Argument :=
  if isNegativeNumber text.toList || text.toList.contains ' ' then
    .operand text
  else .unknown text

/-- An argument of two dashes, perhaps an abbreviation. -/
def ofLong (text : String) : Except UsageError Argument :=
  match Flag.completions (beforeEquals text.toList) with
  | [] => .ok (ofDashed text)
  | [(_, flag)] => .ok (ofFlag flag true (afterEquals? text.toList))
  | several => .error (.ambiguous text (several.map (·.1)))

/-- An argument of one dash, a letter and more text. -/
def ofShort (text : String) (letter : Char) (rest : List Char) : Argument :=
  match Flag.ofLetter? letter with
  | some flag => .shortWith flag rest
  | none => ofDashed text

/-- An argument of a dash and more text that is no full spelling. -/
def ofOption (text : String) : Except UsageError Argument :=
  match Flag.ofSpelling? (String.ofList (beforeEquals text.toList)),
      afterEquals? text.toList with
  | some flag, some value =>
    .ok (ofFlag flag ((beforeEquals text.toList).length != 2) (some value))
  | _, _ =>
    match text.toList with
    | '-' :: '-' :: _ => ofLong text
    | '-' :: letter :: rest => .ok (ofShort text letter rest)
    | _ => .ok (.operand text)

/-- An argument before the separator, other than the separator itself. -/
def classify (text : String) : Except UsageError Argument :=
  if text.toList.head? ≠ some '-' then .ok (.operand text)
  else
    match Flag.ofSpelling? text with
    | some flag => .ok (.bare flag)
    | none => ofOption text

def classifyAll : List String → Except UsageError (List Argument)
  | [] => .ok []
  | text :: others =>
    if text = "--" then .ok (.separator :: others.map .operand)
    else do
      let argument ← classify text
      return argument :: (← classifyAll others)

/-- The flags of letters behind a single dash; text that is no such letter is a
value that the flag before it has no use for. -/
def letterFlags (flag : Flag) : List Char → Except UsageError (List Flag)
  | [] => .error (.unusedValue flag "")
  | letter :: rest =>
    match Flag.ofLetter? letter with
    | none => .error (.unusedValue flag (String.ofList (letter :: rest)))
    | some next =>
      if rest.isEmpty then .ok [flag, next]
      else do return flag :: (← letterFlags next rest)

def flags : Argument → Except UsageError (List Flag)
  | .bare flag => .ok [flag]
  | .longWith flag value => .error (.unusedValue flag (String.ofList value))
  | .shortWith flag value => letterFlags flag value
  | _ => .ok []

end Argument

end LispDatum.CommandLine
