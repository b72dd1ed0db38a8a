import LispDatum.Datum.Basic
import LispDatum.Json.Binary64
import LispDatum.Json.Document
import LispDatum.Numeral.FreeForm

/-!
# Data from JSON values

A JSON object denotes a datum by its member `type`, which names the kind, and by
the member that holds the payload of that kind; all other members are ignored.
A payload need not have exactly the type of its field: truth values may be given
by words and by zero and one, integers in free form in strings, by truth values
and by floating-point numbers that are integers.  Texts are taken as they are.
Numbers that stand for something else must lie within the 64-bit integers.

The JSON value may be given as it is or written in a text.  The two are read by
the same rules but for one: an integer that is no truth value is one that cannot
be read if it is a machine word, and there are readers that take fewer integers
for machine words in a text than in a value.  This, and whether the sign of a
numeral counts towards the limit on its digits, depends on the reader.  It is
left open here, so what is proved holds for each reader.
-/

namespace LispDatum.Datum

open LispDatum.Json LispDatum.Numeral

/-- What readers of data do not agree on. -/
structure Dialect where
  /-- A minus sign counts towards the limit on digits, in JSON texts and in
  strings. -/
  countsSign : Bool := false
  /-- An integer of more than 18 digits in a text is no machine word, though it
  may fit in 64 bits. -/
  shortWords : Bool := false
deriving DecidableEq, Repr

/-- Where a JSON value comes from: it is given as it is, or written in a text. -/
inductive Origin where
  | value
  | text
deriving DecidableEq, Repr

/-- What is wrong with the payload of a datum. -/
inductive PayloadDefect where
  | missing
  | notText
  /-- Neither a word nor a number that could name a truth value. -/
  | notTruthValue
  /-- A word or number that names no truth value. -/
  | unreadableTruthValue
  | notInteger
  /-- A text that is no integer in free form. -/
  | unreadableInteger
  | fractional
  | notFinite
  /-- A text that starts with too many digits, or a floating-point number
  outside the 64-bit integers. -/
  | tooLarge
deriving DecidableEq, Repr

/-- Why a JSON value or text denotes no datum. -/
inductive Defect where
  | malformedText
  | notObject (origin : Origin)
  | tagMissing
  | tagUnknown
  | payload (tag : Tag) (defect : PayloadDefect)
deriving DecidableEq, Repr

/-- Where the defect lies: in the field of a kind, or in the value as a whole. -/
def Defect.location : Defect → List String
  | .payload tag _ => [tag.name, tag.field]
  | _ => []

def falseWords : List String := ["0", "off", "f", "false", "n", "no"]

def trueWords : List String := ["1", "on", "t", "true", "y", "yes"]

/-- One more than the largest 64-bit integer. -/
def wordLimit : Nat := Nat.pow 2 63

/-- A 64-bit integer. -/
def isWord (value : Int) : Bool :=
  -wordLimit ≤ value && value < wordLimit

/-- An integer of at most 18 digits. -/
def isShort (value : Int) : Bool :=
  value.natAbs < Nat.pow 10 18

/-- The reader takes an integer for a machine word. -/
def Dialect.takesForWord (dialect : Dialect) : Origin → Int → Bool
  | .value, value => isWord value
  | .text, value => if dialect.shortWords then isShort value else isWord value

/-- The truth value that an integer stands for, where it may be a word. -/
def truthOfInteger (word : Bool) (value : Int) : Except PayloadDefect Bool :=
  if value = 0 then .ok false
  else if value = 1 then .ok true
  else if word then .error .unreadableTruthValue
  else .error .notTruthValue

/-- The truth value that a word stands for, in any case. -/
def truthOfWord (word : String) : Except PayloadDefect Bool :=
  if falseWords.contains word.toLower then .ok false
  else if trueWords.contains word.toLower then .ok true
  else .error .unreadableTruthValue

/-- The integer that a floating-point number is, between the bounds of the
64-bit integers. -/
def integerOfReal (mantissa exponent : Int) : Except PayloadDefect Int :=
  match roundReal mantissa exponent with
  | .integer value =>
    if -wordLimit < value ∧ value < wordLimit then .ok value
    else .error .tooLarge
  | .fractional => .error .fractional
  | .infinite => .error .notFinite

def integerOfText (countsSign : Bool) (text : String) :
    Except PayloadDefect Int :=
  match readFreeForm countsSign text.toList with
  | .ok value => .ok value
  | .error .malformed => .error .unreadableInteger
  | .error .tooManyDigits => .error .tooLarge

def toText : Json → Except PayloadDefect String
  | .string contents => .ok contents
  | _ => .error .notText

/-- The truth value of a payload.  A floating-point number that is an integer is
a word wherever it comes from, since it lies within the 64-bit integers. -/
def toTruthValue (dialect : Dialect) (origin : Origin) :
    Json → Except PayloadDefect Bool
  | .bool value => .ok value
  | .integer value => truthOfInteger (dialect.takesForWord origin value) value
  | .real mantissa exponent =>
    match integerOfReal mantissa exponent with
    | .ok value => truthOfInteger true value
    | .error _ => .error .notTruthValue
  | .string contents => truthOfWord contents
  | _ => .error .notTruthValue

def toInteger (dialect : Dialect) : Json → Except PayloadDefect Int
  | .integer value => .ok value
  | .bool value => .ok (if value then 1 else 0)
  | .real mantissa exponent => integerOfReal mantissa exponent
  | .nonFinite => .error .notFinite
  | .string contents => integerOfText dialect.countsSign contents
  | _ => .error .notInteger

/-- The datum of a kind with a given payload. -/
def ofPayload (dialect : Dialect) (origin : Origin) (payload : Json) :
    Tag → Except PayloadDefect Datum
  | .atom => (toText payload).map .atom
  | .bool => (toTruthValue dialect origin payload).map .bool
  | .string => (toText payload).map .string
  | .number => (toInteger dialect payload).map .number

/-- The datum of a kind with the payload that an object has for it. -/
def ofMembers (dialect : Dialect) (origin : Origin)
    (members : List (String × Json)) (tag : Tag) :
    Except PayloadDefect Datum :=
  match lookup? members tag.field with
  | none => .error .missing
  | some payload => ofPayload dialect origin payload tag

def tagOf? : Json → Option Tag
  | .string name => Tag.ofName? name
  | _ => none

/-- The datum that a JSON value of the given origin denotes. -/
def ofJsonFrom (dialect : Dialect) (origin : Origin) :
    Json → Except Defect Datum
  | .object members =>
    match lookup? members "type" with
    | none => .error .tagMissing
    | some name =>
      match tagOf? name with
      | none => .error .tagUnknown
      | some tag =>
        (ofMembers dialect origin members tag).mapError (.payload tag)
  | _ => .error (.notObject origin)

/-- The datum that a JSON value denotes. -/
def ofJson (dialect : Dialect) (value : Json) : Except Defect Datum :=
  ofJsonFrom dialect .value value

/-- The bounds on a text that denotes a datum. -/
def Dialect.limits (dialect : Dialect) : Limits where
  digits := digitLimit
  countsSign := dialect.countsSign
  depth := some 200

/-- The datum that the value written in a JSON text denotes. -/
def ofJsonText (dialect : Dialect) (text : String) : Except Defect Datum :=
  match parse? dialect.limits text with
  | some value => ofJsonFrom dialect .text value
  | none => .error .malformedText

end LispDatum.Datum
