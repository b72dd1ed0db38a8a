import Std.Data.HashMap

/-!
# Data

A datum is what one Lisp expression denotes: an identifier, a truth value, a
text or an integer.  Two data are equal when they have the same tag and the
same payload; nothing is normalized, so the truth value true and the integer
one differ, and so do an identifier and a text of the same characters.
-/

namespace LispDatum

/-- The value of one expression. -/
inductive Datum where
  | atom (name : String)
  | bool (value : Bool)
  /-- A text, with its escapes decoded. -/
  | string (contents : String)
  /-- An exact integer. -/
  | number (value : Int)
deriving DecidableEq, Hashable, Repr

inductive Tag where
  | atom
  | bool
  | string
  | number
deriving DecidableEq, Repr

namespace Tag

def all : List Tag := [.atom, .bool, .string, .number]

def name : Tag → String
  | .atom => "atom"
  | .bool => "bool"
  | .string => "string"
  | .number => "number"

def ofName? (name : String) : Option Tag :=
  all.find? fun tag => tag.name == name

/-- The name of the field that holds the payload. -/
def field : Tag → String
  | .atom => "name"
  | .bool => "value"
  | .string => "contents"
  | .number => "value"

end Tag

namespace Datum

def tag : Datum → Tag
  | .atom _ => .atom
  | .bool _ => .bool
  | .string _ => .string
  | .number _ => .number

/-- Where the first datum equal to `datum` stands, found by comparison. -/
def firstEqual? (data : List Datum) (datum : Datum) : Option Nat :=
  data.findIdx? fun other => other == datum

/-- The first place of each datum of a list, keyed by the datum. -/
def firstPlaces (data : List Datum) : Std.HashMap Datum Nat :=
  data.zipIdx.foldl
    (fun places entry => places.insertIfNew entry.1 entry.2) ∅

/-- Where the first datum equal to `datum` stands, found by hashing. -/
def firstEqualByHash? (data : List Datum) (datum : Datum) : Option Nat :=
  (firstPlaces data)[datum]?

/-- A field of a datum was to be changed. -/
structure Frozen where
  field : String
deriving DecidableEq, Repr

/-- Data never change: assigning a field is refused, whether the datum has a
field of that name or not.  A name that starts with an underscore names no
field; assigning it is allowed and has no effect on the datum. -/
def assign (datum : Datum) (field : String) : Except Frozen Datum :=
  if field.toList.head? = some '_' then .ok datum else .error ⟨field⟩

end Datum

end LispDatum
