/-!
# JSON values

A JSON value as its text gives it: integers are exact, a numeral with a
fraction or an exponent keeps its decimal form, and an object lists its members
in order, repeated keys included.
-/

namespace LispDatum

inductive Json where
  | null
  | bool (value : Bool)
  | integer (value : Int)
  /-- A numeral with a fraction or an exponent: `mantissa * 10 ^ exponent`. -/
  | real (mantissa exponent : Int)
  /-- One of the words `NaN`, `Infinity` and `-Infinity`. -/
  | nonFinite
  | string (contents : String)
  | array (items : List Json)
  | object (members : List (String × Json))

namespace Json

/-- The value of a key; of repeated keys the last one counts. -/
def lookup? (members : List (String × Json)) (key : String) : Option Json :=
  members.reverse.lookup key

end Json

end LispDatum
