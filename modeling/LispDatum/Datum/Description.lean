import LispDatum.Datum.Basic
import LispDatum.Numeral
import LispDatum.Text.Quoted

/-!
# Descriptions of data

The description of a datum lists its tag and its payload by field name, with
texts quoted; the full form puts the name of the kind around the list.  A
numeral of more than 4300 digits is not written out, so a datum with such a
payload has no description.
-/

namespace LispDatum.Datum

open LispDatum.Text LispDatum.Numeral

/-- The name that the full description of a datum starts with. -/
def title : Tag → String
  | .atom => "Atom"
  | .bool => "Bool"
  | .string => "String"
  | .number => "Number"

/-- A numeral has more digits than a description may show. -/
structure TooManyDigits where
deriving DecidableEq, Repr

def TooManyDigits.message : String :=
  "Exceeds the limit (4300 digits) for integer string conversion; " ++
    "use sys.set_int_max_str_digits() to increase the limit"

/-- The payload as a description shows it. -/
def describePayload : Datum → Except TooManyDigits String
  | .atom name => .ok (quoted name)
  | .bool true => .ok "True"
  | .bool false => .ok "False"
  | .string contents => .ok (quoted contents)
  | .number value =>
    if value.natAbs < Nat.pow 10 digitLimit then .ok (decimal value)
    else .error ⟨⟩

/-- The fields of a datum with a given text between them. -/
def describeFields (separator : String) (datum : Datum) :
    Except TooManyDigits String := do
  let payload ← datum.describePayload
  return "type=" ++ quoted datum.tag.name ++ separator ++
    datum.tag.field ++ "=" ++ payload

/-- The full description, such as `Number(type='number', value=255)`. -/
def describe (datum : Datum) : Except TooManyDigits String := do
  let fields ← datum.describeFields ", "
  return title datum.tag ++ "(" ++ fields ++ ")"

/-- The short description, such as `type='number' value=255`. -/
def summarize (datum : Datum) : Except TooManyDigits String :=
  datum.describeFields " "

end LispDatum.Datum
