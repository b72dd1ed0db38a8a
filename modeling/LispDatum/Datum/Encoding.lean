import LispDatum.Datum.Basic
import LispDatum.Json.Escape
import LispDatum.Numeral

/-!
# Data as JSON text

A datum is written as a JSON object of two members without white space: its tag
under the key `type`, then its payload under the name of its field.  Integers
are written with all their digits.
-/

namespace LispDatum.Datum

open LispDatum.Json LispDatum.Numeral

def payloadText : Datum → String
  | .atom name => stringText name
  | .bool true => "true"
  | .bool false => "false"
  | .string contents => stringText contents
  | .number value => decimal value

def jsonText (datum : Datum) : String :=
  "\x7b" ++ stringText "type" ++ ":" ++ stringText datum.tag.name ++ "," ++
    stringText datum.tag.field ++ ":" ++ datum.payloadText ++ "\x7d"

end LispDatum.Datum
