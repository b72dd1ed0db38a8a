import LispDatum.Datum.Encoding
import LispDatum.Datum.Validation
import LispDatum.Proofs.JsonText
import LispDatum.Proofs.WrittenJson

/-!
# Data that are read back from their JSON text

The JSON text of a datum is a single line, and reading it gives the datum again.
The reader of JSON refuses numerals of more than 4300 digits, which the writer
does not, so numbers of that length are written and never read.  Where a minus
sign counts as a digit, the negative numbers of 4300 digits are among them.
-/

namespace LispDatum.Datum

open LispDatum.Json LispDatum.Numeral
open LispDatum.Reader (startsOutside_cons)
open LispDatum.Text (isPrintableText_decimal)

/-! ## The JSON value of a datum -/

/-- The payload as a JSON value. -/
def payload : Datum → Json
  | .atom name => .string name
  | .bool value => .bool value
  | .string contents => .string contents
  | .number value => .integer value

/-- The value that the JSON text of a datum denotes. -/
def toJson (datum : Datum) : Json :=
  .object [("type", .string datum.tag.name), (datum.tag.field, datum.payload)]

theorem ofPayload_payload (dialect : Dialect) (origin : Origin)
    (datum : Datum) :
    ofPayload dialect origin datum.payload datum.tag = .ok datum := by
  cases datum <;> rfl

@[simp]
theorem ofName?_name (tag : Tag) : Tag.ofName? tag.name = some tag := by
  cases tag <;> rfl

/-- The member of the payload is no second tag. -/
theorem lookup?_members (tag : Tag) (name payload : Json) :
    Json.lookup? [("type", name), (tag.field, payload)] "type" = some name ∧
      Json.lookup? [("type", name), (tag.field, payload)] tag.field =
        some payload := by
  cases tag <;> exact ⟨rfl, rfl⟩

theorem ofJsonFrom_toJson (dialect : Dialect) (origin : Origin)
    (datum : Datum) : ofJsonFrom dialect origin datum.toJson = .ok datum := by
  obtain ⟨htype, hfield⟩ :=
    lookup?_members datum.tag (.string datum.tag.name) datum.payload
  simp only [toJson, ofJsonFrom, htype, tagOf?, ofName?_name, ofMembers, hfield,
    ofPayload_payload]
  rfl

/-! ## The tokens of a datum -/

def payloadToken : Datum → Token
  | .atom name => .string name
  | .bool value => .scalar (.bool value)
  | .string contents => .string contents
  | .number value => .scalar (.integer value)

def tokens (datum : Datum) : List Token := [
    .openObject, .string "type", .colon, .string datum.tag.name, .comma,
    .string datum.tag.field, .colon, datum.payloadToken, .closeObject]

/-- The numeral of the datum, if it has one, keeps to the limits. -/
def fitsDigits (limits : Limits) : Datum → Bool
  | .number value =>
    limits.allowsDigits (value < 0) (decimalDigits value.natAbs).length
  | _ => true

theorem tokens?_payloadText_append (limits : Limits) (datum : Datum)
    {rest : List Char} (hrest : EndsNumeral rest) :
    tokens? limits (datum.payloadText.toList ++ rest) =
      if datum.fitsDigits limits then
        (tokens? limits rest).map (datum.payloadToken :: ·)
      else none := by
  cases datum with
  | atom name => exact tokens?_stringText_append limits rest name
  | bool value =>
    cases value with
    | false => exact tokens?_false limits rest
    | true => exact tokens?_true limits rest
  | string contents => exact tokens?_stringText_append limits rest contents
  | number value => exact tokens?_decimal_append limits value hrest

theorem toList_jsonText (datum : Datum) :
    datum.jsonText.toList =
      '\x7b' :: ((stringText "type").toList ++
        ':' :: ((stringText datum.tag.name).toList ++
          ',' :: ((stringText datum.tag.field).toList ++
            ':' :: (datum.payloadText.toList ++ ['\x7d'])))) := by
  have hopen : "\x7b".toList = ['\x7b'] := rfl
  have hcolon : ":".toList = [':'] := rfl
  have hcomma : ",".toList = [','] := rfl
  have hclose : "\x7d".toList = ['\x7d'] := rfl
  simp only [jsonText, String.toList_append, hopen, hcolon, hcomma, hclose,
    List.append_assoc, List.cons_append, List.nil_append]

theorem endsNumeral_brace : EndsNumeral ['\x7d'] where
  digit := startsOutside_cons.2 (by decide)
  point := startsOutside_cons.2 (by decide)
  exponent := startsOutside_cons.2 (by decide)

theorem tokens?_jsonText (limits : Limits) (datum : Datum) :
    tokens? limits datum.jsonText.toList =
      if datum.fitsDigits limits then some datum.tokens else none := by
  have hend : tokens? limits [] = some [] := by rw [tokens?]
  rw [toList_jsonText, tokens?_openObject, tokens?_stringText_append,
    tokens?_colon, tokens?_stringText_append, tokens?_comma,
    tokens?_stringText_append, tokens?_colon,
    tokens?_payloadText_append limits datum endsNumeral_brace,
    tokens?_closeObject, hend]
  split_ifs <;> rfl

theorem tokens_toJson (datum : Datum) : datum.toJson.tokens = datum.tokens := by
  cases datum <;> rfl

/-- The text of a datum is one object that lies in no other. -/
theorem ofTokens?_tokens {limits : Limits}
    (hdepth : limits.allowsDepth 1 = true) (datum : Datum) :
    ofTokens? limits datum.tokens = some datum.toJson := by
  have hnesting : datum.toJson.nesting = 1 := by cases datum <;> rfl
  rw [← tokens_toJson, ofTokens?_tokens_iff, hnesting]
  exact hdepth

theorem parse?_jsonText {limits : Limits}
    (hdepth : limits.allowsDepth 1 = true) (datum : Datum) :
    parse? limits datum.jsonText =
      if datum.fitsDigits limits then some datum.toJson else none := by
  rw [parse?, tokens?_jsonText]
  split_ifs
  · exact ofTokens?_tokens hdepth datum
  · rfl

/-! ## The limit on digits -/

/-- A number whose numeral has more digits than the reader takes. -/
def IsOverlong (dialect : Dialect) : Datum → Prop
  | .number value =>
    digitsWithin digitLimit dialect.countsSign (value < 0) <
      (decimalDigits value.natAbs).length
  | _ => False

theorem isOverlong_number_iff {dialect : Dialect} {value : Int} :
    IsOverlong dialect (.number value) ↔
      10 ^ digitsWithin digitLimit dialect.countsSign (value < 0) ≤
        value.natAbs := by
  have hmost : 0 < digitsWithin digitLimit dialect.countsSign (value < 0) := by
    rw [digitsWithin]
    split_ifs <;> decide
  exact lt_length_decimalDigits_iff hmost

theorem isOverlong_power : IsOverlong {} (.number (10 ^ 4300)) := by
  have hmost (negative : Bool) :
      digitsWithin digitLimit false negative = 4300 := rfl
  have hbase : Int.natAbs 10 = 10 := rfl
  rw [isOverlong_number_iff, hmost, Int.natAbs_pow, hbase]

theorem isOverlong_neg_power :
    IsOverlong { countsSign := true } (.number (-10 ^ 4299)) := by
  have hmost : digitsWithin digitLimit true true = 4299 := rfl
  have hbase : Int.natAbs 10 = 10 := rfl
  have hnegative : (-10 ^ 4299 : Int) < 0 :=
    Int.neg_neg_of_pos (Int.pow_pos (by decide))
  rw [isOverlong_number_iff, decide_eq_true hnegative, hmost,
    Int.natAbs_neg, Int.natAbs_pow, hbase]

theorem fitsDigits_limits_iff (dialect : Dialect) (datum : Datum) :
    datum.fitsDigits dialect.limits = true ↔ ¬ datum.IsOverlong dialect := by
  cases datum with
  | number value =>
    rw [fitsDigits, IsOverlong, not_lt]
    exact decide_eq_true_iff
  | _ => simp [fitsDigits, IsOverlong]

theorem ofJsonText_jsonText_of_not_overlong {dialect : Dialect} {datum : Datum}
    (hshort : ¬ datum.IsOverlong dialect) :
    ofJsonText dialect datum.jsonText = .ok datum := by
  have hdepth : dialect.limits.allowsDepth 1 = true := rfl
  rw [ofJsonText, parse?_jsonText hdepth,
    if_pos ((fitsDigits_limits_iff dialect datum).2 hshort)]
  exact ofJsonFrom_toJson dialect .text datum

theorem ofJsonText_jsonText_of_overlong {dialect : Dialect} {datum : Datum}
    (hlong : datum.IsOverlong dialect) :
    ofJsonText dialect datum.jsonText = .error .malformedText := by
  have hdepth : dialect.limits.allowsDepth 1 = true := rfl
  have hrefused : ¬ datum.fitsDigits dialect.limits = true := by
    rw [fitsDigits_limits_iff, not_not]
    exact hlong
  rw [ofJsonText, parse?_jsonText hdepth, if_neg hrefused]

/-! ## The round trip -/

theorem hasNoControls_payloadText (datum : Datum) :
    HasNoControls datum.payloadText.toList := by
  cases datum with
  | atom name => exact hasNoControls_stringText name
  | bool value => cases value <;> simp [payloadText, HasNoControls]
  | string contents => exact hasNoControls_stringText contents
  | number value =>
    exact hasNoControls_of_isPrintableText (isPrintableText_decimal value)

theorem hasNoControls_jsonText (datum : Datum) :
    HasNoControls datum.jsonText.toList := by
  have hclose : HasNoControls ['\x7d'] := by simp [HasNoControls]
  simp only [toList_jsonText, hasNoControls_cons, hasNoControls_append,
    hasNoControls_stringText, hasNoControls_payloadText, hclose, and_true,
    true_and]
  decide

/-- A datum is read back from its JSON text exactly if its numeral is not too
long for the reader of JSON, who then finds the text malformed.  The text is a
single line in any case. -/
theorem ofJsonText_jsonText (dialect : Dialect) (datum : Datum) :
    (ofJsonText dialect datum.jsonText = .ok datum ↔
      ¬ datum.IsOverlong dialect) ∧
    (ofJsonText dialect datum.jsonText = .error .malformedText ↔
      datum.IsOverlong dialect) ∧
    HasNoControls datum.jsonText.toList := by
  refine ⟨⟨?_, ofJsonText_jsonText_of_not_overlong⟩,
    ⟨?_, ofJsonText_jsonText_of_overlong⟩, hasNoControls_jsonText datum⟩
  · intro hback hlong
    rw [ofJsonText_jsonText_of_overlong hlong] at hback
    contradiction
  · intro hrefused
    by_contra hshort
    rw [ofJsonText_jsonText_of_not_overlong hshort] at hrefused
    contradiction

/-- The least number with 4301 digits is written and not read back, nor is the
greatest negative number with 4300 digits where the minus sign counts. -/
theorem ofJsonText_jsonText_power :
    ofJsonText {} (jsonText (.number (10 ^ 4300))) ≠
      .ok (.number (10 ^ 4300)) ∧
    ofJsonText { countsSign := true } (jsonText (.number (-10 ^ 4299))) ≠
      .ok (.number (-10 ^ 4299)) := by
  rw [ofJsonText_jsonText_of_overlong isOverlong_power,
    ofJsonText_jsonText_of_overlong isOverlong_neg_power]
  exact ⟨nofun, nofun⟩

end LispDatum.Datum
