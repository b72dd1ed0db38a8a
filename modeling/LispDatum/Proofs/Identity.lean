import LispDatum.Datum.Description
import LispDatum.Proofs.QuotedText
import LispDatum.Proofs.RoundTrip
import Mathlib.Logic.Function.Basic

/-!
# Data that print the same

Each printed form of a datum tells its tag and its payload, hence the datum.
The JSON text is read back by a reader without limits.  A description quotes the
name of the tag, which therefore ends where its quote does; the payload is what
remains.  Texts that imitate the form of another datum do not interfere, because
they are quoted themselves.  Finding a datum by its hash is finding it by
comparison, since the first entry of a key is kept.
-/

namespace LispDatum.Datum

open LispDatum.Json LispDatum.Numeral LispDatum.Text

/-! ## JSON text -/

/-- The JSON text of a datum denotes the object of its two members, whatever
the size of the payload. -/
theorem parse?_jsonText_unlimited (datum : Datum) :
    parse? {} datum.jsonText = some datum.toJson := by
  have hdepth : ({} : Limits).allowsDepth 1 = true := rfl
  have hdigits : datum.fitsDigits {} = true := by
    cases datum <;> rfl
  rw [parse?_jsonText hdepth, if_pos hdigits]

/-- If reading a form back gives something that tells the source, then the form
tells it. -/
theorem injective_of_read {Source Form Value : Type} {write : Source → Form}
    {read : Form → Value} {value : Source → Value}
    (hvalue : Function.Injective value)
    (hread : ∀ source, read (write source) = value source) :
    Function.Injective write := by
  intro source other hform
  apply hvalue
  rw [← hread source, hform, hread other]

theorem toJson_injective : Function.Injective toJson := by
  have hok : Function.Injective (Except.ok : Datum → Except Defect Datum) :=
    fun _ _ => Except.ok.inj
  exact injective_of_read hok (ofJsonFrom_toJson {} .value)

theorem jsonText_injective : Function.Injective jsonText := by
  have hvalue : Function.Injective (some ∘ toJson) :=
    (Option.some_injective Json).comp toJson_injective
  exact injective_of_read hvalue parse?_jsonText_unlimited

/-! ## Descriptions -/

/-- The fields of a datum with its payload as it is shown. -/
def fieldsText (separator : String) (tag : Tag) (payload : String) : String :=
  "type=" ++ quoted tag.name ++ separator ++ tag.field ++ "=" ++ payload

def fullText (tag : Tag) (payload : String) : String :=
  title tag ++ "(" ++ fieldsText ", " tag payload ++ ")"

theorem summarize_eq_map (datum : Datum) :
    datum.summarize = datum.describePayload.map (fieldsText " " datum.tag) := by
  rw [summarize, describeFields]
  cases datum.describePayload <;> rfl

theorem describe_eq_map (datum : Datum) :
    datum.describe = datum.describePayload.map (fullText datum.tag) := by
  rw [describe, describeFields]
  cases datum.describePayload <;> rfl

theorem name_injective : Function.Injective Tag.name :=
  injective_of_read (Option.some_injective Tag) ofName?_name

/-- The tag is known from its quoted name, and the payload is what stands behind
the text that the tag fixes. -/
theorem injective2_fieldsText (separator : String) :
    Function.Injective2 (fieldsText separator) := by
  intro tag other payload otherPayload htext
  have hchars := congrArg String.toList htext
  simp only [fieldsText, String.toList_append, List.append_assoc] at hchars
  obtain ⟨hname, hbehind⟩ :=
    quoted_append_inj (List.append_cancel_left hchars)
  obtain rfl := name_injective hname
  have hpayload := List.append_cancel_left
    (List.append_cancel_left (List.append_cancel_left hbehind))
  exact ⟨rfl, String.toList_injective hpayload⟩

/-- The first letter of a title tells the tag. -/
theorem title_append_inj {tag other : Tag} {rest tail : List Char}
    (htext : (title tag).toList ++ rest = (title other).toList ++ tail) :
    tag = other ∧ rest = tail := by
  have htag : tag = other := by
    have hfirst := congrArg List.head? htext
    cases tag <;> cases other <;> first | rfl | simp [title] at hfirst
  obtain rfl := htag
  exact ⟨rfl, List.append_cancel_left htext⟩

theorem injective2_fullText : Function.Injective2 fullText := by
  intro tag other payload otherPayload htext
  have hchars := congrArg String.toList htext
  simp only [fullText, String.toList_append, List.append_assoc] at hchars
  obtain ⟨-, hbehind⟩ := title_append_inj hchars
  have hfields := List.append_cancel_right (List.append_cancel_left hbehind)
  exact injective2_fieldsText ", " (String.toList_injective hfields)

/-! ## The payload in a description -/

/-- A number whose numeral has more than 4300 digits. -/
def HasLongNumeral : Datum → Prop
  | .number value => digitLimit < (decimalDigits value.natAbs).length
  | _ => False

theorem hasLongNumeral_number_iff {value : Int} :
    HasLongNumeral (.number value) ↔ 10 ^ digitLimit ≤ value.natAbs :=
  lt_length_decimalDigits_iff (by decide)

theorem describePayload_number_of_short {value : Int}
    (hshort : ¬ HasLongNumeral (.number value)) :
    describePayload (.number value) = .ok (decimal value) := by
  rw [hasLongNumeral_number_iff, not_le] at hshort
  rw [describePayload, Nat.pow_eq, if_pos hshort]

theorem describePayload_of_long {datum : Datum}
    (hlong : datum.HasLongNumeral) : datum.describePayload = .error ⟨⟩ := by
  cases datum with
  | number value =>
    rw [hasLongNumeral_number_iff, ← not_lt] at hlong
    rw [describePayload, Nat.pow_eq, if_neg hlong]
  | atom name => exact hlong.elim
  | bool value => exact hlong.elim
  | string contents => exact hlong.elim

theorem exists_describePayload_eq {datum : Datum}
    (hshort : ¬ datum.HasLongNumeral) :
    ∃ payload, datum.describePayload = .ok payload := by
  cases datum with
  | atom name => exact ⟨_, rfl⟩
  | bool value => cases value <;> exact ⟨_, rfl⟩
  | string contents => exact ⟨_, rfl⟩
  | number value => exact ⟨_, describePayload_number_of_short hshort⟩

/-- Of data with the same tag, the shown payload tells which one it is. -/
theorem eq_of_describePayload_eq {datum other : Datum} {payload : String}
    (htag : datum.tag = other.tag)
    (hdatum : datum.describePayload = .ok payload)
    (hother : other.describePayload = .ok payload) : datum = other := by
  cases datum <;> cases other <;> try cases htag
  case atom.atom name otherName =>
    have hsame : quoted name = quoted otherName :=
      Except.ok.inj (hdatum.trans hother.symm)
    rw [quoted_injective hsame]
  case bool.bool value otherValue =>
    have hsame := hdatum.trans hother.symm
    cases value <;> cases otherValue <;>
      first | rfl | simp [describePayload] at hsame
  case string.string contents otherContents =>
    have hsame : quoted contents = quoted otherContents :=
      Except.ok.inj (hdatum.trans hother.symm)
    rw [quoted_injective hsame]
  case number.number value otherValue =>
    have hshort {number : Int}
        (hnumber : describePayload (.number number) = .ok payload) :
        ¬ HasLongNumeral (.number number) := by
      intro hlong
      rw [describePayload_of_long hlong] at hnumber
      cases hnumber
    rw [describePayload_number_of_short (hshort hdatum)] at hdatum
    rw [describePayload_number_of_short (hshort hother)] at hother
    have hsame := Except.ok.inj (hdatum.trans hother.symm)
    rw [decimal_injective hsame]

section Written

variable {write : Tag → String → String}

theorem map_describePayload_eq_error_iff (datum : Datum) :
    datum.describePayload.map (write datum.tag) = .error ⟨⟩ ↔
      datum.HasLongNumeral := by
  constructor
  · intro hfailed
    by_contra hshort
    obtain ⟨payload, hpayload⟩ := exists_describePayload_eq hshort
    rw [hpayload] at hfailed
    cases hfailed
  · intro hlong
    rw [describePayload_of_long hlong]
    rfl

/-- A form that tells tag and payload tells the datum. -/
theorem map_describePayload_eq_iff (hwrite : Function.Injective2 write)
    {datum other : Datum} (hdatum : ¬ datum.HasLongNumeral)
    (hother : ¬ other.HasLongNumeral) :
    datum.describePayload.map (write datum.tag) =
        other.describePayload.map (write other.tag) ↔ datum = other := by
  constructor
  · intro hsame
    obtain ⟨payload, hpayload⟩ := exists_describePayload_eq hdatum
    obtain ⟨otherPayload, hotherPayload⟩ := exists_describePayload_eq hother
    rw [hpayload, hotherPayload] at hsame
    obtain ⟨htag, rfl⟩ := hwrite (Except.ok.inj hsame)
    exact eq_of_describePayload_eq htag hpayload hotherPayload
  · rintro rfl
    rfl

end Written

/-! ## The first place of a datum -/

/-- A datum stands at an index of a list and nowhere before. -/
structure IsFirstPlace (data : List Datum) (datum : Datum) (index : Nat) :
    Prop where
  here : data[index]? = some datum
  earlier : ∀ before < index, data[before]? ≠ some datum

theorem exists_firstEqual?_eq {data : List Datum} {datum : Datum}
    (hmem : datum ∈ data) :
    ∃ index, firstEqual? data datum = some index ∧
      IsFirstPlace data datum index := by
  have hfound : (firstEqual? data datum).isSome = true := by
    rw [firstEqual?, List.findIdx?_isSome, List.any_eq_true]
    exact ⟨datum, hmem, beq_self_eq_true datum⟩
  obtain ⟨index, hindex⟩ := Option.isSome_iff_exists.1 hfound
  obtain ⟨hlength, hhere, hearlier⟩ :=
    List.findIdx?_eq_some_iff_getElem.1 hindex
  refine ⟨index, hindex, ?_, ?_⟩
  · rw [List.getElem?_eq_getElem hlength, eq_of_beq hhere]
  · intro before hbefore hsame
    obtain ⟨_, hdatum⟩ := List.getElem?_eq_some_iff.1 hsame
    apply hearlier before hbefore
    rw [hdatum]
    exact beq_self_eq_true datum

theorem firstEqual?_cons (other : Datum) (data : List Datum) (datum : Datum) :
    firstEqual? (other :: data) datum =
      if other = datum then some 0
      else (firstEqual? data datum).map fun index => index + 1 := by
  simp only [firstEqual?, List.findIdx?_cons, beq_iff_eq]

/-- Entering further data at consecutive places keeps the places that are
entered already; of the others, the first counts. -/
theorem getElem?_foldl_insertIfNew (data : List Datum) (start : Nat)
    (places : Std.HashMap Datum Nat) (datum : Datum) :
    ((data.zipIdx start).foldl
      (fun places entry => places.insertIfNew entry.1 entry.2) places)[datum]? =
      places[datum]?.or
        ((firstEqual? data datum).map fun index => start + index) := by
  induction data generalizing start places with
  | nil =>
    have hnone : firstEqual? [] datum = none := rfl
    rw [List.zipIdx_nil, List.foldl_nil, hnone, Option.map_none, Option.or_none]
  | cons other data hind =>
    rw [List.zipIdx_cons, List.foldl_cons, hind,
      Std.HashMap.getElem?_insertIfNew, firstEqual?_cons]
    by_cases hsame : other = datum
    · subst hsame
      by_cases hmem : other ∈ places <;> simp [hmem]
    · have hlater : ((firstEqual? data datum).map (· + 1)).map (start + ·) =
          (firstEqual? data datum).map (start + 1 + ·) := by
        rw [Option.map_map]
        congr 1
        funext index
        simp only [Function.comp_apply]
        omega
      simp [hsame, hlater]

theorem firstEqualByHash?_eq (data : List Datum) (datum : Datum) :
    firstEqualByHash? data datum = firstEqual? data datum := by
  rw [firstEqualByHash?, firstPlaces, getElem?_foldl_insertIfNew]
  simp

/-! ## Equality and print -/

/-- Data are equal exactly if their JSON texts are, and unless one has a numeral
of more than 4300 digits, exactly if their descriptions are, full or short.
Such a numeral is all that a description fails for; the JSON text is always
there, and is JSON.  Data with different tags are never equal, and a datum is
found in a list at its first place, by comparison and by hashing alike. -/
theorem beq_iff_printed :
    (∀ datum other : Datum,
      ((datum == other) = true ↔ datum.jsonText = other.jsonText) ∧
      (datum.tag ≠ other.tag → (datum == other) = false)) ∧
    (∀ datum other : Datum,
      ¬ datum.HasLongNumeral → ¬ other.HasLongNumeral →
        ((datum == other) = true ↔ datum.describe = other.describe) ∧
        ((datum == other) = true ↔ datum.summarize = other.summarize)) ∧
    (∀ datum : Datum,
      (datum.describe = .error ⟨⟩ ↔ datum.HasLongNumeral) ∧
      (datum.summarize = .error ⟨⟩ ↔ datum.HasLongNumeral) ∧
      parse? {} datum.jsonText = some datum.toJson) ∧
    ∀ (data : List Datum) (datum : Datum),
      firstEqualByHash? data datum = firstEqual? data datum ∧
      (datum ∈ data → ∃ index, firstEqual? data datum = some index ∧
        IsFirstPlace data datum index) := by
  refine ⟨?_, ?_, ?_, ?_⟩
  · intro datum other
    rw [beq_iff_eq, beq_eq_false_iff_ne]
    refine ⟨jsonText_injective.eq_iff.symm, ?_⟩
    rintro htag rfl
    exact htag rfl
  · intro datum other hdatum hother
    rw [beq_iff_eq, describe_eq_map, describe_eq_map, summarize_eq_map,
      summarize_eq_map]
    have hfull := map_describePayload_eq_iff injective2_fullText hdatum hother
    have hshort := map_describePayload_eq_iff (injective2_fieldsText " ")
      hdatum hother
    exact ⟨hfull.symm, hshort.symm⟩
  · intro datum
    rw [describe_eq_map, summarize_eq_map]
    exact ⟨map_describePayload_eq_error_iff datum,
      map_describePayload_eq_error_iff datum, parse?_jsonText_unlimited datum⟩
  · intro data datum
    exact ⟨firstEqualByHash?_eq data datum, exists_firstEqual?_eq⟩

/-- An identifier and a text of the same characters are described differently,
and the truth value true is not found where the integer one stands. -/
theorem beq_iff_printed_samePayload :
    let data : List Datum := [.number 1, .bool true, .atom "a", .string "a"]
    describe (.atom "a") ≠ describe (.string "a") ∧
    (Datum.number 1 == .bool true) = false ∧
    firstEqualByHash? data (.bool true) = some 1 ∧
    ∃ index, firstEqual? data (.bool true) = some index ∧
      IsFirstPlace data (.bool true) index := by
  intro data
  obtain ⟨hjson, hprinted, -, hplaces⟩ := beq_iff_printed
  obtain ⟨hhash, hfound⟩ := hplaces data (.bool true)
  have hdescribed := (hprinted (.atom "a") (.string "a") id id).1
  refine ⟨?_, (hjson _ _).2 (by decide), ?_, hfound (by decide)⟩
  · intro hsame
    exact absurd (hdescribed.2 hsame) (by decide)
  · rw [hhash]
    decide

end LispDatum.Datum
