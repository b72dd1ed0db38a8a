import LispDatum.Proofs.RoundTrip
import LispDatum.Proofs.WrittenJson
import Mathlib.Logic.Relation

/-!
# The members that decide

What a JSON object denotes depends on two of its members only: the last one of
the key `type` and, if that names a kind, the last one of the field of this
kind.  All others may be there or not, with any value and in any place.  A text
denotes what the object in it denotes, as long as it keeps to the limits on
texts; beyond them it is malformed, whichever member is too large.  The one
difference between the two is in what is said of an integer of 19 digits that is
given for a truth value, where such an integer is a machine word only outside
texts.
-/

namespace LispDatum.Json

/-! ## Repeated keys -/

/-- The values that an object gives for a key, in order. -/
def valuesOf (members : List (String × Json)) (key : String) : List Json :=
  (members.filter fun member => member.1 == key).map Prod.snd

/-- The value that the last member with the key has. -/
def lastValue? (members : List (String × Json)) (key : String) : Option Json :=
  (valuesOf members key).getLast?

theorem lastValue?_append (before after : List (String × Json))
    (key : String) :
    lastValue? (before ++ after) key =
      (lastValue? after key).or (lastValue? before key) := by
  rw [lastValue?, valuesOf, List.filter_append, List.map_append,
    List.getLast?_append]
  rfl

theorem lastValue?_cons (name : String) (value : Json)
    (members : List (String × Json)) (key : String) :
    lastValue? ((name, value) :: members) key =
      (lastValue? members key).or
        (if name = key then some value else none) := by
  rw [← List.singleton_append, lastValue?_append]
  by_cases hname : name = key <;> simp [lastValue?, valuesOf, hname]

theorem isSome_lastValue?_iff {members : List (String × Json)} {key : String} :
    (lastValue? members key).isSome = true ↔ key ∈ members.map Prod.fst := by
  simp [lastValue?, valuesOf]

/-- A lookup finds the last value of a key. -/
theorem lookup?_eq_lastValue? (members : List (String × Json)) (key : String) :
    lookup? members key = lastValue? members key := by
  induction members with
  | nil => rfl
  | cons member members hind =>
    obtain ⟨name, value⟩ := member
    rw [lastValue?_cons, ← hind, lookup?, List.reverse_cons,
      List.lookup_append, ← lookup?]
    by_cases hname : name = key
    · simp [hname]
    · have hother : (key == name) = false := by simp [Ne.symm hname]
      simp [List.lookup_cons, hname, hother]

/-- A member more does not change the last value of another key. -/
theorem lastValue?_insert_of_ne (before after : List (String × Json))
    {name key : String} (value : Json) (hne : name ≠ key) :
    lastValue? (before ++ (name, value) :: after) key =
      lastValue? (before ++ after) key := by
  rw [lastValue?_append, lastValue?_cons, if_neg hne, Option.or_none,
    lastValue?_append]

/-- A member in front of another one with its key changes no last value. -/
theorem lastValue?_insert_of_mem (before : List (String × Json))
    {after : List (String × Json)} {name : String} (value : Json)
    (hlater : name ∈ after.map Prod.fst) (key : String) :
    lastValue? (before ++ (name, value) :: after) key =
      lastValue? (before ++ after) key := by
  by_cases hname : name = key
  · obtain ⟨last, hlast⟩ :=
      Option.isSome_iff_exists.1 (isSome_lastValue?_iff.2 hlater)
    rw [hname] at hlast
    rw [lastValue?_append, lastValue?_cons, lastValue?_append, hlast,
      Option.some_or, Option.some_or]
  · exact lastValue?_insert_of_ne before after value hname

/-! ## Values that are alike -/

/-- Two values are alike if they differ only in the order of members and in
members behind which the same key comes again. -/
inductive Alike : Json → Json → Prop where
  | refl (value : Json) : Alike value value
  | array {items others : List Json}
      (hitems : List.Forall₂ Alike items others) :
      Alike (.array items) (.array others)
  | object {members others : List (String × Json)}
      (hmembers : ∀ key, Option.Rel Alike (lastValue? members key)
        (lastValue? others key)) :
      Alike (.object members) (.object others)

theorem Alike.eq_string_iff {value other : Json} (halike : Alike value other)
    {contents : String} :
    value = .string contents ↔ other = .string contents := by
  cases halike with
  | refl => exact Iff.rfl
  | array hitems => simp
  | object hmembers => simp

end LispDatum.Json

namespace LispDatum.Datum

open LispDatum.Json LispDatum.Numeral

/-! ## The kind and the payload -/

theorem ofName?_eq_some_iff {name : String} {tag : Tag} :
    Tag.ofName? name = some tag ↔ name = tag.name := by
  constructor
  · intro hfound
    have hname := List.find?_some hfound
    exact (beq_iff_eq.1 hname).symm
  · rintro rfl
    exact ofName?_name tag

theorem tagOf?_eq_some_iff {value : Json} {tag : Tag} :
    tagOf? value = some tag ↔ value = .string tag.name := by
  cases value <;> simp [tagOf?, ofName?_eq_some_iff]

/-- The object says that it is of this kind. -/
def HasTag (members : List (String × Json)) (tag : Tag) : Prop :=
  lastValue? members "type" = some (.string tag.name)

theorem HasTag.unique {members : List (String × Json)} {tag other : Tag}
    (htag : HasTag members tag) (hother : HasTag members other) :
    tag = other := by
  rw [HasTag, htag, Option.some.injEq, ← tagOf?_eq_some_iff, tagOf?,
    ofName?_name] at hother
  exact Option.some.inj hother

section Judgement

variable {dialect : Dialect} {origin : Origin} {members : List (String × Json)}

/-- What an object of a kind denotes, by the payload that it has for it. -/
def judge (dialect : Dialect) (origin : Origin) (tag : Tag) :
    Option Json → Except Defect Datum
  | none => .error (.payload tag .missing)
  | some payload =>
    (ofPayload dialect origin payload tag).mapError (.payload tag)

theorem ofJsonFrom_of_hasTag {tag : Tag} (htag : HasTag members tag) :
    ofJsonFrom dialect origin (.object members) =
      judge dialect origin tag (lastValue? members tag.field) := by
  simp only [ofJsonFrom, ofMembers, lookup?_eq_lastValue?]
  rw [htag]
  simp only [tagOf?, ofName?_name]
  cases lastValue? members tag.field <;> rfl

theorem ofJsonFrom_of_no_tag (hno : ∀ tag, ¬ HasTag members tag) :
    ofJsonFrom dialect origin (.object members) =
      if (lastValue? members "type").isSome then .error .tagUnknown
      else .error .tagMissing := by
  simp only [ofJsonFrom, lookup?_eq_lastValue?]
  cases htype : lastValue? members "type" with
  | none => rfl
  | some name =>
    cases htag : tagOf? name with
    | none => simp [htag]
    | some tag =>
      have hname := tagOf?_eq_some_iff.1 htag
      rw [hname] at htype
      exact absurd htype (hno tag)

theorem toText_eq_ok_iff {payload : Json} {text : String} :
    toText payload = .ok text ↔ payload = .string text := by
  cases payload <;> simp [toText]

theorem exists_of_map_eq_ok {Defect Value Result : Type}
    {outcome : Except Defect Value} {build : Value → Result} {result : Result}
    (hmap : outcome.map build = .ok result) :
    ∃ value, outcome = .ok value ∧ build value = result := by
  cases outcome with
  | ok value => exact ⟨value, rfl, Except.ok.inj hmap⟩
  | error defect => contradiction

theorem tag_of_ofPayload {payload : Json} {tag : Tag} {datum : Datum}
    (hpayload : ofPayload dialect origin payload tag = .ok datum) :
    datum.tag = tag := by
  cases tag <;>
  · obtain ⟨value, -, rfl⟩ := exists_of_map_eq_ok hpayload
    rfl

/-- Data of the two kinds with texts have the payload as it was given. -/
theorem ofPayload_text_iff {payload : Json} {text : String} :
    (ofPayload dialect origin payload .atom = .ok (.atom text) ↔
      payload = .string text) ∧
    (ofPayload dialect origin payload .string = .ok (.string text) ↔
      payload = .string text) := by
  rw [← toText_eq_ok_iff, ofPayload, ofPayload]
  cases toText payload <;> simp [Except.map]

theorem judge_eq_ok_iff {tag : Tag} {payload? : Option Json} {datum : Datum} :
    judge dialect origin tag payload? = .ok datum ↔
      ∃ payload, payload? = some payload ∧
        ofPayload dialect origin payload tag = .ok datum := by
  cases payload? with
  | none => simp [judge]
  | some payload =>
    cases hread : ofPayload dialect origin payload tag <;>
      simp [judge, hread, Except.mapError]

theorem location_of_judge {tag : Tag} {payload? : Option Json}
    {defect : Defect}
    (herror : judge dialect origin tag payload? = .error defect) :
    defect.location = [tag.name, tag.field] := by
  cases payload? with
  | none =>
    rw [← Except.error.inj herror]
    rfl
  | some payload =>
    rw [judge] at herror
    cases hread : ofPayload dialect origin payload tag with
    | ok datum =>
      rw [hread] at herror
      contradiction
    | error found =>
      rw [hread] at herror
      rw [← Except.error.inj herror]
      rfl

/-- An object denotes a datum exactly if it names its kind and has a payload for
it. -/
theorem ofJsonFrom_object_eq_ok_iff {datum : Datum} :
    ofJsonFrom dialect origin (.object members) = .ok datum ↔
      HasTag members datum.tag ∧ ∃ payload,
        lastValue? members datum.tag.field = some payload ∧
          ofPayload dialect origin payload datum.tag = .ok datum := by
  constructor
  · intro hok
    by_cases hsome : ∃ tag, HasTag members tag
    · obtain ⟨tag, htag⟩ := hsome
      rw [ofJsonFrom_of_hasTag htag] at hok
      obtain ⟨payload, hfield, hpayload⟩ := judge_eq_ok_iff.1 hok
      obtain rfl := tag_of_ofPayload hpayload
      exact ⟨htag, payload, hfield, hpayload⟩
    · rw [ofJsonFrom_of_no_tag (not_exists.1 hsome)] at hok
      split_ifs at hok
  · rintro ⟨htag, hpayload⟩
    rw [ofJsonFrom_of_hasTag htag]
    exact judge_eq_ok_iff.2 hpayload

/-- The defect lies in the field of the kind that the object names, and in the
object as a whole if it names none. -/
def IsLocated (members : List (String × Json)) (defect : Defect) : Prop :=
  (∃ tag, HasTag members tag ∧ defect.location = [tag.name, tag.field]) ∨
    (∀ tag, ¬ HasTag members tag) ∧ defect.location = []

theorem isLocated_of_error {defect : Defect}
    (herror : ofJsonFrom dialect origin (.object members) = .error defect) :
    IsLocated members defect := by
  by_cases hsome : ∃ tag, HasTag members tag
  · obtain ⟨tag, htag⟩ := hsome
    rw [ofJsonFrom_of_hasTag htag] at herror
    exact .inl ⟨tag, htag, location_of_judge herror⟩
  · have hno := not_exists.1 hsome
    rw [ofJsonFrom_of_no_tag hno] at herror
    refine .inr ⟨hno, ?_⟩
    split_ifs at herror <;>
    · rw [← Except.error.inj herror]
      rfl

end Judgement

/-! ## Objects that agree -/

/-- A member with this key may have a say in what the object denotes. -/
def IsDecisive (members : List (String × Json)) (key : String) : Prop :=
  key = "type" ∨ ∃ tag, HasTag members tag ∧ key = tag.field

theorem isDecisive_iff {members : List (String × Json)} {tag : Tag}
    (htag : HasTag members tag) {key : String} :
    IsDecisive members key ↔ key = "type" ∨ key = tag.field := by
  apply or_congr_right
  constructor
  · rintro ⟨other, hother, hkey⟩
    rw [htag.unique hother]
    exact hkey
  · intro hkey
    exact ⟨tag, htag, hkey⟩

/-- The deciding members of two objects have like values, or both objects lack
them. -/
def Agree (members others : List (String × Json)) : Prop :=
  ∀ key, IsDecisive members key →
    Option.Rel Alike (lastValue? members key) (lastValue? others key)

theorem ofPayload_eq_of_alike (dialect : Dialect) (origin : Origin)
    {payload other : Json} (halike : Alike payload other) (tag : Tag) :
    ofPayload dialect origin payload tag =
      ofPayload dialect origin other tag := by
  cases halike with
  | refl => rfl
  | array hitems => cases tag <;> rfl
  | object hmembers => cases tag <;> rfl

theorem judge_eq_of_rel (dialect : Dialect) (origin : Origin)
    {left right : Option Json} (hrel : Option.Rel Alike left right)
    (tag : Tag) :
    judge dialect origin tag left = judge dialect origin tag right := by
  cases hrel with
  | none => rfl
  | some halike =>
    rw [judge, judge, ofPayload_eq_of_alike dialect origin halike]

theorem eq_string_iff_of_rel {left right : Option Json}
    (hrel : Option.Rel Alike left right) {contents : String} :
    left = some (.string contents) ↔ right = some (.string contents) := by
  cases hrel with
  | none => exact Iff.rfl
  | some halike =>
    rw [Option.some.injEq, Option.some.injEq]
    exact halike.eq_string_iff

theorem isSome_eq_of_rel {left right : Option Json}
    (hrel : Option.Rel Alike left right) : left.isSome = right.isSome := by
  cases hrel <;> rfl

theorem Agree.hasTag_iff {members others : List (String × Json)}
    (hagree : Agree members others) (tag : Tag) :
    HasTag members tag ↔ HasTag others tag :=
  eq_string_iff_of_rel (hagree "type" (.inl rfl))

/-- Objects that agree denote the same. -/
theorem Agree.ofJsonFrom_eq {members others : List (String × Json)}
    (hagree : Agree members others) (dialect : Dialect) (origin : Origin) :
    ofJsonFrom dialect origin (.object members) =
      ofJsonFrom dialect origin (.object others) := by
  by_cases hsome : ∃ tag, HasTag members tag
  · obtain ⟨tag, htag⟩ := hsome
    have hfield := hagree tag.field (.inr ⟨tag, htag, rfl⟩)
    rw [ofJsonFrom_of_hasTag htag,
      ofJsonFrom_of_hasTag ((hagree.hasTag_iff tag).1 htag)]
    exact judge_eq_of_rel dialect origin hfield tag
  · have hno := not_exists.1 hsome
    have hnone (tag : Tag) : ¬ HasTag others tag := by
      rw [← hagree.hasTag_iff tag]
      exact hno tag
    rw [ofJsonFrom_of_no_tag hno, ofJsonFrom_of_no_tag hnone,
      isSome_eq_of_rel (hagree "type" (.inl rfl))]

/-- Values that are alike denote the same. -/
theorem ofJsonFrom_eq_of_alike (dialect : Dialect) (origin : Origin)
    {value other : Json} (halike : Alike value other) :
    ofJsonFrom dialect origin value = ofJsonFrom dialect origin other := by
  cases halike with
  | refl => rfl
  | array hitems => rfl
  | object hmembers =>
    apply Agree.ofJsonFrom_eq
    intro key _
    exact hmembers key

/-! ## Edits that change nothing -/

/-- What may be done to the members of an object without changing what it
denotes. -/
inductive Edit : List (String × Json) → List (String × Json) → Prop where
  /-- Members change places, but not with members of the same key. -/
  | reorder {members others : List (String × Json)}
      (hvalues : ∀ key, valuesOf members key = valuesOf others key) :
      Edit members others
  /-- A member comes in whose key has no say. -/
  | insertOther {before after : List (String × Json)} {key : String}
      (value : Json) (hother : ¬ IsDecisive (before ++ after) key) :
      Edit (before ++ after) (before ++ (key, value) :: after)
  /-- A member comes in whose key comes again later. -/
  | insertEarlier {before after : List (String × Json)} {key : String}
      (value : Json) (hlater : key ∈ after.map Prod.fst) :
      Edit (before ++ after) (before ++ (key, value) :: after)

theorem Edit.swap (before after : List (String × Json)) {left right : String}
    (first second : Json) (hne : left ≠ right) :
    Edit (before ++ (left, first) :: (right, second) :: after)
      (before ++ (right, second) :: (left, first) :: after) := by
  apply Edit.reorder
  intro key
  by_cases hleft : left = key
  · have hright : right ≠ key := by
      rw [← hleft]
      exact hne.symm
    simp [valuesOf, hleft, hright]
  · simp [valuesOf, List.filter_cons, hleft]

/-- An edit does not change the last value of any deciding key. -/
theorem Edit.agree {members others : List (String × Json)}
    (hedit : Edit members others) : Agree members others := by
  have hagree (hsame : ∀ key, IsDecisive members key →
      lastValue? members key = lastValue? others key) :
      Agree members others := by
    intro key hkey
    rw [hsame key hkey]
    cases lastValue? others key with
    | none => exact .none
    | some value => exact .some (.refl value)
  apply hagree
  intro key hkey
  cases hedit with
  | reorder hvalues => rw [lastValue?, lastValue?, hvalues]
  | insertOther value hother =>
    refine (lastValue?_insert_of_ne _ _ value ?_).symm
    rintro rfl
    exact hother hkey
  | insertEarlier value hlater =>
    exact (lastValue?_insert_of_mem _ value hlater key).symm

/-- What an edit does not change, no run of edits and their reversals does. -/
theorem ofJsonFrom_eq_of_edits (dialect : Dialect) (origin : Origin)
    {members others : List (String × Json)}
    (hedits : Relation.EqvGen Edit members others) :
    ofJsonFrom dialect origin (.object members) =
      ofJsonFrom dialect origin (.object others) := by
  induction hedits with
  | rel members others hedit =>
    exact hedit.agree.ofJsonFrom_eq dialect origin
  | refl members => rfl
  | symm members others _ hind => exact hind.symm
  | trans members middle others _ _ hleft hright => exact hleft.trans hright

/-- The atom `x` as an object. -/
def plainAtom : List (String × Json) :=
  [("type", .string "atom"), ("name", .string "x")]

/-- The atom `x` as an object in another order and with an earlier name. -/
def renamedAtom : List (String × Json) :=
  [("name", .array []), ("name", .string "x"), ("type", .string "atom")]

/-- The same with the payload of another kind in front. -/
def editedAtom : List (String × Json) :=
  ("value", .null) :: renamedAtom

theorem edits_plainAtom : Relation.EqvGen Edit plainAtom editedAtom := by
  have hswap : Edit plainAtom
      [("name", .string "x"), ("type", .string "atom")] :=
    .swap [] [] _ _ (by decide)
  have hearlier : Edit [("name", .string "x"), ("type", .string "atom")]
      renamedAtom :=
    @Edit.insertEarlier [] _ "name" (.array []) (by decide)
  have htag : HasTag renamedAtom .atom := rfl
  have hother : ¬ IsDecisive renamedAtom "value" := by
    rw [isDecisive_iff htag]
    decide
  have hvalue : Edit renamedAtom editedAtom :=
    @Edit.insertOther [] renamedAtom "value" .null hother
  exact .trans _ _ _ (.rel _ _ hswap)
    (.trans _ _ _ (.rel _ _ hearlier) (.rel _ _ hvalue))

/-! ## Values and texts -/

/-- An integer that is a machine word in a value and none in a text. -/
def Dialect.IsWide (dialect : Dialect) (value : Int) : Prop :=
  dialect.shortWords = true ∧ isWord value = true ∧ isShort value = false

/-- The object is a truth value that is given by such an integer. -/
def HasWideTruth (dialect : Dialect) (members : List (String × Json)) : Prop :=
  HasTag members .bool ∧ ∃ value, dialect.IsWide value ∧
    lastValue? members "value" = some (.integer value)

theorem isWord_of_isShort {value : Int} (hshort : isShort value = true) :
    isWord value = true := by
  have hlimits : Nat.pow 10 18 ≤ wordLimit := by decide
  have hbelow := of_decide_eq_true hshort
  rw [isWord, Bool.and_eq_true, decide_eq_true_iff, decide_eq_true_iff]
  omega

theorem takesForWord_eq_of_not_isWide {dialect : Dialect} {value : Int}
    (hnarrow : ¬ dialect.IsWide value) :
    dialect.takesForWord .text value = dialect.takesForWord .value value := by
  rw [Dialect.takesForWord, Dialect.takesForWord]
  split_ifs with hwords
  · cases hshort : isShort value with
    | true => exact (isWord_of_isShort hshort).symm
    | false =>
      cases hword : isWord value with
      | true => exact absurd ⟨hwords, hword, hshort⟩ hnarrow
      | false => rfl
  · rfl

/-- Neither zero nor one is wide, so a wide integer names no truth value. -/
theorem truthOfInteger_of_isWide {dialect : Dialect} {value : Int}
    (hwide : dialect.IsWide value) (word : Bool) :
    truthOfInteger word value =
      .error (if word then .unreadableTruthValue else .notTruthValue) := by
  obtain ⟨-, -, hshort⟩ := hwide
  have hne {small : Int} (hsmall : isShort small = true) : value ≠ small := by
    rintro rfl
    rw [hsmall] at hshort
    contradiction
  rw [truthOfInteger, if_neg (hne rfl), if_neg (hne rfl)]
  split_ifs <;> rfl

theorem takesForWord_of_isWide {dialect : Dialect} {value : Int}
    (hwide : dialect.IsWide value) :
    dialect.takesForWord .value value = true ∧
      dialect.takesForWord .text value = false := by
  obtain ⟨hwords, hword, hshort⟩ := hwide
  rw [Dialect.takesForWord, Dialect.takesForWord, if_pos hwords]
  exact ⟨hword, hshort⟩

/-- What is said of a truth value that is given by a wide integer. -/
theorem ofJsonFrom_of_hasWideTruth {dialect : Dialect}
    {members : List (String × Json)} (hwide : HasWideTruth dialect members) :
    ofJsonFrom dialect .value (.object members) =
        .error (.payload .bool .unreadableTruthValue) ∧
      ofJsonFrom dialect .text (.object members) =
        .error (.payload .bool .notTruthValue) := by
  obtain ⟨htag, value, hvalue, hlast⟩ := hwide
  obtain ⟨hword, hno⟩ := takesForWord_of_isWide hvalue
  have hjudge (origin : Origin) :
      ofJsonFrom dialect origin (.object members) =
        judge dialect origin .bool (some (.integer value)) := by
    rw [ofJsonFrom_of_hasTag htag, Tag.field, hlast]
  rw [hjudge, hjudge, judge, judge, ofPayload, ofPayload, toTruthValue,
    toTruthValue, truthOfInteger_of_isWide hvalue,
    truthOfInteger_of_isWide hvalue, hword, hno]
  exact ⟨rfl, rfl⟩

/-- Only the integers that stand for truth values are read differently in a
text. -/
theorem ofPayload_text_eq {dialect : Dialect} {payload : Json} {tag : Tag}
    (hnarrow : tag = .bool →
      ∀ value, payload = .integer value → ¬ dialect.IsWide value) :
    ofPayload dialect .text payload tag =
      ofPayload dialect .value payload tag := by
  cases tag with
  | bool =>
    cases payload with
    | integer value =>
      rw [ofPayload, ofPayload, toTruthValue, toTruthValue,
        takesForWord_eq_of_not_isWide (hnarrow rfl value rfl)]
    | _ => rfl
  | _ => rfl

/-- An object denotes the same as it is and in a text, unless it is a truth
value that is given by a wide integer. -/
theorem ofJsonFrom_text_eq_iff {dialect : Dialect}
    {members : List (String × Json)} :
    ofJsonFrom dialect .text (.object members) =
        ofJsonFrom dialect .value (.object members) ↔
      ¬ HasWideTruth dialect members := by
  constructor
  · intro hsame hwide
    obtain ⟨hvalue, htext⟩ := ofJsonFrom_of_hasWideTruth hwide
    rw [hvalue, htext] at hsame
    cases hsame
  · intro hnarrow
    by_cases hsome : ∃ tag, HasTag members tag
    · obtain ⟨tag, htag⟩ := hsome
      rw [ofJsonFrom_of_hasTag htag, ofJsonFrom_of_hasTag htag]
      cases hlast : lastValue? members tag.field with
      | none => rfl
      | some payload =>
        rw [judge, judge, ofPayload_text_eq]
        rintro rfl value rfl hwide
        exact hnarrow ⟨htag, value, hwide, hlast⟩
    · have hno := not_exists.1 hsome
      rw [ofJsonFrom_of_no_tag hno, ofJsonFrom_of_no_tag hno]

/-! ## Texts of objects -/

/-- A text of an object that keeps to the limits on texts. -/
structure IsTextOf (dialect : Dialect) (text : String)
    (members : List (String × Json)) : Prop where
  parses : parse? {} text = some (.object members)
  keeps : KeepsTo dialect.limits text (.object members)

section Texts

variable {dialect : Dialect} {text : String} {members : List (String × Json)}

theorem IsTextOf.ofJsonText_eq (htext : IsTextOf dialect text members) :
    ofJsonText dialect text = ofJsonFrom dialect .text (.object members) := by
  have hparse : parse? dialect.limits text = some (.object members) :=
    parse?_limits_iff.2 ⟨htext.parses, htext.keeps⟩
  rw [ofJsonText, hparse]

/-- Beyond the limits no text denotes anything. -/
theorem ofJsonText_of_not_keepsTo {value : Json}
    (hparse : parse? {} text = some value)
    (hbeyond : ¬ KeepsTo dialect.limits text value) :
    ofJsonText dialect text = .error .malformedText := by
  rw [ofJsonText]
  cases hlimited : parse? dialect.limits text with
  | none => rfl
  | some found =>
    obtain ⟨hfound, hkeeps⟩ := parse?_limits_iff.1 hlimited
    rw [hparse] at hfound
    obtain rfl := Option.some.inj hfound
    contradiction

end Texts

/-- The deciding members settle what a text of an object denotes. -/
structure IsSettled (dialect : Dialect) (text : String)
    (members : List (String × Json)) : Prop where
  agree : ∀ other others, IsTextOf dialect other others →
    Agree members others → ofJsonText dialect text = ofJsonText dialect other
  edits : ∀ other others, IsTextOf dialect other others →
    Relation.EqvGen Edit members others →
      ofJsonText dialect text = ofJsonText dialect other
  /-- Whatever comes of edits has a text. -/
  edits_text : ∀ others, Relation.EqvGen Edit members others →
    parse? {} (Json.object others).text = some (.object others)
  /-- The datum is of the kind that the object names, with the payload that it
  has for this kind. -/
  ok_iff : ∀ datum, ofJsonText dialect text = .ok datum ↔
    HasTag members datum.tag ∧ ∃ payload,
      lastValue? members datum.tag.field = some payload ∧
        ofPayload dialect .text payload datum.tag = .ok datum
  atom_iff : ∀ name, ofJsonText dialect text = .ok (.atom name) ↔
    HasTag members .atom ∧ lastValue? members "name" = some (.string name)
  string_iff : ∀ contents, ofJsonText dialect text = .ok (.string contents) ↔
    HasTag members .string ∧
      lastValue? members "contents" = some (.string contents)
  located : ∀ defect, ofJsonText dialect text = .error defect →
    IsLocated members defect
  /-- The object itself denotes the same, in any order of its members, unless it
  is a truth value that is given by a wide integer. -/
  value_iff : ∀ value, Alike (.object members) value →
    (ofJsonText dialect text = ofJson dialect value ↔
      ¬ HasWideTruth dialect members)
  /-- Of such a truth value a text says that it is none, the object that it
  cannot be read. -/
  wide : HasWideTruth dialect members →
    ofJsonText dialect text = .error (.payload .bool .notTruthValue) ∧
      ∀ value, Alike (.object members) value →
        ofJson dialect value = .error (.payload .bool .unreadableTruthValue)

theorem IsTextOf.isSettled {dialect : Dialect} {text : String}
    {members : List (String × Json)} (htext : IsTextOf dialect text members) :
    IsSettled dialect text members where
  agree := by
    intro other others hother hagree
    rw [htext.ofJsonText_eq, hother.ofJsonText_eq,
      hagree.ofJsonFrom_eq dialect .text]
  edits := by
    intro other others hother hedits
    rw [htext.ofJsonText_eq, hother.ofJsonText_eq,
      ofJsonFrom_eq_of_edits dialect .text hedits]
  edits_text := by
    intro others _
    exact parse?_text_unlimited _
  ok_iff := by
    intro datum
    rw [htext.ofJsonText_eq, ofJsonFrom_object_eq_ok_iff]
  atom_iff := by
    intro name
    rw [htext.ofJsonText_eq, ofJsonFrom_object_eq_ok_iff]
    simp only [Datum.tag, Tag.field, ofPayload_text_iff.1, exists_eq_right]
  string_iff := by
    intro contents
    rw [htext.ofJsonText_eq, ofJsonFrom_object_eq_ok_iff]
    simp only [Datum.tag, Tag.field, ofPayload_text_iff.2, exists_eq_right]
  located := by
    intro defect herror
    rw [htext.ofJsonText_eq] at herror
    exact isLocated_of_error herror
  value_iff := by
    intro value halike
    rw [htext.ofJsonText_eq, ofJson,
      ← ofJsonFrom_eq_of_alike dialect .value halike]
    exact ofJsonFrom_text_eq_iff
  wide := by
    intro hwide
    obtain ⟨hvalue, htextual⟩ := ofJsonFrom_of_hasWideTruth hwide
    rw [htext.ofJsonText_eq]
    refine ⟨htextual, ?_⟩
    intro value halike
    rw [ofJson, ← ofJsonFrom_eq_of_alike dialect .value halike]
    exact hvalue

/-- Within the limits the deciding members settle what a text of an object
denotes, whatever else is in the text; beyond them the text is malformed. -/
theorem ofJsonText_isSettled {dialect : Dialect} {text : String}
    {members : List (String × Json)}
    (hparse : parse? {} text = some (.object members)) :
    (KeepsTo dialect.limits text (.object members) →
      IsSettled dialect text members) ∧
    (¬ KeepsTo dialect.limits text (.object members) →
      ofJsonText dialect text = .error .malformedText) :=
  ⟨fun hkeeps => IsTextOf.isSettled ⟨hparse, hkeeps⟩,
    ofJsonText_of_not_keepsTo hparse⟩

/-- Neither a payload of another kind nor an earlier one of its own kind nor
another order of its members keeps the object from denoting the atom `x`. -/
theorem ofJsonText_isSettled_atom :
    ofJsonText {} (Json.object plainAtom).text = .ok (.atom "x") ∧
      ofJsonText {} (Json.object plainAtom).text =
        ofJsonText {} (Json.object editedAtom).text := by
  have hplain : KeepsTo ({} : Dialect).limits (Json.object plainAtom).text
      (.object plainAtom) := keepsTo_text_iff.2 ⟨by decide, by decide⟩
  have hedited : IsTextOf {} (Json.object editedAtom).text editedAtom :=
    ⟨parse?_text_unlimited _, keepsTo_text_iff.2 ⟨by decide, by decide⟩⟩
  have hsettled := (ofJsonText_isSettled (parse?_text_unlimited _)).1 hplain
  exact ⟨(hsettled.atom_iff "x").2 ⟨rfl, rfl⟩,
    hsettled.edits _ _ hedited edits_plainAtom⟩

/-! ## Beyond the limits -/

/-- The number one inside so many arrays. -/
def nestedArrays : Nat → Json
  | 0 => .integer 1
  | depth + 1 => .array [nestedArrays depth]

theorem nesting_nestedArrays (depth : Nat) :
    (nestedArrays depth).nesting = depth := by
  induction depth with
  | zero => rfl
  | succ depth hind =>
    rw [nestedArrays, nesting, itemsNesting, itemsNesting, hind]
    exact max_eq_left (Nat.zero_le _)

theorem all_tokens_nestedArrays (limits : Limits) (depth : Nat) :
    (nestedArrays depth).tokens.all limits.allowsToken =
      limits.allowsToken (.scalar (.integer 1)) := by
  induction depth with
  | zero => exact Bool.and_true _
  | succ depth hind =>
    rw [nestedArrays, Json.tokens, List.all_cons, List.all_append, hind]
    exact Bool.and_true _

theorem keepsTo_nestedArrays {depth : Nat} (hdepth : depth ≤ 200) :
    KeepsTo ({} : Dialect).limits (nestedArrays depth).text
      (nestedArrays depth) := by
  rw [keepsTo_text_iff, all_tokens_nestedArrays, nesting_nestedArrays]
  exact ⟨by decide, decide_eq_true hdepth⟩

/-- The atom `x` as an object, with a member of no account. -/
def atomBeside (value : Json) : List (String × Json) :=
  plainAtom ++ [("z", value)]

theorem edit_plainAtom (value : Json) :
    Edit plainAtom (atomBeside value) := by
  have htag : HasTag (plainAtom ++ []) .atom := rfl
  have hother : ¬ IsDecisive (plainAtom ++ []) "z" := by
    rw [isDecisive_iff htag]
    decide
  exact .insertOther value hother

/-- Beside this value the atom `x` is still denoted by the object, and no longer
by its text. -/
structure IsSpoiltBy (dialect : Dialect) (value : Json) : Prop where
  edit : Edit plainAtom (atomBeside value)
  plain : ofJsonText dialect (Json.object plainAtom).text = .ok (.atom "x")
  object : ofJson dialect (.object (atomBeside value)) = .ok (.atom "x")
  parses : parse? {} (Json.object (atomBeside value)).text =
    some (.object (atomBeside value))
  malformed : ofJsonText dialect (Json.object (atomBeside value)).text =
    .error .malformedText

theorem isSpoiltBy_of_not_keepsTo {dialect : Dialect} {value : Json}
    (hbeyond : ¬ KeepsTo dialect.limits (Json.object (atomBeside value)).text
      (.object (atomBeside value))) : IsSpoiltBy dialect value := by
  have hedit := edit_plainAtom value
  have hplain (origin : Origin) :
      ofJsonFrom dialect origin (.object plainAtom) = .ok (.atom "x") := rfl
  have htext : IsTextOf dialect (Json.object plainAtom).text plainAtom :=
    ⟨parse?_text_unlimited _, keepsTo_text_iff.2 ⟨rfl, rfl⟩⟩
  refine ⟨hedit, ?_, ?_, parse?_text_unlimited _, ?_⟩
  · rw [htext.ofJsonText_eq, hplain]
  · rw [ofJson, ← ofJsonFrom_eq_of_edits dialect .value (.rel _ _ hedit)]
    exact hplain .value
  · exact ofJsonText_of_not_keepsTo (parse?_text_unlimited _) hbeyond

theorem isSpoiltBy_nestedArrays (dialect : Dialect) {depth : Nat}
    (hdepth : 200 ≤ depth) : IsSpoiltBy dialect (nestedArrays depth) := by
  apply isSpoiltBy_of_not_keepsTo
  intro hkeeps
  have hallowed := of_decide_eq_true hkeeps.depth
  simp only [atomBeside, plainAtom, List.cons_append, List.nil_append, nesting,
    membersNesting, nesting_nestedArrays] at hallowed
  omega

theorem isSpoiltBy_integer {dialect : Dialect} {value : Int}
    (hlong : IsOverlong dialect (.number value)) :
    IsSpoiltBy dialect (.integer value) := by
  apply isSpoiltBy_of_not_keepsTo
  rw [keepsTo_text_iff]
  rintro ⟨hdigits, -⟩
  have hmem : Token.scalar (.integer value) ∈
      (Json.object (atomBeside (.integer value))).tokens := by
    simp [atomBeside, plainAtom, Json.tokens, tokensOfMembers]
  have hallowed := List.all_eq_true.1 hdigits _ hmem
  exact (fitsDigits_limits_iff dialect (.number value)).1 hallowed hlong

/-- A truth value that is given by the least integer of 19 digits. -/
def wideTruth : List (String × Json) :=
  [("type", .string "bool"), ("value", .integer (Nat.pow 10 18))]

/-- A member of no account makes a text malformed if it is nested too deeply in
the object, though its value alone has a text that is not, or if it has too many
digits.  And there are readers for which the text of a truth value does not say
what the truth value itself says. -/
theorem ofJsonText_atomBeside :
    KeepsTo ({} : Dialect).limits (nestedArrays 200).text (nestedArrays 200) ∧
    IsSpoiltBy {} (nestedArrays 200) ∧
    IsSpoiltBy {} (.integer (10 ^ 4300)) ∧
    IsSpoiltBy { countsSign := true } (.integer (-10 ^ 4299)) ∧
    ofJsonText { shortWords := true } (Json.object wideTruth).text ≠
      ofJson { shortWords := true } (.object wideTruth) := by
  have htext : IsTextOf { shortWords := true } (Json.object wideTruth).text
      wideTruth := ⟨parse?_text_unlimited _, keepsTo_text_iff.2 ⟨rfl, rfl⟩⟩
  have hwide : HasWideTruth { shortWords := true } wideTruth :=
    ⟨rfl, _, ⟨rfl, rfl, rfl⟩, rfl⟩
  refine ⟨keepsTo_nestedArrays (le_refl 200),
    isSpoiltBy_nestedArrays {} (le_refl 200),
    isSpoiltBy_integer isOverlong_power,
    isSpoiltBy_integer isOverlong_neg_power, ?_⟩
  intro hsame
  exact (htext.isSettled.value_iff _ (.refl _)).1 hsame hwide

end LispDatum.Datum
