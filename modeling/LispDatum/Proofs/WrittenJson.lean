import LispDatum.Proofs.JsonText
import LispDatum.Proofs.TextLimits

/-!
# JSON values as texts

Every JSON value has a text that denotes it: its tokens, each with a blank
behind it.  The blank keeps a numeral from running into what follows, so the
text is taken apart token by token, and the tokens are put together part by
part.
-/

namespace LispDatum.Json

open LispDatum.Numeral
open LispDatum.Reader (StartsOutside startsOutside_cons)

/-! ## Numerals with an exponent -/

theorem readSign_of_isDigit {first : Char} (rest : List Char)
    (hdigit : first.isDigit = true) :
    readSign (first :: rest) = (1, first :: rest) := by
  rw [readSign]
  all_goals
    intro others heq
    cases heq
    contradiction

theorem readPower_decimal_append (exponent : Int) {rest : List Char}
    (hrest : StartsOutside Char.isDigit rest) :
    readPower ((decimal exponent).toList ++ rest) = some (exponent, rest) := by
  have hread : readDigits (decimalDigits exponent.natAbs ++ rest) =
      some (decimalDigits exponent.natAbs, rest) :=
    readDigits_append (decimalDigits_ne_nil _) (isDigit_of_mem_decimalDigits _)
      hrest
  by_cases hsign : exponent < 0
  · have hvalue : -1 * (exponent.natAbs : Int) = exponent := by omega
    rw [decimal, if_pos hsign, String.toList_ofList, List.cons_append,
      readPower, readSign, hread, Option.map_some, naturalOf_decimalDigits,
      hvalue]
  · have hvalue : 1 * (exponent.natAbs : Int) = exponent := by omega
    obtain ⟨first, others, hdigits, hfirst⟩ :=
      exists_decimalDigits_eq exponent.natAbs
    have hsigned : readSign (decimalDigits exponent.natAbs ++ rest) =
        (1, decimalDigits exponent.natAbs ++ rest) := by
      rw [hdigits, List.cons_append, readSign_of_isDigit _ hfirst]
    rw [decimal, if_neg hsign, String.toList_ofList, readPower, hsigned,
      hread, Option.map_some, naturalOf_decimalDigits, hvalue]

theorem tokens?_real_append (limits : Limits) (mantissa exponent : Int)
    {rest : List Char} (hrest : StartsOutside Char.isDigit rest) :
    tokens? limits ((decimal mantissa).toList ++
        'e' :: ((decimal exponent).toList ++ rest)) =
      if limits.allowsDigits (mantissa < 0)
          (decimalDigits mantissa.natAbs).length then
        (tokens? limits rest).map (.scalar (.real mantissa exponent) :: ·)
      else none := by
  have hdigit : StartsOutside Char.isDigit
      ('e' :: ((decimal exponent).toList ++ rest)) :=
    startsOutside_cons.2 (by decide)
  have hpoint : StartsOutside (· == '.')
      ('e' :: ((decimal exponent).toList ++ rest)) :=
    startsOutside_cons.2 (by decide)
  have hexponent :
      readExponent ('e' :: ((decimal exponent).toList ++ rest)) =
        some (some exponent, rest) := by
    rw [readExponent, readPower_decimal_append exponent hrest, Option.map_some]
  obtain ⟨sign, hvalue, hsign, hread⟩ :=
    exists_readNumeral_decimal_eq limits mantissa
  have hreal : Magnitude.value
      ⟨decimalDigits mantissa.natAbs, [], some exponent⟩ sign =
        .real mantissa exponent := by
    simpa [Magnitude.value, naturalOf_decimalDigits] using hvalue
  have hnegative : decide (sign < 0) = decide (mantissa < 0) :=
    decide_eq_decide.2 hsign
  rw [tokens?_decimal_eq, hread, readSigned_append_of_readExponent limits sign
    mantissa.natAbs hdigit hpoint hexponent, hreal, hnegative]
  split_ifs <;> rfl

/-! ## Tokens as text -/

/-- A value without parts that is no string, as text. -/
def scalarChars : Json → List Char
  | .null => "null".toList
  | .bool value => if value then "true".toList else "false".toList
  | .integer value => (decimal value).toList
  | .real mantissa exponent =>
    (decimal mantissa).toList ++ 'e' :: (decimal exponent).toList
  | .nonFinite => "NaN".toList
  | _ => []

def Token.chars : Token → List Char
  | .openObject => ['\x7b']
  | .closeObject => ['\x7d']
  | .openArray => ['[']
  | .closeArray => [']']
  | .colon => [':']
  | .comma => [',']
  | .string contents => (stringText contents).toList
  | .scalar value => scalarChars value

/-- The limits allow the digits of a numeral that is written as a token. -/
def Limits.allowsToken (limits : Limits) : Token → Bool
  | .scalar (.integer value) | .scalar (.real value _) =>
    limits.allowsDigits (value < 0) (decimalDigits value.natAbs).length
  | _ => true

/-- A token that stands for a value without being a string stands for one that
has no parts and is no string. -/
def Token.IsProper : Token → Prop
  | .scalar (.string _) | .scalar (.array _) | .scalar (.object _) => False
  | _ => True

theorem Token.IsProper.isFlat {token : Token} (hproper : token.IsProper) :
    token.IsFlat := by
  cases token with
  | scalar value =>
    cases value with
    | array items => exact hproper.elim
    | object members => exact hproper.elim
    | _ => rfl
  | _ => trivial

theorem endsNumeral_blank (rest : List Char) : EndsNumeral (' ' :: rest) where
  digit := startsOutside_cons.2 (by decide)
  point := startsOutside_cons.2 (by decide)
  exponent := startsOutside_cons.2 (by decide)

theorem tokens?_scalarChars_append (limits : Limits) {value : Json}
    (hproper : (Token.scalar value).IsProper) (rest : List Char) :
    tokens? limits (scalarChars value ++ ' ' :: rest) =
      if limits.allowsToken (.scalar value) then
        (tokens? limits (' ' :: rest)).map (.scalar value :: ·)
      else none := by
  cases value with
  | null => exact tokens?_cons limits _ rfl
  | bool value =>
    cases value with
    | false => exact tokens?_false limits _
    | true => exact tokens?_true limits _
  | integer value =>
    exact tokens?_decimal_append limits value (endsNumeral_blank _)
  | real mantissa exponent =>
    have hrest : StartsOutside Char.isDigit (' ' :: rest) :=
      startsOutside_cons.2 (by decide)
    rw [scalarChars, List.append_assoc, List.cons_append]
    exact tokens?_real_append limits mantissa exponent hrest
  | nonFinite => exact tokens?_cons limits _ rfl
  | string contents => exact hproper.elim
  | array items => exact hproper.elim
  | object members => exact hproper.elim

theorem tokens?_chars_append (limits : Limits) {token : Token}
    (hproper : token.IsProper) (rest : List Char) :
    tokens? limits (token.chars ++ ' ' :: rest) =
      if limits.allowsToken token then
        (tokens? limits rest).map (token :: ·)
      else none := by
  have hblank : isBlank ' ' = true := rfl
  rw [← tokens?_blank limits rest hblank]
  cases token with
  | string contents => exact tokens?_stringText_append limits _ contents
  | scalar value => exact tokens?_scalarChars_append limits hproper rest
  | _ => exact tokens?_cons limits _ rfl

/-- Tokens as a text, with a blank behind each. -/
def spaced (tokens : List Token) : List Char :=
  tokens.flatMap fun token => token.chars ++ [' ']

/-- A text of tokens is taken apart into the same tokens, unless one of them is
too long. -/
theorem tokens?_spaced (limits : Limits) {tokens : List Token}
    (hproper : ∀ token ∈ tokens, token.IsProper) :
    tokens? limits (spaced tokens) =
      if tokens.all limits.allowsToken then some tokens else none := by
  induction tokens with
  | nil => rw [spaced, List.flatMap_nil, tokens?, List.all_nil, if_pos rfl]
  | cons token tokens hind =>
    obtain ⟨htoken, hothers⟩ := List.forall_mem_cons.1 hproper
    have hrest := hind hothers
    rw [spaced] at hrest
    rw [spaced, List.flatMap_cons, List.append_assoc, List.singleton_append,
      tokens?_chars_append limits htoken, hrest, List.all_cons]
    cases limits.allowsToken token with
    | false => rfl
    | true => cases tokens.all limits.allowsToken <;> rfl

/-! ## Values as tokens -/

mutual

/-- The tokens of a value. -/
def tokens : Json → List Token
  | .string contents => [.string contents]
  | .array [] => [.openArray, .closeArray]
  | .array (item :: items) =>
    .openArray :: (tokens item ++ tokensOfItems items)
  | .object [] => [.openObject, .closeObject]
  | .object ((key, value) :: members) =>
    .openObject :: .string key :: .colon ::
      (tokens value ++ tokensOfMembers members)
  | value => [.scalar value]

/-- The tokens behind an item of an array, up to its end. -/
def tokensOfItems : List Json → List Token
  | [] => [.closeArray]
  | item :: items => .comma :: (tokens item ++ tokensOfItems items)

/-- The tokens behind a member of an object, up to its end. -/
def tokensOfMembers : List (String × Json) → List Token
  | [] => [.closeObject]
  | (key, value) :: members =>
    .comma :: .string key :: .colon ::
      (tokens value ++ tokensOfMembers members)

end

mutual

theorem isProper_of_mem_tokens :
    ∀ value : Json, ∀ token ∈ value.tokens, token.IsProper
  | .null | .bool _ | .integer _ | .real _ _ | .nonFinite | .string _ => by
    simp [tokens, Token.IsProper]
  | .array [] | .object [] => by simp [tokens, Token.IsProper]
  | .array (item :: items) => by
    simp only [tokens, List.forall_mem_cons, List.forall_mem_append]
    exact ⟨trivial, isProper_of_mem_tokens item,
      isProper_of_mem_tokensOfItems items⟩
  | .object ((key, value) :: members) => by
    simp only [tokens, List.forall_mem_cons, List.forall_mem_append]
    exact ⟨trivial, trivial, trivial, isProper_of_mem_tokens value,
      isProper_of_mem_tokensOfMembers members⟩

theorem isProper_of_mem_tokensOfItems :
    ∀ items : List Json, ∀ token ∈ tokensOfItems items, token.IsProper
  | [] => by simp [tokensOfItems, Token.IsProper]
  | item :: items => by
    simp only [tokensOfItems, List.forall_mem_cons, List.forall_mem_append]
    exact ⟨trivial, isProper_of_mem_tokens item,
      isProper_of_mem_tokensOfItems items⟩

theorem isProper_of_mem_tokensOfMembers :
    ∀ members : List (String × Json), ∀ token ∈ tokensOfMembers members,
      token.IsProper
  | [] => by simp [tokensOfMembers, Token.IsProper]
  | (key, value) :: members => by
    simp only [tokensOfMembers, List.forall_mem_cons, List.forall_mem_append]
    exact ⟨trivial, trivial, trivial, isProper_of_mem_tokens value,
      isProper_of_mem_tokensOfMembers members⟩

end

/-- An array that was just opened does not end with the tokens of a value. -/
theorem foldlM_take_itemOrEnd (value : Json) (frames : List Frame) :
    value.tokens.foldlM (Stage.take {}) (.itemOrEnd frames) =
      value.tokens.foldlM (Stage.take {})
        (.valueDue (.array [] :: frames)) := by
  have hfirst : ∃ first others,
      value.tokens = first :: others ∧ first ≠ .closeArray := by
    cases value with
    | array items => cases items <;> exact ⟨_, _, rfl, nofun⟩
    | object members => cases members <;> exact ⟨_, _, rfl, nofun⟩
    | _ => exact ⟨_, _, rfl, nofun⟩
  obtain ⟨first, others, htokens, hclose⟩ := hfirst
  rw [htokens, List.foldlM_cons, List.foldlM_cons, take_itemOrEnd {} frames
    hclose]
  rfl

/-- The key of a first member and the colon behind it. -/
theorem foldlM_take_firstKey (key : String) (tokens : List Token)
    (frames : List Frame) :
    (.openObject :: .string key :: .colon :: tokens).foldlM (Stage.take {})
        (.valueDue frames) =
      tokens.foldlM (Stage.take {}) (.valueDue (.member [] key :: frames)) :=
  rfl

/-- The key of a further member, with the comma and the colon around it. -/
theorem foldlM_take_nextKey (key : String) (tokens : List Token)
    (members : List (String × Json)) (frames : List Frame) :
    (.comma :: .string key :: .colon :: tokens).foldlM (Stage.take {})
        (.afterMember members frames) =
      tokens.foldlM (Stage.take {})
        (.valueDue (.member members key :: frames)) :=
  rfl

mutual

/-- The tokens of a value are put together to this value. -/
theorem foldlM_take_tokens : ∀ (value : Json) (frames : List Frame),
    value.tokens.foldlM (Stage.take {}) (.valueDue frames) =
      some (Stage.close value frames)
  | .null, _ | .bool _, _ | .integer _, _ | .real _ _, _ | .nonFinite, _
  | .string _, _ => rfl
  | .array [], _ | .object [], _ => rfl
  | .array (item :: items), frames => by
    have hopen : Stage.take {} (.valueDue frames) .openArray =
        some (.itemOrEnd frames) := rfl
    rw [tokens, List.foldlM_cons, hopen, Option.bind_eq_bind, Option.bind_some,
      List.foldlM_append, foldlM_take_itemOrEnd, foldlM_take_tokens item]
    exact foldlM_take_tokensOfItems items [item] frames
  | .object ((key, value) :: members), frames => by
    rw [tokens, foldlM_take_firstKey, List.foldlM_append,
      foldlM_take_tokens value]
    exact foldlM_take_tokensOfMembers members [(key, value)] frames

theorem foldlM_take_tokensOfItems :
    ∀ (items taken : List Json) (frames : List Frame),
      (tokensOfItems items).foldlM (Stage.take {}) (.afterItem taken frames) =
        some (Stage.close (.array (taken.reverse ++ items)) frames)
  | [], taken, frames => by
    rw [List.append_nil]
    rfl
  | item :: items, taken, frames => by
    have hcomma : Stage.take {} (.afterItem taken frames) .comma =
        some (.valueDue (.array taken :: frames)) := rfl
    have hrest := foldlM_take_tokensOfItems items (item :: taken) frames
    rw [List.reverse_cons, List.append_assoc, List.singleton_append] at hrest
    rw [tokensOfItems, List.foldlM_cons, hcomma, Option.bind_eq_bind,
      Option.bind_some, List.foldlM_append, foldlM_take_tokens item]
    exact hrest

theorem foldlM_take_tokensOfMembers :
    ∀ (members taken : List (String × Json)) (frames : List Frame),
      (tokensOfMembers members).foldlM (Stage.take {})
          (.afterMember taken frames) =
        some (Stage.close (.object (taken.reverse ++ members)) frames)
  | [], taken, frames => by
    rw [List.append_nil]
    rfl
  | (key, value) :: members, taken, frames => by
    have hrest :=
      foldlM_take_tokensOfMembers members ((key, value) :: taken) frames
    rw [List.reverse_cons, List.append_assoc, List.singleton_append] at hrest
    rw [tokensOfMembers, foldlM_take_nextKey, List.foldlM_append,
      foldlM_take_tokens value]
    exact hrest

end

/-! ## Values as text -/

/-- A text of a value. -/
def text (value : Json) : String :=
  String.ofList (spaced value.tokens)

/-- The tokens of a value form it, unless it is nested too deeply. -/
theorem ofTokens?_tokens_iff {limits : Limits} {value : Json} :
    ofTokens? limits value.tokens = some value ↔
      limits.allowsDepth value.nesting = true := by
  have hflat (token : Token) (hmem : token ∈ value.tokens) : token.IsFlat :=
    (isProper_of_mem_tokens value token hmem).isFlat
  have hunlimited : ofTokens? {} value.tokens = some value := by
    rw [ofTokens?_eq_some_iff, foldlM_take_tokens]
    rfl
  rw [ofTokens?_limits_iff hflat]
  exact and_iff_right hunlimited

/-- A value is read back from its text exactly if its numerals are not too long
and it is not nested too deeply. -/
theorem parse?_text_iff {limits : Limits} {value : Json} :
    parse? limits value.text = some value ↔
      value.tokens.all limits.allowsToken = true ∧
        limits.allowsDepth value.nesting = true := by
  rw [parse?, text, String.toList_ofList,
    tokens?_spaced limits (isProper_of_mem_tokens value)]
  by_cases hallowed : value.tokens.all limits.allowsToken = true
  · rw [if_pos hallowed, and_iff_right hallowed]
    exact ofTokens?_tokens_iff
  · rw [if_neg hallowed, Option.bind_eq_bind, Option.bind_none]
    constructor
    · intro hread
      contradiction
    · intro hboth
      exact absurd hboth.1 hallowed

theorem Limits.allowsToken_unlimited (token : Token) :
    ({} : Limits).allowsToken token = true := by
  unfold Limits.allowsToken
  split <;> rfl

/-- Every value has a text. -/
theorem parse?_text_unlimited (value : Json) :
    parse? {} value.text = some value :=
  parse?_text_iff.2 ⟨List.all_eq_true.2 fun token _ =>
    Limits.allowsToken_unlimited token, rfl⟩

theorem keepsTo_text_iff {limits : Limits} {value : Json} :
    KeepsTo limits value.text value ↔
      value.tokens.all limits.allowsToken = true ∧
        limits.allowsDepth value.nesting = true := by
  rw [← parse?_text_iff, parse?_limits_iff]
  exact (and_iff_right (parse?_text_unlimited value)).symm

end LispDatum.Json
