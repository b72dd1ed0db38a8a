import LispDatum.Json.Numeral
import LispDatum.Json.StringBody

/-!
# JSON tokens

A JSON text is a sequence of tokens with white space between them.  Reading a
token leaves fewer characters, so a text is consumed token by token.
-/

namespace LispDatum.Json

inductive Token where
  | openObject
  | closeObject
  | openArray
  | closeArray
  | colon
  | comma
  /-- A string, which may also be the key of a member. -/
  | string (contents : String)
  /-- Any other value that has no parts. -/
  | scalar (value : Json)

def isBlank (char : Char) : Bool :=
  char == ' ' || char == '\t' || char == '\n' || char == '\r'

/-- The words of JSON and the values that they name. -/
def words : List (List Char × Json) := [
    ("null".toList, .null), ("true".toList, .bool true),
    ("false".toList, .bool false), ("NaN".toList, .nonFinite),
    ("Infinity".toList, .nonFinite), ("-Infinity".toList, .nonFinite)]

/-- What follows a word, if the text starts with it. -/
def afterWord? : List Char → List Char → Option (List Char)
  | [], chars => some chars
  | _ :: _, [] => none
  | letter :: word, char :: chars =>
    if letter = char then afterWord? word chars else none

/-- The value of the word ahead, and what follows it. -/
def readWord (chars : List Char) : Option (Json × List Char) :=
  words.findSome? fun entry =>
    (afterWord? entry.1 chars).map fun rest => (entry.2, rest)

/-- A value without parts that is no string, and what follows it. -/
def readScalar (limits : Limits) (chars : List Char) :
    Option (Json × List Char) :=
  match readWord chars with
  | some read => some read
  | none => readNumeral limits chars

def nextToken (limits : Limits) : List Char → Option (Token × List Char)
  | '\x7b' :: rest => some (.openObject, rest)
  | '\x7d' :: rest => some (.closeObject, rest)
  | '[' :: rest => some (.openArray, rest)
  | ']' :: rest => some (.closeArray, rest)
  | ':' :: rest => some (.colon, rest)
  | ',' :: rest => some (.comma, rest)
  | '"' :: rest =>
    (readBody rest).map fun read => (.string (String.ofList read.1), read.2)
  | chars =>
    (readScalar limits chars).map fun read => (.scalar read.1, read.2)

theorem length_of_afterWord? {word chars after : List Char}
    (hafter : afterWord? word chars = some after) :
    after.length + word.length = chars.length := by
  fun_induction afterWord? word chars
  case case1 chars =>
    rw [Option.some.inj hafter]
    rfl
  case case3 hind =>
    have hlength := hind hafter
    simp only [List.length_cons]
    omega
  all_goals exact absurd hafter (by simp)

theorem length_lt_of_readWord {chars after : List Char} {value : Json}
    (hread : readWord chars = some (value, after)) :
    after.length < chars.length := by
  obtain ⟨entry, hmember, hentry⟩ := List.exists_of_findSome?_eq_some hread
  obtain ⟨rest, hafter, heq⟩ := Option.map_eq_some_iff.1 hentry
  have hlength := length_of_afterWord? hafter
  have hpos : ∀ entry ∈ words, 0 < entry.1.length := by
    simp [words]
  have hword := hpos entry hmember
  rw [← (Prod.mk.inj heq).2]
  omega

theorem length_lt_of_readScalar {limits : Limits} {chars after : List Char}
    {value : Json} (hread : readScalar limits chars = some (value, after)) :
    after.length < chars.length := by
  unfold readScalar at hread
  split at hread
  · next read hword =>
    rw [Option.some.inj hread] at hword
    exact length_lt_of_readWord hword
  · exact length_lt_of_readNumeral hread

theorem length_lt_of_nextToken {limits : Limits} {chars after : List Char}
    {token : Token} (hread : nextToken limits chars = some (token, after)) :
    after.length < chars.length := by
  unfold nextToken at hread
  split at hread
  case h_7 =>
    obtain ⟨read, hbody, heq⟩ := Option.map_eq_some_iff.1 hread
    have hshort := length_lt_of_readBody hbody
    rw [← (Prod.mk.inj heq).2]
    exact Nat.lt_succ_of_lt hshort
  case h_8 =>
    obtain ⟨read, hscalar, heq⟩ := Option.map_eq_some_iff.1 hread
    rw [← (Prod.mk.inj heq).2]
    exact length_lt_of_readScalar hscalar
  all_goals
    rw [← (Prod.mk.inj (Option.some.inj hread)).2]
    exact Nat.lt_succ_self _

/-- The tokens of a text, if it consists of tokens and white space. -/
def tokens? (limits : Limits) : List Char → Option (List Token)
  | [] => some []
  | char :: rest =>
    if isBlank char then tokens? limits rest
    else
      match _hread : nextToken limits (char :: rest) with
      | none => none
      | some (token, after) => (tokens? limits after).map (token :: ·)
termination_by chars => chars.length
decreasing_by
  · simp
  · exact length_lt_of_nextToken ‹_›

end LispDatum.Json
