import LispDatum.Json.Escape

/-!
# Reading JSON strings

The characters after an opening quote, up to the closing one.  A code point
above U+FFFF may be written as the escapes of two surrogates; a surrogate that
stands alone, a control character and an unknown escape are refused.
-/

namespace LispDatum.Json

def hexDigit? (char : Char) : Option Nat :=
  if '0' ≤ char ∧ char ≤ '9' then some (char.toNat - '0'.toNat)
  else if 'a' ≤ char ∧ char ≤ 'f' then some (10 + (char.toNat - 'a'.toNat))
  else if 'A' ≤ char ∧ char ≤ 'F' then some (10 + (char.toNat - 'A'.toNat))
  else none

def codeUnit? (a b c d : Char) : Option Nat := do
  let a ← hexDigit? a
  let b ← hexDigit? b
  let c ← hexDigit? c
  let d ← hexDigit? d
  return ((a * 16 + b) * 16 + c) * 16 + d

/-- The character that a backslash and a letter or mark stand for. -/
def unescape? : Char → Option Char
  | '"' => some '"'
  | '\\' => some '\\'
  | '/' => some '/'
  | 'b' => some '\x08'
  | 'f' => some '\x0c'
  | 'n' => some '\n'
  | 'r' => some '\r'
  | 't' => some '\t'
  | _ => none

def isHighSurrogate (unit : Nat) : Bool := 0xd800 ≤ unit && unit < 0xdc00

def isLowSurrogate (unit : Nat) : Bool := 0xdc00 ≤ unit && unit < 0xe000

/-- The character that a pair of surrogates stands for. -/
def joinSurrogates (high low : Nat) : Char :=
  Char.ofNat (0x10000 + (high - 0xd800) * 0x400 + (low - 0xdc00))

/-- Put a character before a string that was read. -/
def consChar (char : Char) :
    Option (List Char × List Char) → Option (List Char × List Char) :=
  Option.map fun read => (char :: read.1, read.2)

/-- The contents of a string and what follows its closing quote. -/
def readBody : List Char → Option (List Char × List Char)
  | [] => none
  | '"' :: rest => some ([], rest)
  | '\\' :: 'u' :: a :: b :: c :: d :: rest =>
    match codeUnit? a b c d with
    | none => none
    | some unit =>
      if isHighSurrogate unit then
        match rest with
        | '\\' :: 'u' :: e :: f :: g :: h :: rest =>
          match codeUnit? e f g h with
          | none => none
          | some low =>
            if isLowSurrogate low then
              consChar (joinSurrogates unit low) (readBody rest)
            else none
        | _ => none
      else if isLowSurrogate unit then none
      else consChar (Char.ofNat unit) (readBody rest)
  | '\\' :: char :: rest =>
    match unescape? char with
    | none => none
    | some decoded => consChar decoded (readBody rest)
  | char :: rest =>
    if char.toNat < 0x20 then none else consChar char (readBody rest)

theorem consChar_eq_some {char : Char} {contents after : List Char}
    {read : Option (List Char × List Char)}
    (hread : consChar char read = some (contents, after)) :
    ∃ tail, read = some (tail, after) := by
  cases read with
  | none => simp [consChar] at hread
  | some pair =>
    obtain ⟨tail, rest⟩ := pair
    simp only [consChar, Option.map_some, Option.some.injEq,
      Prod.mk.injEq] at hread
    exact ⟨tail, by rw [hread.2]⟩

theorem length_lt_of_readBody {chars contents after : List Char}
    (hread : readBody chars = some (contents, after)) :
    after.length < chars.length := by
  fun_induction readBody chars generalizing contents
  case case2 =>
    rw [← (Prod.mk.inj (Option.some.inj hread)).2]
    exact Nat.lt_succ_self _
  case case5 hind | case9 hind | case11 hind | case13 hind =>
    obtain ⟨tail, htail⟩ := consChar_eq_some hread
    have hshort := hind htail
    simp only [List.length_cons]
    omega
  all_goals exact absurd hread (by simp)

end LispDatum.Json
