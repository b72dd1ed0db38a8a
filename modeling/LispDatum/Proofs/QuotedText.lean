import LispDatum.Proofs.Positional
import LispDatum.Proofs.PrefixCode
import LispDatum.Text.Quoted

/-!
# Quoted text that is taken apart

Between its marks a quoted text shows one character after the other, and each
tells where it ends: an escape by its letter, which fixes how many digits
follow, and every other character by being one.  The closing mark starts no
shown character, because inside it follows a backslash.  So a quoted text ends
at its closing mark whatever stands behind it, and it tells which text it
quotes, although the mark is chosen by that text.
-/

namespace LispDatum.Text

open LispDatum.Numeral

/-! ## Codes of fixed width -/

theorem positional_hexCode {width code : Nat} (hcode : code < 16 ^ width) :
    positional 16 (hexCode width code) = code := by
  induction width generalizing code with
  | zero =>
    rw [Nat.pow_zero, Nat.lt_one_iff] at hcode
    rw [hexCode, hcode]
    rfl
  | succ width hind =>
    have hhigh : code / 16 < 16 ^ width := by
      rw [pow_succ'] at hcode
      exact Nat.div_lt_of_lt_mul hcode
    have hlow : code % 16 < 16 := Nat.mod_lt code (by decide)
    rw [hexCode, positional_append_singleton, hind hhigh,
      digitOf_digitChar hlow]
    exact_mod_cast Nat.div_add_mod' code 16

/-! ## One shown character -/

/-- The width of the code that follows the letter of an escape. -/
def codeWidth? : Char → Option Nat
  | 'x' => some 2
  | 'u' => some 4
  | 'U' => some 8
  | _ => none

/-- What a letter without a code stands for behind a backslash. -/
def letterValue : Char → Char
  | 'n' => '\n'
  | 'r' => '\r'
  | 't' => '\t'
  | char => char

/-- Take the character off a text that the text shows first. -/
def readShownChar : List Char → Option (Char × List Char)
  | [] => none
  | ['\\'] => none
  | '\\' :: letter :: rest =>
    match codeWidth? letter with
    | some width =>
      let code := positional 16 (rest.take width)
      some (Char.ofNat code.toNat, rest.drop width)
    | none => some (letterValue letter, rest)
  | char :: rest => some (char, rest)

theorem readShownChar_letter {letter : Char}
    (hletter : codeWidth? letter = none) (rest : List Char) :
    readShownChar ('\\' :: letter :: rest) =
      some (letterValue letter, rest) := by
  simp only [readShownChar, hletter]

theorem readShownChar_plain {char : Char} (hchar : char ≠ '\\')
    (rest : List Char) : readShownChar (char :: rest) = some (char, rest) := by
  rw [readShownChar] <;> simp [hchar]

theorem readShownChar_code {letter char : Char} {width : Nat}
    (hwidth : codeWidth? letter = some width)
    (hcode : char.toNat < 16 ^ width) (rest : List Char) :
    readShownChar ('\\' :: letter :: (hexCode width char.toNat ++ rest)) =
      some (char, rest) := by
  have hlength := length_hexCode width char.toNat
  simp only [readShownChar, hwidth, List.take_left' hlength,
    List.drop_left' hlength, positional_hexCode hcode, Int.toNat_natCast,
    Char.ofNat_toNat]

theorem readShownChar_escapeCode (char : Char) (rest : List Char) :
    readShownChar (escapeCode char.toNat ++ rest) = some (char, rest) := by
  rw [escapeCode]
  split_ifs with hbyte hunit
  · exact readShownChar_code rfl hbyte rest
  · exact readShownChar_code rfl hunit rest
  · have hcode : char.toNat < 16 ^ 8 := char.val.toNat_lt
    exact readShownChar_code rfl hcode rest

def IsQuoteMark (mark : Char) : Prop :=
  mark = '\x27' ∨ mark = '"'

theorem isQuoteMark_quoteMark (text : List Char) :
    IsQuoteMark (quoteMark text) := by
  rw [quoteMark]
  split_ifs
  · exact .inr rfl
  · exact .inl rfl

theorem readShownChar_quoteChar {mark : Char} (hmark : IsQuoteMark mark)
    (char : Char) (rest : List Char) :
    readShownChar (quoteChar mark char ++ rest) = some (char, rest) := by
  rw [quoteChar]
  split_ifs with hself hfeed hreturn htab hprintable
  · have hletter : codeWidth? char = none ∧ letterValue char = char := by
      rcases hself with rfl | rfl
      · rcases hmark with rfl | rfl <;> exact ⟨rfl, rfl⟩
      · exact ⟨rfl, rfl⟩
    have hread := readShownChar_letter hletter.1 rest
    rwa [hletter.2] at hread
  · rw [hfeed]
    exact readShownChar_letter rfl rest
  · rw [hreturn]
    exact readShownChar_letter rfl rest
  · rw [htab]
    exact readShownChar_letter rfl rest
  · rw [not_or] at hself
    exact readShownChar_plain hself.2 rest
  · exact readShownChar_escapeCode char rest

theorem isPrefixFree_quoteChar {mark : Char} (hmark : IsQuoteMark mark) :
    IsPrefixFree (quoteChar mark) :=
  isPrefixFree_of_read (readShownChar_quoteChar hmark)

/-- A shown character starts with a backslash unless it shows itself, and the
mark does not show itself. -/
theorem exists_quoteChar_eq {mark : Char} (hmark : IsQuoteMark mark)
    (char : Char) :
    ∃ head others, quoteChar mark char = head :: others ∧ head ≠ mark := by
  have hbackslash : '\\' ≠ mark := by
    rcases hmark with rfl | rfl <;> decide
  rw [quoteChar]
  split_ifs with hself
  iterate 4 · exact ⟨_, _, rfl, hbackslash⟩
  · rw [not_or] at hself
    exact ⟨char, [], rfl, hself.1⟩
  · rw [escapeCode]
    split_ifs <;> exact ⟨_, _, rfl, hbackslash⟩

theorem startsNoWord_mark {mark : Char} (hmark : IsQuoteMark mark)
    (rest : List Char) : StartsNoWord (quoteChar mark) (mark :: rest) :=
  startsNoWord_cons (exists_quoteChar_eq hmark)

/-! ## The whole text -/

/-- A quoted text ends at its closing mark, whatever follows it. -/
theorem isPrefixFree_quoteChars : IsPrefixFree quoteChars := by
  intro left right rest tail htext
  have hmark := isQuoteMark_quoteMark right
  simp only [quoteChars, List.cons_append, List.append_assoc,
    List.nil_append] at htext
  obtain ⟨hsame, hbody⟩ := List.cons.inj htext
  rw [hsame] at hbody
  obtain ⟨rfl, hclose⟩ := (isPrefixFree_quoteChar hmark).flatMap_append_inj
    (startsNoWord_mark hmark rest) (startsNoWord_mark hmark tail) hbody
  exact ⟨rfl, (List.cons.inj hclose).2⟩

theorem quoted_append_inj {left right : String} {rest tail : List Char}
    (htext : (quoted left).toList ++ rest = (quoted right).toList ++ tail) :
    left = right ∧ rest = tail := by
  rw [quoted, quoted, String.toList_ofList, String.toList_ofList] at htext
  obtain ⟨hsame, hrest⟩ := isPrefixFree_quoteChars _ _ _ _ htext
  exact ⟨String.toList_injective hsame, hrest⟩

theorem quoted_injective : Function.Injective quoted := by
  intro left right htext
  have hsame : (quoted left).toList ++ [] = (quoted right).toList ++ [] := by
    rw [htext]
  exact (quoted_append_inj hsame).1

end LispDatum.Text
