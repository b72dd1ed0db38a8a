import LispDatum.Proofs.Grammar
import LispDatum.Reader.Spelling

/-!
# The data that can be read

Not every datum is what some text reads as: integers are read without a sign,
and an identifier cannot have the name of a truth value or look like a numeral.
No other datum is missing, because the canonical spelling of each one is read
back in full.
-/

namespace LispDatum.Reader

open LispDatum.Numeral

/-- The names that identifiers can have. -/
structure IsName (name : List Char) : Prop where
  initial : ∃ first ∈ name.head?, isInitial first = true
  constituent : ∀ char ∈ name.tail, isConstituent char = true
  ne_truth : name ≠ ['#', 't']
  ne_falsity : name ≠ ['#', 'f']
  not_radixLike : ¬ RadixLike name

/-- The data that can be read. -/
def IsReadable : Datum → Prop
  | .atom name => IsName name.toList
  | .bool _ => True
  | .string _ => True
  | .number value => 0 ≤ value

theorem Reads.isReadable {text : List Char} {datum : Datum} {length : Nat}
    (hreads : Reads text (.accepted datum length)) : IsReadable datum := by
  cases hreads with
  | identifier first others rest datum hfirst hothers hrest hradix hdatum =>
    cases hdatum with
    | truth => trivial
    | falsity => trivial
    | atom _ htruth hfalsity =>
      rw [IsReadable, String.toList_ofList]
      exact ⟨⟨first, rfl, hfirst⟩, hothers, htruth, hfalsity, hradix⟩
  | string items rest => trivial
  | decimalNumeral first others rest hdigits hrest =>
    exact positional_nonneg 10 (first :: others)
  | radixNumeral radix first others rest hdigits hrest =>
    exact positional_nonneg radix.base (first :: others)

/-! ## Spellings of strings -/

namespace Item

/-- The item that a character is best written as. -/
def ofChar (char : Char) : Item :=
  if hquote : char = '"' then .escaped .quote
  else if hbackslash : char = '\\' then .escaped .backslash
  else if char = '\n' then .escaped .lineFeed
  else if char = '\r' then .escaped .carriageReturn
  else if char = '\t' then .escaped .tab
  else .raw char hquote hbackslash

theorem value_ofChar (char : Char) : (ofChar char).value = char := by
  rw [ofChar]
  split_ifs <;> simp [value, Escape.value, *]

theorem chars_ofChar (char : Char) : (ofChar char).chars = spellChar char := by
  rw [ofChar, spellChar]
  split_ifs <;> simp_all [chars, Escape.letter]

theorem map_value_ofChar (contents : List Char) :
    (contents.map ofChar).map value = contents := by
  induction contents with
  | nil => rfl
  | cons char contents hind => simp [value_ofChar, hind]

theorem spell_map_ofChar (contents : List Char) :
    spell (contents.map ofChar) = contents.flatMap spellChar := by
  induction contents with
  | nil => rfl
  | cons char contents hind =>
    rw [List.map_cons, spell_cons, hind, chars_ofChar, List.flatMap_cons]

end Item

/-! ## Spellings of numbers -/

theorem isDigit_of_mem_decimalDigits {value : Nat} {char : Char}
    (hmem : char ∈ decimalDigits value) : isDigit char = true := by
  have hdigits : ∀ digit : Fin 10, isDigit digit.val.digitChar = true := by
    decide
  obtain ⟨digit, hdigit, rfl⟩ :=
    exists_digitChar_of_mem_toDigits (by decide) hmem
  exact hdigits ⟨digit, hdigit⟩

theorem reads_decimalDigits (value : Nat) :
    Reads (decimalDigits value)
      (.accepted (.number value) (decimalDigits value).length) := by
  have hne : decimalDigits value ≠ [] := Nat.toDigits_ne_nil
  obtain ⟨first, others, hdigits⟩ := List.exists_cons_of_ne_nil hne
  have hvalue : positional 10 (first :: others) = value := by
    rw [← hdigits]
    exact positional_toDigits (by decide) (by decide) value
  have hall : ∀ char ∈ first :: others, isDigit char = true := by
    intro char hmem
    rw [← hdigits] at hmem
    exact isDigit_of_mem_decimalDigits hmem
  rw [hdigits, ← hvalue]
  exact reads_decimalNumeral hall

/-! ## Spellings of identifiers -/

theorem reads_name {first : Char} {others : List Char} {datum : Datum}
    (hfirst : isInitial first = true)
    (hothers : ∀ char ∈ others, isConstituent char = true)
    (hradix : ¬ RadixLike (first :: others))
    (hdatum : Denotes (first :: others) datum) :
    Reads (first :: others) (.accepted datum (first :: others).length) := by
  have hreads := Reads.identifier first others [] datum hfirst hothers
    (startsOutside_nil _) hradix hdatum
  rw [List.append_nil] at hreads
  exact hreads

theorem not_radixLike_of_letter {letter : Char}
    (hletter : ∀ radix : Radix, letter ≠ radix.letter) :
    ¬ RadixLike ['#', letter] := by
  generalize hname : ['#', letter] = name
  intro hlike
  cases hlike with
  | bare radix =>
    simp only [List.cons.injEq, true_and, and_true] at hname
    exact hletter radix hname
  | numeral => simp at hname
  | unknown => simp at hname

/-! ## Reading back -/

theorem reads_spelling {datum : Datum} (hreadable : IsReadable datum) :
    Reads (spelling datum) (.accepted datum (spelling datum).length) := by
  cases datum with
  | atom name =>
    obtain ⟨⟨first, hhead, hfirst⟩, hothers, htruth, hfalsity, hradix⟩ :=
      hreadable
    obtain ⟨others, hname⟩ := List.head?_eq_some_iff.1 hhead
    rw [hname] at hothers htruth hfalsity hradix
    have hdatum : Denotes (first :: others) (.atom name) := by
      have hatom := Denotes.atom _ htruth hfalsity
      rwa [← hname, String.ofList_toList, hname] at hatom
    rw [spelling, hname]
    exact reads_name hfirst hothers hradix hdatum
  | bool value =>
    cases value with
    | false =>
      exact reads_name isInitial_numberSign
        (fun char hmem => by cases List.mem_singleton.1 hmem; decide)
        (not_radixLike_of_letter fun radix => by cases radix <;> decide)
        .falsity
    | true =>
      exact reads_name isInitial_numberSign
        (fun char hmem => by cases List.mem_singleton.1 hmem; decide)
        (not_radixLike_of_letter fun radix => by cases radix <;> decide)
        .truth
  | string contents =>
    have hreads := Reads.string (contents.toList.map Item.ofChar) []
    rw [Item.map_value_ofChar, Item.spell_map_ofChar,
      String.ofList_toList] at hreads
    simpa [spelling] using hreads
  | number value =>
    obtain ⟨natural, rfl⟩ := Int.eq_ofNat_of_zero_le hreadable
    have hspelling : spelling (.number natural) = decimalDigits natural := by
      rw [spelling, decimal, if_neg (by omega), String.toList_ofList,
        Int.natAbs_natCast]
    rw [hspelling]
    exact reads_decimalDigits natural

/-- A datum can be read exactly if it is readable, and then its canonical
spelling reads as that datum up to its end. -/
theorem readInput_spelling_iff_isReadable (datum : Datum) :
    ((∃ input, (readInput input).1 = .ok datum) ↔ IsReadable datum) ∧
    ((∀ source, (readInput ⟨spelling datum, source⟩).1 = .ok datum ∧
        (readInput ⟨spelling datum, source⟩).2.position =
          (spelling datum).length) ↔ IsReadable datum) := by
  have hreadable : ∀ input, (readInput input).1 = .ok datum →
      IsReadable datum := by
    intro input hread
    obtain ⟨length, hreads, -⟩ := readInput_ok_iff.1 ⟨hread, rfl⟩
    exact hreads.isReadable
  have hback : IsReadable datum →
      ∀ source, (readInput ⟨spelling datum, source⟩).1 = .ok datum ∧
        (readInput ⟨spelling datum, source⟩).2.position =
          (spelling datum).length := by
    intro hdatum source
    exact readInput_ok_iff.2 ⟨_, reads_spelling hdatum, rfl⟩
  constructor
  · constructor
    · intro ⟨input, hread⟩
      exact hreadable input hread
    · intro hdatum
      exact ⟨_, (hback hdatum "lisp").1⟩
  · constructor
    · intro hspelling
      exact hreadable _ (hspelling "lisp").1
    · exact hback

end LispDatum.Reader
