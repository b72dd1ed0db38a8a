import LispDatum.Proofs.Grammar

/-!
# What is accepted

A text is accepted exactly if it begins with a datum in one of four forms.  The
forms are told apart by the longest word at the beginning of the text, although
the reader looks at three characters only; identifiers and both kinds of numerals
extend as far as they can, and strings to the first quote that no backslash
escapes.  No text begins with a datum in two forms.
-/

namespace LispDatum.Reader

open LispDatum.Numeral

/-- The longest word at the beginning of a text. -/
def word (text : List Char) : List Char :=
  text.takeWhile isConstituent

theorem startsRadixLiteral_iff_word {text : List Char} :
    startsRadixLiteral text = true ↔ RadixLike (word text) := by
  have hword := startsRadixLiteral_append_iff
    (fun char hmem => List.mem_takeWhile_imp hmem : ∀ char ∈ word text, _)
    (startsOutside_dropWhile isConstituent text)
  rwa [word, List.takeWhile_append_dropWhile] at hword

inductive Form where
  | identifier
  | string
  | radixNumeral
  | decimalNumeral
deriving DecidableEq, Repr

namespace Form

/-- The text begins in the way of this form. -/
def Opens (text : List Char) : Form → Prop
  | identifier =>
    ¬ RadixLike (word text) ∧ ∃ first ∈ text.head?, isInitial first = true
  | string => text.head? = some '"'
  | radixNumeral => RadixLike (word text)
  | decimalNumeral => ∃ first ∈ text.head?, isDigit first = true

/-- The text begins with the datum in this form, which ends at `stop`. -/
def Spells (text : List Char) (datum : Datum) (stop : Int) (form : Form) :
    Prop :=
  form.Opens text ∧
    match form with
    | identifier => Denotes (word text) datum ∧ stop = (word text).length
    | string => ∃ items rest, text = '"' :: (Item.spell items ++ '"' :: rest) ∧
        datum = .string (String.ofList (items.map Item.value)) ∧
        stop = (Item.spell items).length + 2
    | radixNumeral => ∃ (radix : Radix) (rest run : List Char),
        text = '#' :: radix.letter :: rest ∧
        run = rest.takeWhile isWordChar ∧ run ≠ [] ∧
        (∀ char ∈ run, radix.isDigit char = true) ∧
        datum = .number (positional radix.base run) ∧ stop = run.length + 2
    | decimalNumeral => ∃ run : List Char, run = text.takeWhile isDigit ∧
        datum = .number (positional 10 run) ∧ stop = run.length

/-- The only form that a text can open. -/
def opening (text : List Char) : Form :=
  if startsRadixLiteral text then radixNumeral
  else if text.head?.any isInitial then identifier
  else if text.head?.any isDigit then decimalNumeral
  else string

theorem Opens.eq_opening {text : List Char} {form : Form}
    (hopens : form.Opens text) : form = opening text := by
  cases form with
  | identifier =>
    obtain ⟨hradix, first, hfirst, hinitial⟩ := hopens
    rw [← startsRadixLiteral_iff_word] at hradix
    rw [Option.mem_def] at hfirst
    simp [opening, hradix, hfirst, hinitial]
  | string =>
    have hhead : text.head? = some '"' := hopens
    have hliteral : startsRadixLiteral text = false :=
      startsRadixLiteral_of_head?_ne (by simp [hhead])
    simp [opening, hliteral, hhead]
  | radixNumeral =>
    have hliteral := startsRadixLiteral_iff_word.2 hopens
    simp [opening, hliteral]
  | decimalNumeral =>
    obtain ⟨first, hfirst, hdigit⟩ := hopens
    rw [Option.mem_def] at hfirst
    have hsign : text.head? ≠ some '#' := by
      intro hhead
      rw [hfirst] at hhead
      cases hhead
      contradiction
    simp [opening, startsRadixLiteral_of_head?_ne hsign, hfirst,
      isInitial_of_isDigit hdigit, hdigit]

end Form

theorem Reads.exists_spells {text : List Char} {datum : Datum} {length : Nat}
    (hreads : Reads text (.accepted datum length)) :
    ∃ form : Form, form.Spells text datum length := by
  cases hreads with
  | identifier first others rest datum hfirst hothers hrest hradix hdatum =>
    have hname : ∀ char ∈ first :: others, isConstituent char = true := by
      simpa [isConstituent_of_isInitial hfirst] using hothers
    have hword : word (first :: others ++ rest) = first :: others :=
      takeWhile_append hname hrest
    refine ⟨.identifier, ⟨?_, first, rfl, hfirst⟩, ?_, ?_⟩
    · rw [hword]
      exact hradix
    · rw [hword]
      exact hdatum
    · rw [hword]
      rfl
  | string items rest =>
    exact ⟨.string, rfl, items, rest, rfl, rfl, rfl⟩
  | decimalNumeral first others rest hdigits hrest =>
    have hrun := takeWhile_append hdigits hrest
    exact ⟨.decimalNumeral, ⟨first, rfl, hdigits first (by simp)⟩,
      first :: others, hrun.symm, rfl, rfl⟩
  | radixNumeral radix first others rest hdigits hrest =>
    have hword : ∀ char ∈ first :: others, isWordChar char = true :=
      fun char hmem => Radix.isWordChar_of_isDigit (hdigits char hmem)
    have hrun := takeWhile_append hword hrest
    have hliteral : RadixLike
        (word ('#' :: radix.letter :: (first :: others ++ rest))) := by
      have hfirst := Radix.isHexDigit_of_isDigit (hdigits first (by simp))
      rw [← startsRadixLiteral_iff_word, startsRadixLiteral_iff]
      exact ⟨_, _, rfl, .inl ⟨radix, rfl, by simp [hfirst]⟩⟩
    exact ⟨.radixNumeral, hliteral, radix, _, first :: others, rfl, hrun.symm,
      by simp, hdigits, rfl, by simp; omega⟩

theorem Form.Spells.reads {text : List Char} {datum : Datum} {stop : Int}
    {form : Form} (hspells : form.Spells text datum stop) :
    ∃ length : Nat, Reads text (.accepted datum length) ∧ stop = length := by
  obtain ⟨hopens, hparts⟩ := hspells
  cases form with
  | identifier =>
    obtain ⟨hradix, first, hfirst, hinitial⟩ := hopens
    obtain ⟨hdatum, rfl⟩ := hparts
    obtain ⟨others, rfl⟩ := List.head?_eq_some_iff.1 hfirst
    obtain ⟨name, rest, rfl, hname, hrest⟩ := exists_run isConstituent others
    have hword : word (first :: (name ++ rest)) = first :: name := by
      have hall : ∀ char ∈ first :: name, isConstituent char = true := by
        simpa [isConstituent_of_isInitial hinitial] using hname
      exact takeWhile_append hall hrest
    rw [hword] at hradix hdatum ⊢
    exact ⟨_, .identifier first name rest datum hinitial hname hrest hradix
      hdatum, by simp⟩
  | string =>
    obtain ⟨items, rest, rfl, rfl, rfl⟩ := hparts
    exact ⟨_, .string items rest, by simp⟩
  | radixNumeral =>
    obtain ⟨radix, rest, run, rfl, hrun, hne, hdigits, rfl, rfl⟩ := hparts
    obtain ⟨first, others, rfl⟩ := List.exists_cons_of_ne_nil hne
    have hsplit : rest = first :: others ++ rest.dropWhile isWordChar := by
      rw [hrun, List.takeWhile_append_dropWhile]
    rw [hsplit]
    exact ⟨_, .radixNumeral radix first others _ hdigits
      (startsOutside_dropWhile isWordChar rest), by simp; omega⟩
  | decimalNumeral =>
    obtain ⟨first, hfirst, hdigit⟩ := hopens
    obtain ⟨run, rfl, rfl, rfl⟩ := hparts
    obtain ⟨others, rfl⟩ := List.head?_eq_some_iff.1 hfirst
    obtain ⟨digits, rest, rfl, hdigits, hrest⟩ := exists_run isDigit others
    have hall : ∀ char ∈ first :: digits, isDigit char = true := by
      simpa [hdigit] using hdigits
    rw [← List.cons_append, takeWhile_append hall hrest]
    exact ⟨_, .decimalNumeral first digits rest hall hrest, by simp⟩

/-- A text is accepted, with a given datum and a given end, exactly if it begins
with that datum in exactly one form, ending there. -/
theorem readInput_ok_iff_existsUnique_form (input : Input) (datum : Datum)
    (stop : Int) :
    ((readInput input).1 = .ok datum ∧ (readInput input).2.position = stop) ↔
      ∃! form : Form, form.Spells input.text datum stop := by
  rw [readInput_ok_iff]
  constructor
  · rintro ⟨length, hreads, rfl⟩
    obtain ⟨form, hspells⟩ := hreads.exists_spells
    refine ⟨form, hspells, fun other hother => ?_⟩
    rw [hother.1.eq_opening, hspells.1.eq_opening]
  · rintro ⟨form, hspells, -⟩
    exact hspells.reads

end LispDatum.Reader
