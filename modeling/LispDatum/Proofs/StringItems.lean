import LispDatum.Proofs.Grammar
import LispDatum.Proofs.PrefixCode

/-!
# Strings item by item

A string consists of items between quotes and stands for what they stand for,
one character each.  An item tells where it ends, an escape by its backslash and
all others by being one character.  So the text between the quotes splits into
items in one way only, although quotes and backslashes occur inside escapes.
The converse fails where a character has two spellings, and then it does not
matter which one is chosen.
-/

namespace LispDatum.Reader

open LispDatum.Text (IsPrefixFree startsNoWord_nil)

namespace Escape

def all : List Escape := [backslash, quote, lineFeed, carriageReturn, tab]

theorem mem_all (escape : Escape) : escape ∈ all := by
  cases escape <;> decide

theorem letter_injective : Function.Injective letter := by
  have hletters : ∀ left ∈ all, ∀ right ∈ all,
      left.letter = right.letter → left = right := by
    decide
  intro left right hletter
  exact hletters left left.mem_all right right.mem_all hletter

end Escape

namespace Item

def isEscaped : Item → Bool
  | raw _ _ _ => false
  | escaped _ => true

/-- The items that stand for a character: the character itself unless it is a
quote or a backslash, and its escape if it has one. -/
def spellings (char : Char) : List Item :=
  (if hraw : char ≠ '"' ∧ char ≠ '\\' then [raw char hraw.1 hraw.2] else []) ++
    (Escape.all.filter fun escape => escape.value = char).map escaped

theorem mem_spellings_iff {char : Char} {item : Item} :
    item ∈ spellings char ↔ item.value = char := by
  rw [spellings, List.mem_append, List.mem_map]
  constructor
  · rintro (hraw | ⟨escape, hescape, rfl⟩)
    · split at hraw
      · rw [List.mem_singleton.1 hraw]
        rfl
      · cases hraw
    · exact of_decide_eq_true (List.mem_filter.1 hescape).2
  · rintro rfl
    cases item with
    | raw char hquote hbackslash =>
      have hraw : char ≠ '"' ∧ char ≠ '\\' := ⟨hquote, hbackslash⟩
      rw [value, dif_pos hraw]
      exact .inl List.mem_cons_self
    | escaped escape =>
      refine .inr ⟨escape, ?_, rfl⟩
      rw [List.mem_filter]
      exact ⟨escape.mem_all, decide_eq_true rfl⟩

/-- Line feeds, carriage returns and tabs have two spellings each. -/
example : (spellings '\n').length = 2 ∧ (spellings '"').length = 1 := by decide

theorem map_value_of_spellings {contents : List Char} {items : List Item}
    (hchosen : List.Forall₂ (fun char item => item ∈ spellings char) contents
      items) : items.map value = contents := by
  induction hchosen with
  | nil => rfl
  | cons hitem _ hind =>
    rw [List.map_cons, mem_spellings_iff.1 hitem, hind]

/-! ## The only way to split a text into items -/

/-- The first character tells an escape from a character that stands for
itself. -/
theorem isPrefixFree_chars : IsPrefixFree chars := by
  intro item other rest tail htext
  cases item with
  | raw char hquote hbackslash =>
    cases other with
    | raw otherChar _ _ =>
      obtain ⟨rfl, hrest⟩ := List.cons.inj htext
      exact ⟨rfl, hrest⟩
    | escaped escape =>
      exact absurd (List.cons.inj htext).1 hbackslash
  | escaped escape =>
    cases other with
    | raw otherChar _ hbackslash =>
      exact absurd (List.cons.inj htext).1.symm hbackslash
    | escaped otherEscape =>
      obtain ⟨hletter, hrest⟩ := List.cons.inj (List.cons.inj htext).2
      rw [Escape.letter_injective hletter]
      exact ⟨rfl, hrest⟩

theorem chars_ne_nil (item : Item) : item.chars ≠ [] := by
  cases item <;> exact List.cons_ne_nil _ _

theorem spell_injective : Function.Injective spell := by
  intro left right htext
  have hend := startsNoWord_nil chars_ne_nil
  have hsame : left.flatMap chars ++ [] = right.flatMap chars ++ [] := by
    rw [List.append_nil, List.append_nil]
    exact htext
  exact (isPrefixFree_chars.flatMap_append_inj hend hend hsame).1

/-- An escape is one character longer than what it stands for. -/
theorem length_spell (items : List Item) :
    (spell items).length = items.length + items.countP isEscaped := by
  induction items with
  | nil => rfl
  | cons item items hind =>
    have hitem : item.chars.length = 1 + if isEscaped item then 1 else 0 := by
      cases item <;> rfl
    rw [spell_cons, List.length_append, hitem, hind, List.length_cons,
      List.countP_cons]
    ring

end Item

/-! ## What is read -/

/-- A string that ends at an offset consists of items: they are the text between
its quotes, and each stands for one character of the contents. -/
structure ConsistsOf (input : Input) (stop : Int) (contents : String)
    (items : List Item) : Prop where
  spelled : input.slice 1 (stop - 1) = Item.spell items
  decoded : contents = String.ofList (items.map Item.value)
  length : (contents.length : Int) = stop - 2 - items.countP Item.isEscaped

theorem readInput_items (items : List Item) (rest : List Char)
    (source : String) :
    let input : Input := ⟨'"' :: (Item.spell items ++ '"' :: rest), source⟩
    (readInput input).1 =
        .ok (.string (String.ofList (items.map Item.value))) ∧
      (readInput input).2.position = (Item.spell items).length + 2 := by
  intro input
  exact readInput_ok_iff.2 ⟨_, .string items rest, rfl⟩

theorem Reads.exists_consistsOf {input : Input} {contents : String}
    {length : Nat}
    (hreads : Reads input.text (.accepted (.string contents) length)) :
    ∃ items, ConsistsOf input length contents items := by
  obtain ⟨text, source⟩ := input
  cases hreads with
  | identifier first others rest datum hfirst hothers hrest hradix hdatum =>
    cases hdatum
  | string items rest =>
    refine ⟨items, ?_, rfl, ?_⟩
    · have hstop : ((Item.spell items).length + 2 : Nat) - 1 =
          1 + ((Item.spell items).length : Int) := by
        push_cast
        ring
      rw [hstop, slice_of_nonneg _ (by decide)]
      exact List.take_left
    · rw [String.length_ofList, List.length_map, Item.length_spell]
      push_cast
      ring

/-- Items between quotes read as the string that they stand for, whatever
follows.  Every string that is read consists of items, its text splits into
items in no other way, and it is shorter than its text by the two quotes and
one backslash for each escape.  Contents are read whichever spellings their
characters have. -/
theorem readInput_string :
    (∀ (items : List Item) (rest : List Char) (source : String),
      let input : Input := ⟨'"' :: (Item.spell items ++ '"' :: rest), source⟩
      (readInput input).1 =
          .ok (.string (String.ofList (items.map Item.value))) ∧
        (readInput input).2.position = (Item.spell items).length + 2) ∧
    (∀ (input : Input) (contents : String),
      (readInput input).1 = .ok (.string contents) →
        let stop := (readInput input).2.position
        ∃ items, ConsistsOf input stop contents items ∧
          ∀ others, input.slice 1 (stop - 1) = Item.spell others →
            others = items) ∧
    ∀ (contents : List Char) (items : List Item) (rest : List Char)
      (source : String),
      List.Forall₂ (fun char item => item ∈ Item.spellings char) contents
        items →
        (readInput ⟨'"' :: (Item.spell items ++ '"' :: rest), source⟩).1 =
          .ok (.string (String.ofList contents)) := by
  refine ⟨readInput_items, ?_, ?_⟩
  · intro input contents hread stop
    obtain ⟨length, hreads, hstop⟩ := readInput_ok_iff.1 ⟨hread, rfl⟩
    obtain ⟨items, hitems⟩ := hreads.exists_consistsOf
    rw [← hstop] at hitems
    refine ⟨items, hitems, ?_⟩
    intro others hothers
    apply Item.spell_injective
    exact hothers.symm.trans hitems.spelled
  · intro contents items rest source hchosen
    rw [← Item.map_value_of_spellings hchosen]
    exact (readInput_items items rest source).1

/-- A line feed can stand for itself or be escaped, and of three backslashes
before two quotes the last one escapes a quote. -/
theorem readInput_string_lineFeed :
    (readInput ⟨['"', '\n', '"'], "lisp"⟩).1 = .ok (.string "\n") ∧
    (readInput ⟨['"', '\\', 'n', '"'], "lisp"⟩).1 = .ok (.string "\n") ∧
    ∃ items, ConsistsOf (.ofString "\"\\\\\\\"\"") 6 "\\\"" items := by
  obtain ⟨-, hconsists, hspellings⟩ := readInput_string
  let raw : Item := .raw '\n' (by decide) (by decide)
  have hraw := hspellings ['\n'] [raw] [] "lisp"
    (.cons (Item.mem_spellings_iff.2 rfl) .nil)
  have hescaped := hspellings ['\n'] [.escaped .lineFeed] [] "lisp"
    (.cons (Item.mem_spellings_iff.2 rfl) .nil)
  have hread : (readInput (.ofString "\"\\\\\\\"\"")).1 =
      .ok (.string "\\\"") := by rfl
  obtain ⟨items, hitems, -⟩ := hconsists _ _ hread
  exact ⟨hraw, hescaped, items, hitems⟩

end LispDatum.Reader
