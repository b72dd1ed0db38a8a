import Mathlib.Logic.Function.Defs

/-!
# Prefix codes

A code writes each value as a word.  If a word tells where it ends, whatever
stands behind it, then words written one behind the other are taken apart in
one way only, and a text that is delimited by something that starts no word
ends at the delimiter.
-/

namespace LispDatum.Text

variable {Source Symbol : Type} {encode : Source → List Symbol}

/-- A word and what stands behind it are told apart by the text alone. -/
def IsPrefixFree (encode : Source → List Symbol) : Prop :=
  ∀ source other rest tail, encode source ++ rest = encode other ++ tail →
    source = other ∧ rest = tail

/-- What follows starts with no word of the code. -/
def StartsNoWord (encode : Source → List Symbol) (rest : List Symbol) : Prop :=
  ∀ source tail, rest ≠ encode source ++ tail

/-- A code is prefix-free if some reader takes each word off the text and leaves
what stands behind it. -/
theorem isPrefixFree_of_read
    {read : List Symbol → Option (Source × List Symbol)}
    (hread : ∀ source rest,
      read (encode source ++ rest) = some (source, rest)) :
    IsPrefixFree encode := by
  intro source other rest tail htext
  have hsame : some (source, rest) = some (other, tail) := by
    rw [← hread source rest, htext, hread other tail]
  exact Prod.mk.inj (Option.some.inj hsame)

theorem startsNoWord_nil (hne : ∀ source, encode source ≠ []) :
    StartsNoWord encode [] := by
  intro source tail htext
  exact hne source (List.append_eq_nil_iff.1 htext.symm).1

theorem startsNoWord_cons {first : Symbol} {rest : List Symbol}
    (hfirst : ∀ source, ∃ head others,
      encode source = head :: others ∧ head ≠ first) :
    StartsNoWord encode (first :: rest) := by
  intro source tail htext
  obtain ⟨head, others, hword, hhead⟩ := hfirst source
  rw [hword, List.cons_append] at htext
  exact hhead (List.cons.inj htext).1.symm

/-- The words are cancelled one by one; neither list can run out first, because
what follows it starts with no word. -/
theorem IsPrefixFree.flatMap_append_inj (hfree : IsPrefixFree encode)
    {left right : List Source} {rest tail : List Symbol}
    (hrest : StartsNoWord encode rest) (htail : StartsNoWord encode tail)
    (htext : left.flatMap encode ++ rest = right.flatMap encode ++ tail) :
    left = right ∧ rest = tail := by
  induction left generalizing right with
  | nil =>
    cases right with
    | nil => exact ⟨rfl, htext⟩
    | cons other right =>
      rw [List.flatMap_nil, List.nil_append, List.flatMap_cons,
        List.append_assoc] at htext
      exact absurd htext (hrest other _)
  | cons source left hind =>
    cases right with
    | nil =>
      rw [List.flatMap_nil, List.nil_append, List.flatMap_cons,
        List.append_assoc] at htext
      exact absurd htext.symm (htail source _)
    | cons other right =>
      rw [List.flatMap_cons, List.flatMap_cons, List.append_assoc,
        List.append_assoc] at htext
      obtain ⟨rfl, hbehind⟩ := hfree _ _ _ _ htext
      obtain ⟨rfl, hsame⟩ := hind hbehind
      exact ⟨rfl, hsame⟩

end LispDatum.Text
