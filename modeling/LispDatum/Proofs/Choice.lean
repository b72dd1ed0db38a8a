import LispDatum.Proofs.Grammar
import Mathlib.Data.List.Perm.Basic

/-!
# The choice between the alternatives

Identifiers, strings and numerals are tried in this order, but the order is of
no account.  The number sign begins identifiers as well as numerals, and both
alternatives tell radix literals by the same test, one to decline them and the
other to commit to them; all other first characters belong to one alternative at
most.  So wherever a reader stands, at most one alternative does anything, and
whichever order they are tried in, that one decides.
-/

namespace LispDatum.Reader

/-- The alternatives of an expression. -/
def alternatives : List (ReadM (Option Datum)) :=
  [readAtom, readString, readNumber]

/-- The alternative returns nothing, and so leaves the choice to the others. -/
def Declines (input : Input) (progress : Progress)
    (alternative : ReadM (Option Datum)) : Prop :=
  (alternative.runFrom input progress).1 = .ok none

/-! ## Where each alternative declines -/

theorem atomReading?_eq_none_iff {ahead : List Char} :
    atomReading? ahead = none ↔
      startsAtom ahead = false ∨ startsRadixLiteral ahead = true := by
  rw [atomReading?]
  cases startsAtom ahead <;> cases startsRadixLiteral ahead <;> simp

theorem stringReading?_eq_none_iff {ahead : List Char} :
    stringReading? ahead = none ↔ ahead.head? ≠ some '"' := by
  rw [stringReading?.eq_def]
  split
  · next rest => cases Body.scan rest <;> simp
  · next hquote =>
    cases ahead with
    | nil => simp
    | cons first rest =>
      simp only [List.head?_cons, ne_eq, Option.some.injEq, true_iff]
      rintro rfl
      exact hquote rest rfl

theorem numberReading?_eq_none_iff {ahead : List Char} :
    numberReading? ahead = none ↔
      startsRadixLiteral ahead = false ∧ ahead.head?.any isDigit = false := by
  rw [numberReading?]
  cases startsRadixLiteral ahead <;> cases ahead.head?.any isDigit <;> simp

/-- A text that starts with a quote is no identifier and no numeral. -/
theorem eq_none_of_head?_eq_quote {ahead : List Char}
    (hquote : ahead.head? = some '"') :
    atomReading? ahead = none ∧ numberReading? ahead = none := by
  have hliteral : startsRadixLiteral ahead = false :=
    startsRadixLiteral_of_head?_ne (by simp [hquote])
  rw [atomReading?_eq_none_iff, numberReading?_eq_none_iff]
  exact ⟨.inl (by simp [startsAtom, hquote]), hliteral, by simp [hquote]⟩

theorem atomReading?_or_numberReading?_eq_none (ahead : List Char) :
    atomReading? ahead = none ∨ numberReading? ahead = none := by
  rw [atomReading?_eq_none_iff, numberReading?_eq_none_iff]
  cases hliteral : startsRadixLiteral ahead with
  | true => exact .inl (.inr rfl)
  | false =>
    cases hhead : ahead.head? with
    | none => exact .inr ⟨rfl, rfl⟩
    | some first =>
      cases hdigit : isDigit first with
      | true =>
        have hinitial := isInitial_of_isDigit hdigit
        exact .inl (.inl (by simp [startsAtom, hhead, hinitial]))
      | false => exact .inr ⟨rfl, by simp [hdigit]⟩

/-- Of any two alternatives, one declines the characters ahead. -/
theorem pairwise_eq_none (ahead : List Char) :
    [atomReading?, stringReading?, numberReading?].Pairwise
      fun left right => left ahead = none ∨ right ahead = none := by
  have hboth := atomReading?_or_numberReading?_eq_none ahead
  by_cases hquote : ahead.head? = some '"'
  · have hnone := eq_none_of_head?_eq_quote hquote
    simp [hnone.1, hnone.2]
  · have hnone := stringReading?_eq_none_iff.2 hquote
    simp [hnone, hboth]

/-- An alternative commits exactly where an expression can start. -/
theorem exists_ne_none_iff (ahead : List Char) :
    (∃ view ∈ [atomReading?, stringReading?, numberReading?],
      view ahead ≠ none) ↔
        ∃ first ∈ ahead.head?,
          isInitial first = true ∨ first = '"' ∨ isDigit first = true := by
  simp only [List.mem_cons, List.not_mem_nil, or_false, exists_eq_or_imp,
    exists_eq_left, ne_eq, atomReading?_eq_none_iff,
    stringReading?_eq_none_iff, numberReading?_eq_none_iff]
  cases ahead with
  | nil => simp [startsAtom, startsRadixLiteral]
  | cons first rest =>
    have hsign : startsRadixLiteral (first :: rest) = true →
        isInitial first = true := by
      intro hliteral
      obtain ⟨letter, others, htext, -⟩ := startsRadixLiteral_iff.1 hliteral
      cases htext
      exact isInitial_numberSign
    cases hliteral : startsRadixLiteral (first :: rest) with
    | true => simp [hsign hliteral]
    | false => simp [startsAtom]

/-! ## The order of the alternatives -/

/-- Where at most one member of a list gives a result, the first result does not
depend on the order of the list. -/
theorem findSome?_eq_of_perm {Entry Result : Type} {entries others : List Entry}
    {search : Entry → Option Result} (hperm : entries.Perm others)
    (hexclusive : entries.Pairwise
      fun left right => search left = none ∨ search right = none) :
    entries.findSome? search = others.findSome? search := by
  induction hperm with
  | nil => rfl
  | cons entry _ hind =>
    rw [List.findSome?_cons, List.findSome?_cons,
      hind (List.pairwise_cons.1 hexclusive).2]
  | swap left right rest =>
    -- of the two that change places at most one has a result
    have hpair := (List.pairwise_cons.1 hexclusive).1 left (by simp)
    rcases hpair with hnone | hnone <;>
      simp only [List.findSome?_cons, hnone]
  | trans hfirst _ hind hind' =>
    have hsymm {left right : Entry}
        (hpair : search left = none ∨ search right = none) :
        search right = none ∨ search left = none := hpair.symm
    rw [hind hexclusive, hind' (hfirst.pairwise hexclusive hsymm)]

theorem alternatives_realize :
    List.Forall₂ Realizes alternatives
      [atomReading?, stringReading?, numberReading?] :=
  .cons readAtom_realizes <| .cons readString_realizes <|
    .cons readNumber_realizes .nil

/-- The alternatives in another order see the same characters, and the one that
commits to them is the same. -/
theorem runFrom_readBy_of_perm (input : Input) (progress : Progress)
    (hposition : 0 ≤ progress.position)
    {order : List (ReadM (Option Datum))} (hperm : order.Perm alternatives) :
    (readBy order).runFrom input progress =
      readDatum.runFrom input progress := by
  obtain ⟨views, hrealize, hviews⟩ :=
    List.perm_comp_forall₂ hperm alternatives_realize
  have hreading (ahead : List Char) :
      readingBy views ahead = reading ahead := by
    rw [reading, readingBy, readingBy,
      findSome?_eq_of_perm hviews.symm (pairwise_eq_none ahead)]
  rw [runFrom_readBy input progress hposition hrealize,
    runFrom_readDatum input progress hposition, hreading]

/-- A radix literal is never taken for a place where no expression starts. -/
theorem Reads.kind_ne_of_startsRadixLiteral {ahead : List Char} {cause : Cause}
    {distance length : Nat}
    (hreads : Reads ahead (.refused cause distance length))
    (hliteral : startsRadixLiteral ahead = true) :
    cause.kind ≠ .unexpectedCharacter := by
  obtain ⟨letter, rest, htext, -⟩ := startsRadixLiteral_iff.1 hliteral
  cases hreads with
  | noExpression _ hinitial _ _ =>
    rw [htext, startsOutside_cons, isInitial_numberSign] at hinitial
    contradiction
  | _ => exact Kind.noConfusion

/-! ## What the alternatives do -/

section Alternatives

variable {input : Input} {progress : Progress}
variable {alternative : ReadM (Option Datum)}
variable {view : List Char → Option Reading}

theorem Realizes.declines_iff (hrealizes : Realizes alternative view)
    (hposition : 0 ≤ progress.position) :
    Declines input progress alternative ↔
      view (input.text.drop progress.position.toNat) = none := by
  rw [Declines, hrealizes input progress hposition]
  rcases view (input.text.drop progress.position.toNat) with
    _ | ⟨datum, length⟩ | ⟨cause, distance, length⟩ <;> simp [outcome]

theorem Realizes.runFrom_of_declines (hrealizes : Realizes alternative view)
    (hposition : 0 ≤ progress.position)
    (hdeclines : Declines input progress alternative) :
    (alternative.runFrom input progress).2 = progress := by
  have hnone := (hrealizes.declines_iff hposition).1 hdeclines
  rw [hrealizes input progress hposition, hnone]
  rfl

end Alternatives

/-- How the alternatives share the texts, at an offset of an input. -/
structure ArePartition (input : Input) (start : Nat) (trace : List Event) :
    Prop where
  /-- Of any two alternatives, one declines. -/
  exclusive : alternatives.Pairwise fun left right =>
    Declines input ⟨start, trace⟩ left ∨ Declines input ⟨start, trace⟩ right
  /-- Declining moves nothing and records nothing. -/
  unchanged : ∀ alternative ∈ alternatives,
    Declines input ⟨start, trace⟩ alternative →
      (alternative.runFrom input ⟨start, trace⟩).2 = ⟨start, trace⟩
  /-- Some alternative commits exactly if an expression can start here. -/
  exhaustive :
    (∃ alternative ∈ alternatives,
      ¬ Declines input ⟨start, trace⟩ alternative) ↔
        ∃ first, input.text[start]? = some first ∧
          (Unicode.isLetter first = true ∨ isSymbol first = true ∨
            first = '"' ∨ isDigit first = true)
  /-- The alternatives can be tried in any order. -/
  unordered : ∀ order, order.Perm alternatives →
    (readBy order).runFrom input ⟨start, trace⟩ =
      readDatum.runFrom input ⟨start, trace⟩
  /-- What the first alternative declines as a radix literal is refused for its
  radix or its digits, if at all. -/
  radixLiteral : (seesRadixLiteral.runFrom input ⟨start, trace⟩).1 = .ok true →
    Declines input ⟨start, trace⟩ readAtom ∧ ∀ diagnostic,
      (readDatum.runFrom input ⟨start, trace⟩).1 =
        .error (.refused diagnostic) →
          diagnostic.kind ≠ .unexpectedCharacter

section Offset

variable (input : Input) (start : Nat) (trace : List Event)

theorem declines_iff :
    (Declines input ⟨start, trace⟩ readAtom ↔
      atomReading? (input.text.drop start) = none) ∧
    (Declines input ⟨start, trace⟩ readString ↔
      stringReading? (input.text.drop start) = none) ∧
    (Declines input ⟨start, trace⟩ readNumber ↔
      numberReading? (input.text.drop start) = none) := by
  have hstart : (0 : Int) ≤ start := Int.natCast_nonneg start
  exact ⟨readAtom_realizes.declines_iff hstart,
    readString_realizes.declines_iff hstart,
    readNumber_realizes.declines_iff hstart⟩

theorem pairwise_declines :
    alternatives.Pairwise fun left right =>
      Declines input ⟨start, trace⟩ left ∨
        Declines input ⟨start, trace⟩ right := by
  obtain ⟨hatom, hstring, hnumber⟩ := declines_iff input start trace
  have hexclusive := pairwise_eq_none (input.text.drop start)
  simpa [alternatives, hatom, hstring, hnumber] using hexclusive

theorem exists_not_declines_iff :
    (∃ alternative ∈ alternatives,
      ¬ Declines input ⟨start, trace⟩ alternative) ↔
        ∃ first, input.text[start]? = some first ∧
          (Unicode.isLetter first = true ∨ isSymbol first = true ∨
            first = '"' ∨ isDigit first = true) := by
  obtain ⟨hatom, hstring, hnumber⟩ := declines_iff input start trace
  have hexists := exists_ne_none_iff (input.text.drop start)
  rw [List.head?_drop] at hexists
  simpa [alternatives, hatom, hstring, hnumber, isInitial, or_assoc]
    using hexists

theorem runFrom_of_declines {alternative : ReadM (Option Datum)}
    (hmem : alternative ∈ alternatives)
    (hdeclines : Declines input ⟨start, trace⟩ alternative) :
    (alternative.runFrom input ⟨start, trace⟩).2 = ⟨start, trace⟩ := by
  have hstart : (0 : Int) ≤ start := Int.natCast_nonneg start
  simp only [alternatives, List.mem_cons, List.not_mem_nil, or_false] at hmem
  rcases hmem with rfl | rfl | rfl
  · exact readAtom_realizes.runFrom_of_declines hstart hdeclines
  · exact readString_realizes.runFrom_of_declines hstart hdeclines
  · exact readNumber_realizes.runFrom_of_declines hstart hdeclines

theorem runFrom_seesRadixLiteral :
    seesRadixLiteral.runFrom input ⟨start, trace⟩ =
      (.ok (startsRadixLiteral (input.text.drop start)), ⟨start, trace⟩) := by
  have hstart : (0 : Int) ≤ start := Int.natCast_nonneg start
  simp only [seesRadixLiteral, runFrom_bind,
    runFrom_lookAhead_of_nonneg input ⟨start, trace⟩ hstart, runFrom_pure,
    Int.toNat_natCast]

theorem kind_ne_unexpectedCharacter {diagnostic : Diagnostic}
    (hliteral : startsRadixLiteral (input.text.drop start) = true)
    (hrefused : (readDatum.runFrom input ⟨start, trace⟩).1 =
      .error (.refused diagnostic)) :
    diagnostic.kind ≠ .unexpectedCharacter := by
  rw [runFrom_readDatum input ⟨start, trace⟩ (Int.natCast_nonneg start),
    Int.toNat_natCast] at hrefused
  cases hreading : reading (input.text.drop start) with
  | accepted datum length =>
    rw [hreading] at hrefused
    cases hrefused
  | refused cause distance length =>
    rw [hreading] at hrefused
    rw [Cause.eq_diagnostic_of_fault (Except.error.inj hrefused)]
    exact (reads_iff.2 hreading).kind_ne_of_startsRadixLiteral hliteral

end Offset

/-- Wherever a reader stands in a text or behind it, the alternatives are
exclusive, exhaustive and independent of their order. -/
theorem alternatives_arePartition (input : Input) (start : Nat)
    (trace : List Event) : ArePartition input start trace where
  exclusive := pairwise_declines input start trace
  unchanged := fun _ hmem hdeclines =>
    runFrom_of_declines input start trace hmem hdeclines
  exhaustive := exists_not_declines_iff input start trace
  unordered := fun _ hperm =>
    runFrom_readBy_of_perm input ⟨start, trace⟩ (Int.natCast_nonneg start) hperm
  radixLiteral := by
    rw [runFrom_seesRadixLiteral, Except.ok.injEq]
    intro hliteral
    constructor
    · rw [(declines_iff input start trace).1, atomReading?_eq_none_iff]
      exact .inr hliteral
    · intro diagnostic hrefused
      exact kind_ne_unexpectedCharacter input start trace hliteral hrefused

end LispDatum.Reader
