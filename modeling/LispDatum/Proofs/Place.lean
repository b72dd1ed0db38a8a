import LispDatum.Proofs.Suffix
import Mathlib.Data.Prod.Lex

/-!
# Lines and columns

A line is told by a count of line feeds and a column by the distance from the
last of them, both of the text before an offset alone.  Split the whole text at
its line feeds: then the line is one of its lines, the column lies in it or just
behind it, and the lines before it, each with its line feed, fill the text up to
where the line begins.  So line and column are another name of the offset, and
they are ordered as offsets are.
-/

namespace LispDatum.Reader

/-- The lines of a text. -/
def lines (text : List Char) : List (List Char) :=
  text.splitOn '\n'

/-- The offset where a line begins.  Each line before it ends in a line feed. -/
def lineStart (text : List Char) (index : Nat) : Nat :=
  (((lines text).take index).map fun content => content.length + 1).sum

/-- A line and a column, both counted from one, stand for an offset. -/
structure IsPlaceOf (text : List Char) (offset : Nat) (line column : Int) :
    Prop where
  one_le_line : 1 ≤ line
  one_le_column : 1 ≤ column
  exists_content : ∃ content, (lines text)[(line - 1).toNat]? = some content ∧
    column - 1 ≤ content.length
  offset_eq : (offset : Int) = lineStart text (line - 1).toNat + (column - 1)

/-- Line and column, compared by the line first. -/
def Diagnostic.place (diagnostic : Diagnostic) : Int ×ₗ Int :=
  toLex (diagnostic.line, diagnostic.column)

/-! ## The lines of a text -/

theorem lines_feed_cons (text : List Char) :
    lines ('\n' :: text) = [] :: lines text := by
  rw [lines, List.splitOn_cons_eq_if_modifyHead, if_pos (beq_self_eq_true _)]
  rfl

/-- A character that is no line feed belongs to the first line. -/
theorem exists_lines_cons_eq {char : Char} (hchar : char ≠ '\n')
    (text : List Char) :
    ∃ content others, lines text = content :: others ∧
      lines (char :: text) = (char :: content) :: others := by
  obtain ⟨content, others, hlines⟩ :=
    List.exists_cons_of_ne_nil (List.splitOn_ne_nil '\n' text)
  refine ⟨content, others, hlines, ?_⟩
  rw [lines, List.splitOn_cons_eq_if_modifyHead,
    if_neg (mt eq_of_beq hchar), hlines, List.modifyHead_cons]

theorem length_lines (text : List Char) :
    (lines text).length = text.count '\n' + 1 := by
  induction text with
  | nil => rfl
  | cons char text hind =>
    by_cases hchar : char = '\n'
    · subst hchar
      rw [lines_feed_cons, List.length_cons, hind, List.count_cons_self]
    · obtain ⟨content, others, hlines, hcons⟩ :=
        exists_lines_cons_eq hchar text
      rw [hcons, List.count_cons_of_ne hchar, ← hind, hlines]
      rfl

/-- All lines with their line feeds are as long as the text, but for the line
feed that the last line has not. -/
theorem sum_length_lines (text : List Char) :
    ((lines text).map fun content => content.length + 1).sum =
      text.length + 1 := by
  induction text with
  | nil => rfl
  | cons char text hind =>
    by_cases hchar : char = '\n'
    · subst hchar
      rw [lines_feed_cons, List.map_cons, List.sum_cons, hind, List.length_nil,
        List.length_cons]
      ring
    · obtain ⟨content, others, hlines, hcons⟩ :=
        exists_lines_cons_eq hchar text
      rw [hlines, List.map_cons, List.sum_cons] at hind
      rw [hcons, List.map_cons, List.sum_cons, List.length_cons,
        List.length_cons, ← hind]
      ring

/-- A beginning without line feeds belongs to the first line. -/
theorem exists_lines_append_eq {before : List Char} (hfeed : '\n' ∉ before)
    (after : List Char) :
    ∃ content others, lines (before ++ after) = content :: others ∧
      before.length ≤ content.length := by
  by_cases hafter : '\n' ∈ after
  · obtain ⟨middle, rest, rfl, hmiddle⟩ := List.eq_append_cons_of_mem hafter
    have hcontent : '\n' ∉ before ++ middle := by
      rw [List.mem_append]
      exact not_or.2 ⟨hfeed, hmiddle⟩
    refine ⟨before ++ middle, lines rest, ?_, ?_⟩
    · rw [lines, ← List.append_assoc,
        List.splitOn_append_cons_self_of_not_mem hcontent]
      rfl
    · rw [List.length_append]
      exact Nat.le_add_right _ _
  · have hcontent : '\n' ∉ before ++ after := by
      rw [List.mem_append]
      exact not_or.2 ⟨hfeed, hafter⟩
    refine ⟨before ++ after, [], List.splitOn_eq_singleton hcontent, ?_⟩
    rw [List.length_append]
    exact Nat.le_add_right _ _

/-! ## Where a line begins -/

theorem lineStart_succ {text content : List Char} {index : Nat}
    (hcontent : (lines text)[index]? = some content) :
    lineStart text (index + 1) = lineStart text index + content.length + 1 := by
  rw [lineStart, List.take_add_one, hcontent, Option.toList_some,
    List.map_append, List.sum_append, List.map_singleton, List.sum_singleton,
    ← Nat.add_assoc]
  rfl

theorem lineStart_mono (text : List Char) : Monotone (lineStart text) := by
  apply monotone_nat_of_le_succ
  intro index
  rw [lineStart, lineStart, List.take_add_one, List.map_append, List.sum_append]
  exact Nat.le_add_right _ _

/-- The last line of a text is what comes after its last line feed. -/
theorem exists_eq_append_lastLine {text : List Char} (hfeed : '\n' ∈ text) :
    ∃ head, text = head ++ '\n' :: lastLine text := by
  obtain ⟨tail, head, hreverse, htail⟩ :=
    List.eq_append_cons_of_mem (List.mem_reverse.2 hfeed)
  have hrun : ∀ char ∈ tail, (char != '\n') = true := by
    intro char hmem
    rw [bne_iff_ne]
    rintro rfl
    exact htail hmem
  have hlast : lastLine text = tail.reverse := by
    rw [lastLine, List.rtakeWhile, hreverse,
      takeWhile_append hrun (startsOutside_cons.2 rfl)]
  refine ⟨head.reverse, ?_⟩
  rw [hlast, ← List.reverse_reverse text, hreverse]
  simp

theorem lineFeed_notMem_lastLine (text : List Char) :
    '\n' ∉ lastLine text := by
  intro hmem
  have hchar := List.mem_rtakeWhile_imp hmem
  contradiction

/-- The line that a text ends in, when more of it follows. -/
theorem exists_lines_getElem?_eq (before after : List Char) :
    (∃ content, (lines (before ++ after))[before.count '\n']? = some content ∧
      (lastLine before).length ≤ content.length) ∧
    lineStart (before ++ after) (before.count '\n') +
      (lastLine before).length = before.length := by
  have hlast := lineFeed_notMem_lastLine before
  obtain ⟨content, others, hlines, hlength⟩ :=
    exists_lines_append_eq hlast after
  by_cases hfeed : '\n' ∈ before
  · obtain ⟨head, hbefore⟩ := exists_eq_append_lastLine hfeed
    generalize lastLine before = last at *
    subst hbefore
    -- the lines before the last line feed are followed by those behind it
    have hsplit : lines (head ++ '\n' :: last ++ after) =
        lines head ++ content :: others := by
      rw [← hlines, List.append_assoc, List.cons_append]
      exact List.splitOn_append_cons_self head _
    have hcount : (head ++ '\n' :: last).count '\n' = (lines head).length := by
      rw [length_lines, List.count_append, List.count_cons_self,
        List.count_eq_zero_of_not_mem hlast]
    rw [hcount]
    constructor
    · refine ⟨content, ?_, hlength⟩
      rw [hsplit, List.getElem?_append_right (le_refl _), Nat.sub_self]
      rfl
    · rw [lineStart, hsplit, List.take_left, sum_length_lines,
        List.length_append, List.length_cons]
      ring
  · rw [lastLine_of_notMem hfeed] at hlines hlength ⊢
    rw [List.count_eq_zero_of_not_mem hfeed, hlines]
    exact ⟨⟨content, rfl, hlength⟩, Nat.zero_add _⟩

/-! ## Places -/

/-- Inside a text and at its end, line and column stand for the offset. -/
theorem Input.isPlaceOf (input : Input) {offset : Nat}
    (hoffset : offset ≤ input.text.length) :
    IsPlaceOf input.text offset (input.line offset) (input.column offset) := by
  obtain ⟨⟨content, hcontent, hlength⟩, hstart⟩ :=
    exists_lines_getElem?_eq (input.text.take offset) (input.text.drop offset)
  rw [List.take_append_drop] at hcontent hstart
  rw [List.length_take_of_le hoffset] at hstart
  have hline : input.line offset = (input.text.take offset).count '\n' + 1 := by
    rw [Input.line, before_natCast]
  have hcolumn : input.column offset =
      (lastLine (input.text.take offset)).length + 1 := by
    rw [column_eq, before_natCast, List.length_take_of_le hoffset]
    ring
  rw [hline, hcolumn]
  refine ⟨by omega, by omega, ?_, ?_⟩
  · rw [add_sub_cancel_right, add_sub_cancel_right, Int.toNat_natCast]
    exact ⟨content, hcontent, by exact_mod_cast hlength⟩
  · rw [add_sub_cancel_right, add_sub_cancel_right, Int.toNat_natCast]
    exact_mod_cast hstart.symm

section Places

variable {text : List Char} {offset other : Nat}
  {line column otherLine otherColumn : Int}

theorem IsPlaceOf.offset_unique (hplace : IsPlaceOf text offset line column)
    (hother : IsPlaceOf text other line column) : offset = other := by
  have hsame := hplace.offset_eq.trans hother.offset_eq.symm
  exact_mod_cast hsame

/-- A line begins behind every place of the lines before it. -/
theorem IsPlaceOf.lt_of_line_lt (hplace : IsPlaceOf text offset line column)
    (hother : IsPlaceOf text other otherLine otherColumn)
    (hline : line < otherLine) : offset < other := by
  obtain ⟨content, hcontent, hlength⟩ := hplace.exists_content
  have hfirst := hplace.one_le_line
  have hindex : (line - 1).toNat + 1 ≤ (otherLine - 1).toNat := by omega
  have hstart : lineStart text (line - 1).toNat + content.length + 1 ≤
      lineStart text (otherLine - 1).toNat := by
    rw [← lineStart_succ hcontent]
    exact lineStart_mono text hindex
  have hbegin : (lineStart text (otherLine - 1).toNat : Int) ≤ other := by
    rw [hother.offset_eq]
    exact le_add_of_nonneg_right (sub_nonneg.2 hother.one_le_column)
  have hend : (offset : Int) ≤
      lineStart text (line - 1).toNat + content.length := by
    rw [hplace.offset_eq]
    gcongr
  omega

theorem IsPlaceOf.lt_of_place_lt (hplace : IsPlaceOf text offset line column)
    (hother : IsPlaceOf text other otherLine otherColumn)
    (hbefore : toLex (line, column) < toLex (otherLine, otherColumn)) :
    offset < other := by
  rcases Prod.Lex.toLex_lt_toLex.1 hbefore with hline | ⟨hline, hcolumn⟩
  · exact hplace.lt_of_line_lt hother hline
  · have hsame : line = otherLine := hline
    have hless : column < otherColumn := hcolumn
    have hoffset := hplace.offset_eq
    have hotherOffset := hother.offset_eq
    rw [hsame] at hoffset
    omega

/-- Places are ordered as the offsets that they stand for. -/
theorem IsPlaceOf.lt_iff (hplace : IsPlaceOf text offset line column)
    (hother : IsPlaceOf text other otherLine otherColumn) :
    offset < other ↔ toLex (line, column) < toLex (otherLine, otherColumn) := by
  constructor
  · intro hless
    rcases lt_trichotomy (toLex (line, column))
      (toLex (otherLine, otherColumn)) with hbefore | hsame | hbehind
    · exact hbefore
    · obtain ⟨rfl, rfl⟩ := Prod.mk.inj (toLex.injective hsame)
      exact absurd (hplace.offset_unique hother) hless.ne
    · exact absurd (hother.lt_of_place_lt hplace hbehind) hless.asymm
  · exact hplace.lt_of_place_lt hother

end Places

/-! ## Diagnostics -/

/-- The diagnostic tells an offset of the text by line and column. -/
structure Diagnostic.Locates (diagnostic : Diagnostic) (text : List Char)
    (offset : Nat) : Prop where
  offset_eq : diagnostic.offset = offset
  isPlaceOf : IsPlaceOf text offset diagnostic.line diagnostic.column

theorem Cause.locates_diagnostic (cause : Cause) (input : Input)
    {offset : Nat} (hoffset : offset ≤ input.text.length) :
    (cause.diagnostic input offset).Locates input.text offset :=
  ⟨rfl, input.isPlaceOf hoffset⟩

/-- Only strings have line feeds in them. -/
theorem Reads.kind_of_lineFeed_mem {text : List Char} {cause : Cause}
    {distance length : Nat}
    (hreads : Reads text (.refused cause distance length))
    (hfeed : '\n' ∈ text.take distance) :
    cause.kind = .unterminatedString ∨ cause.kind = .invalidEscape := by
  have hletter : ∀ radix : Radix, radix.letter ≠ '\n' := by
    intro radix
    cases radix <;> decide
  cases hreads with
  | noExpression _ hinitial hquote hdigit => cases hfeed
  | openString items => exact .inl rfl
  | openEscape items => exact .inl rfl
  | badEscape items char rest hchar => exact .inr rfl
  | unknownRadix letter digit rest hother hradix hdigit =>
    cases List.mem_singleton.1 hfeed
  | noDigits radix rest hrest =>
    have hfeed : '\n' ∈ ['#', radix.letter] := hfeed
    simp [(hletter radix).symm] at hfeed
  | badDigit radix digits char rest hdigits hchar hword hfirst =>
    rw [List.take_succ_cons, List.take_succ_cons, List.take_left' rfl] at hfeed
    have hrun : '\n' ∈ digits := by
      simpa [(hletter radix).symm] using hfeed
    have hdigit := Radix.isWordChar_of_isDigit (hdigits '\n' hrun)
    contradiction

theorem diagnose_eq (input : Input) (progress : Progress) (kind : Kind)
    (message : String) {offset : Nat} (hoffset : offset ≤ input.text.length) :
    ((diagnose kind message offset).runFrom input progress).1 = .ok
      ⟨kind, message, input.line offset, input.column offset, offset,
        input.source⟩ := by
  have htell : input.canTell offset = true := by
    rw [Input.canTell, Int.natAbs_natCast, decide_eq_true hoffset, Bool.true_or]
  rw [runFrom_diagnose, htell]
  rfl

/-- Every diagnostic made at an offset of the text tells it by line and column,
and two of them are ordered by their places as by their offsets.  If a text is
refused, then at one of its offsets, and behind a line feed only for a fault in
a string. -/
theorem diagnose_locates :
    (∀ (input : Input) (progress : Progress) (kind : Kind) (message : String)
      (offset : Nat), offset ≤ input.text.length →
        ∃ diagnostic,
          ((diagnose kind message offset).runFrom input progress).1 =
            .ok diagnostic ∧
          diagnostic.Locates input.text offset) ∧
    (∀ (text : List Char) (left right : Diagnostic) (offset other : Nat),
      left.Locates text offset → right.Locates text other →
        (left.place = right.place → offset = other) ∧
        (offset < other ↔ left.place < right.place)) ∧
    ∀ (input : Input) (diagnostic : Diagnostic),
      (readInput input).1 = .error (.refused diagnostic) →
        ∃ offset ≤ input.text.length, diagnostic.Locates input.text offset ∧
          (1 < diagnostic.line → diagnostic.kind = .unterminatedString ∨
            diagnostic.kind = .invalidEscape) := by
  refine ⟨?_, ?_, ?_⟩
  · intro input progress kind message offset hoffset
    exact ⟨_, diagnose_eq input progress kind message hoffset, rfl,
      input.isPlaceOf hoffset⟩
  · intro text left right offset other hleft hright
    refine ⟨?_, hleft.isPlaceOf.lt_iff hright.isPlaceOf⟩
    intro hsame
    obtain ⟨hline, hcolumn⟩ := Prod.mk.inj (toLex.injective hsame)
    have hplace := hright.isPlaceOf
    rw [← hline, ← hcolumn] at hplace
    exact hleft.isPlaceOf.offset_unique hplace
  · intro input diagnostic hrefused
    obtain ⟨cause, distance, length, hreads, hfault⟩ :=
      readInput_error_iff.1 hrefused
    cases hfault
    refine ⟨distance, hreads.distance_le,
      cause.locates_diagnostic input hreads.distance_le, ?_⟩
    intro hline
    apply hreads.kind_of_lineFeed_mem
    rw [← Input.before_natCast]
    exact (Input.one_lt_line_iff input distance).1 hline

/-- A line feed is told on the line that it ends, and what comes behind it on
the next line. -/
theorem diagnose_locates_lineFeed :
    (∃ left right : Diagnostic, left.Locates ['a', '\n', 'b'] 1 ∧
      right.Locates ['a', '\n', 'b'] 2 ∧ left.place < right.place) ∧
    ∃ offset ≤ 4, ((Cause.badEscape 'q').diagnostic
      (.ofString "\"\n\\q") 3).Locates ['"', '\n', '\\', 'q'] offset := by
  obtain ⟨hmade, hordered, hrefused⟩ := diagnose_locates
  obtain ⟨left, -, hleft⟩ := hmade ⟨['a', '\n', 'b'], "lisp"⟩ {}
    .unexpectedCharacter "" 1 (by decide)
  obtain ⟨right, -, hright⟩ := hmade ⟨['a', '\n', 'b'], "lisp"⟩ {}
    .unexpectedCharacter "" 2 (by decide)
  have hread : (readInput (.ofString "\"\n\\q")).1 = .error (.refused
      ((Cause.badEscape 'q').diagnostic (.ofString "\"\n\\q") 3)) := by rfl
  obtain ⟨offset, hoffset, hlocates, -⟩ := hrefused _ _ hread
  refine ⟨⟨left, right, hleft, hright, ?_⟩, offset, hoffset, hlocates⟩
  exact (hordered _ left right 1 2 hleft hright).2.1 (by decide)

end LispDatum.Reader
