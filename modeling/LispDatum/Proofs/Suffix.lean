import LispDatum.Proofs.Grammar
import Mathlib.Data.List.DropRight

/-!
# Reading from a position

A reader that stands inside a text sees no more than what lies ahead, so it does
what it would do with that suffix alone.  Only the places in its reports differ:
offsets and lines count what lies before, and so does a column as long as no
line feed of the suffix comes between.
-/

namespace LispDatum.Reader

/-- The characters after the last line feed of a text. -/
def lastLine (text : List Char) : List Char :=
  text.rtakeWhile (· != '\n')

/-- The diagnostic once the text that it is about comes behind another one. -/
def Diagnostic.behind (before : List Char) (diagnostic : Diagnostic) :
    Diagnostic :=
  { diagnostic with
    offset := before.length + diagnostic.offset
    line := diagnostic.line + before.count '\n'
    column :=
      if 1 < diagnostic.line then diagnostic.column
      else diagnostic.column + (lastLine before).length }

/-! ## The last line -/

theorem lastLine_of_notMem {text : List Char} (hfeed : '\n' ∉ text) :
    lastLine text = text := by
  rw [lastLine, List.rtakeWhile_eq_self_iff]
  intro char hmem
  rw [bne_iff_ne]
  rintro rfl
  exact hfeed hmem

/-- A last line that starts behind a line feed of the second text lies in it. -/
theorem lastLine_append_of_mem (before : List Char) {after : List Char}
    (hfeed : '\n' ∈ after) : lastLine (before ++ after) = lastLine after := by
  rw [lastLine, lastLine, List.rtakeWhile, List.rtakeWhile,
    List.reverse_append, List.takeWhile_append, if_neg]
  intro hlength
  have hall := List.takeWhile_eq_self_iff.1
    ((List.takeWhile_prefix _).eq_of_length hlength)
  have hstop := hall '\n' (List.mem_reverse.2 hfeed)
  contradiction

theorem lastLine_append_of_notMem (before : List Char) {after : List Char}
    (hfeed : '\n' ∉ after) :
    lastLine (before ++ after) = lastLine before ++ after := by
  have hall : ∀ char ∈ after.reverse, (char != '\n') = true := by
    intro char hmem
    rw [bne_iff_ne]
    rintro rfl
    exact hfeed (List.mem_reverse.1 hmem)
  rw [lastLine, lastLine, List.rtakeWhile, List.rtakeWhile,
    List.reverse_append, List.takeWhile_append_of_pos hall,
    List.reverse_append, List.reverse_reverse]

/-! ## Places behind another text -/

namespace Input

variable (before after : List Char) (source : String) (offset : Nat)

theorem before_natCast (input : Input) :
    input.before offset = input.text.take offset := by
  rw [Input.before, Input.bound, if_neg (by omega), Int.toNat_natCast]

theorem before_append :
    Input.before ⟨before ++ after, source⟩ (before.length + offset) =
      before ++ Input.before ⟨after, source⟩ offset := by
  rw [← Nat.cast_add, before_natCast, before_natCast,
    List.take_length_add_append]

theorem line_append :
    Input.line ⟨before ++ after, source⟩ (before.length + offset) =
      Input.line ⟨after, source⟩ offset + before.count '\n' := by
  rw [Input.line, Input.line, before_append, List.count_append]
  push_cast
  ring

/-- An offset lies on the first line as long as no line feed comes before it. -/
theorem one_lt_line_iff (input : Input) (offset : Int) :
    1 < input.line offset ↔ '\n' ∈ input.before offset := by
  rw [Input.line, ← List.count_pos_iff]
  omega

/-- A column is counted from the start of the last line before the offset. -/
theorem column_eq (input : Input) (offset : Int) :
    input.column offset =
      offset - (input.before offset).length +
        (lastLine (input.before offset)).length + 1 := by
  simp only [Input.column, Input.lastBreak, lastLine, List.rtakeWhile,
    List.length_reverse]
  ring

theorem column_append :
    Input.column ⟨before ++ after, source⟩ (before.length + offset) =
      if 1 < Input.line ⟨after, source⟩ offset then
        Input.column ⟨after, source⟩ offset
      else Input.column ⟨after, source⟩ offset + (lastLine before).length := by
  rw [column_eq, column_eq, before_append, List.length_append]
  by_cases hfeed : '\n' ∈ Input.before ⟨after, source⟩ offset
  · rw [if_pos ((one_lt_line_iff _ _).2 hfeed), lastLine_append_of_mem _ hfeed]
    push_cast
    ring
  · rw [if_neg (mt (one_lt_line_iff _ _).1 hfeed),
      lastLine_append_of_notMem _ hfeed, lastLine_of_notMem hfeed,
      List.length_append]
    push_cast
    ring

end Input

theorem Cause.diagnostic_append (cause : Cause) (before after : List Char)
    (source : String) (offset : Nat) :
    cause.diagnostic ⟨before ++ after, source⟩ (before.length + offset) =
      (cause.diagnostic ⟨after, source⟩ offset).behind before := by
  rw [Cause.diagnostic, Input.line_append, Input.column_append]
  rfl

theorem Cause.fault_append (cause : Cause) (before : List Char)
    {after : List Char} (source : String) {offset : Nat}
    (hoffset : offset ≤ after.length) :
    cause.fault ⟨before ++ after, source⟩ (before.length + offset) =
      .refused ((cause.diagnostic ⟨after, source⟩ offset).behind before) := by
  have hinside : ((before.length : Int) + offset).natAbs ≤
      (before ++ after).length := by
    rw [List.length_append]
    omega
  rw [cause.fault_of_natAbs_le hinside, cause.diagnostic_append]

/-- Behind another text a reader returns the same datum or the same finding as
at the beginning, and everything is further along by what lies before. -/
theorem runFrom_readDatum_append (before after : List Char) (source : String)
    (trace : List Event) :
    let fresh := readInput ⟨after, source⟩
    let later := readDatum.runFrom ⟨before ++ after, source⟩
      ⟨before.length, trace⟩
    later.2.position = before.length + fresh.2.position ∧
      ((∃ datum, fresh.1 = .ok datum ∧ later.1 = .ok datum) ∨
        ∃ diagnostic, fresh.1 = .error (.refused diagnostic) ∧
          later.1 = .error (.refused (diagnostic.behind before))) := by
  intro fresh later
  have hfresh : fresh = _ := readInput_eq ⟨after, source⟩
  have hlater : later = _ :=
    runFrom_readDatum ⟨before ++ after, source⟩ ⟨before.length, trace⟩
      (Int.natCast_nonneg _)
  -- the same characters lie ahead of both, hence the same reading
  rw [Int.toNat_natCast, List.drop_left] at hlater
  rw [hfresh, hlater]
  refine ⟨rfl, ?_⟩
  cases hreading : reading after with
  | accepted datum length => exact .inl ⟨datum, rfl, rfl⟩
  | refused cause distance length =>
    have hdistance := (reads_iff.2 hreading).distance_le
    have hhere : cause.fault ⟨after, source⟩ (0 + distance) =
        .refused (cause.diagnostic ⟨after, source⟩ distance) := by
      rw [zero_add, cause.fault_of_natAbs_le]
      exact hdistance
    have hbehind := cause.fault_append before source hdistance
    exact .inr ⟨_, congrArg Except.error hhere, congrArg Except.error hbehind⟩

end LispDatum.Reader
