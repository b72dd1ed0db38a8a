import LispDatum.Proofs.AnyPosition
import LispDatum.Proofs.Printable

/-!
# Findings are told in one line

A message shows a character of the text only in quotes, and all its other parts
are fixed.  So it is printable, and what is rendered around it can be divided
into lines only by the name of the source.  A text of unstated origin always has
a verdict of one line, since the name that stands for its source is printable.
-/

namespace LispDatum.Reader

open LispDatum.Text LispDatum.Numeral LispDatum.Unicode

/-! ## Messages -/

theorem isPrintableText_shownChar (ahead : Option Char) :
    IsPrintableText (shownChar ahead).toList :=
  isPrintableText_shown _

theorem Kind.isPrintableText_text (kind : Kind) :
    IsPrintableText kind.text.toList := by
  cases kind <;> decide

theorem Radix.isPrintableText_digitName (radix : Radix) :
    IsPrintableText radix.digitName.toList := by
  cases radix <;> decide

theorem Cause.isPrintableText_message (cause : Cause) :
    IsPrintableText cause.message.toList := by
  cases cause with
  | noExpression ahead =>
    dsimp only [message]
    simp only [String.toList_append, isPrintableText_append,
      isPrintableText_shownChar]
    decide
  | openString => decide
  | openEscape => decide
  | badEscape char =>
    dsimp only [message]
    simp only [String.toList_append, isPrintableText_append,
      isPrintableText_shownChar]
    decide
  | badRadix ahead =>
    dsimp only [message]
    simp only [String.toList_append, isPrintableText_append,
      isPrintableText_shown]
    decide
  | noDigits radix =>
    dsimp only [message]
    simp only [String.toList_append, isPrintableText_append,
      radix.isPrintableText_digitName]
    decide
  | badDigit radix char =>
    dsimp only [message]
    simp only [String.toList_append, isPrintableText_append,
      isPrintableText_shownChar, radix.isPrintableText_digitName]
    decide

/-! ## What is rendered around a message -/

section Place

variable (cause : Cause) (input : Input) (offset : Int)

/-- Behind the name of the source everything that is rendered is printable. -/
theorem Cause.exists_render_eq :
    ∃ told, IsPrintableText told ∧
      (cause.diagnostic input offset).render.toList =
        '"' :: (input.source.toList ++ told) := by
  refine ⟨("\" (line " ++ decimal (input.line offset) ++ ", col " ++
    decimal (input.column offset) ++ "): " ++ cause.kind.text ++ ": " ++
    cause.message).toList, ?_, ?_⟩
  · simp only [String.toList_append, isPrintableText_append,
      isPrintableText_decimal, cause.kind.isPrintableText_text,
      cause.isPrintableText_message]
    decide
  · simp [Diagnostic.render, diagnostic]

theorem Cause.isSingleLine_render_iff :
    IsSingleLine (cause.diagnostic input offset).render.toList ↔
      IsSingleLine input.source.toList := by
  obtain ⟨told, htold, hrender⟩ := cause.exists_render_eq input offset
  have hquote : '"' ∉ lineBoundaries := by decide
  rw [hrender, isSingleLine_cons, isSingleLine_append,
    iff_true_intro htold.isSingleLine, and_true, and_iff_right hquote]

theorem Cause.isSingleLine_verdict_iff :
    IsSingleLine (verdict (some (cause.diagnostic input offset))).toList ↔
      IsSingleLine input.source.toList := by
  have hlead : IsPrintableText "No match: ".toList := by decide
  rw [verdict, String.toList_append, isSingleLine_append,
    and_iff_right hlead.isSingleLine, cause.isSingleLine_render_iff]

end Place

theorem isSingleLine_recognize {text line : String}
    (hline : recognize text = .ok line) : IsSingleLine line.toList := by
  have hfound : IsPrintableText (verdict none).toList := by decide
  have hsource : IsPrintableText "lisp".toList := by decide
  rw [recognize] at hline
  split at hline
  · rw [← Except.ok.inj hline]
    exact hfound.isSingleLine
  · next diagnostic hrefused =>
    obtain ⟨cause, offset, rfl⟩ := exists_cause_of_refused hrefused
    rw [← Except.ok.inj hline, cause.isSingleLine_verdict_iff]
    exact hsource.isSingleLine
  · cases hline

/-- From whatever position a text is refused, the message is printable, and the
rendered diagnostic is a single line exactly if the name of the source is.  The
verdict on a text of unstated origin is a single line. -/
theorem readDatum_refused_isSingleLine :
    (∀ (input : Input) (progress : Progress) (diagnostic : Diagnostic),
      (readDatum.runFrom input progress).1 = .error (.refused diagnostic) →
        IsPrintableText diagnostic.message.toList ∧
        (IsSingleLine diagnostic.render.toList ↔
          IsSingleLine input.source.toList) ∧
        (IsSingleLine (verdict (some diagnostic)).toList ↔
          IsSingleLine input.source.toList)) ∧
    ∀ text, ∃ line, recognize text = .ok line ∧ IsSingleLine line.toList := by
  constructor
  · intro input progress diagnostic hrefused
    obtain ⟨cause, offset, rfl⟩ := exists_cause_of_refused hrefused
    exact ⟨cause.isPrintableText_message,
      cause.isSingleLine_render_iff input offset,
      cause.isSingleLine_verdict_iff input offset⟩
  · intro text
    obtain ⟨line, hline⟩ := exists_recognize_eq text
    exact ⟨line, hline, isSingleLine_recognize hline⟩

/-- A line separator behind a backslash is told by its code, while a next-line
character in the name of the source is told as it is. -/
theorem readDatum_refused_lineSeparator :
    let input : Input := ⟨['"', '\\', '\u2028'], "a\u0085b"⟩
    let diagnostic := Cause.diagnostic (.badEscape '\u2028') input 2
    (readDatum.runFrom input {}).1 = .error (.refused diagnostic) ∧
      IsPrintableText diagnostic.message.toList ∧
      ¬ IsSingleLine diagnostic.render.toList := by
  intro input diagnostic
  have hrefused : (readDatum.runFrom input {}).1 =
      .error (.refused diagnostic) := rfl
  obtain ⟨hmessage, hrender, -⟩ :=
    readDatum_refused_isSingleLine.1 input {} diagnostic hrefused
  refine ⟨hrefused, hmessage, ?_⟩
  rw [hrender]
  intro hsource
  exact hsource '\u0085' (by decide) (by decide)

end LispDatum.Reader
