import LispDatum.Proofs.Printable
import LispDatum.Proofs.QuotedText

/-!
# Text that is shown in messages

What a message shows for a text tells the text, is printable, and can stand
between other words: the mark that opens it stands inside only as the second
character of an escape.  So whoever takes each backslash together with the
character behind it meets the mark alone at the end and nowhere before.  The
empty text is shown by words that no mark opens.
-/

namespace LispDatum.Text

open LispDatum.Numeral LispDatum.Unicode

/-- The mark is not met where each backslash is taken together with the
character behind it, and every other character alone. -/
inductive IsEscapedFor (mark : Char) : List Char → Prop where
  | nil : IsEscapedFor mark []
  | plain {char : Char} {rest : List Char} (hmark : char ≠ mark)
      (hbackslash : char ≠ '\\') (hrest : IsEscapedFor mark rest) :
      IsEscapedFor mark (char :: rest)
  | escape {char : Char} {rest : List Char} (hrest : IsEscapedFor mark rest) :
      IsEscapedFor mark ('\\' :: char :: rest)

namespace IsEscapedFor

variable {mark : Char}

theorem append {left right : List Char} (hleft : IsEscapedFor mark left)
    (hright : IsEscapedFor mark right) : IsEscapedFor mark (left ++ right) := by
  induction hleft with
  | nil => exact hright
  | plain hmark hbackslash _ hind => exact .plain hmark hbackslash hind
  | escape _ hind => exact .escape hind

theorem flatMap {write : Char → List Char}
    (hwrite : ∀ char, IsEscapedFor mark (write char)) (text : List Char) :
    IsEscapedFor mark (text.flatMap write) := by
  induction text with
  | nil => exact .nil
  | cons char text hind => exact (hwrite char).append hind

/-- Directly before the mark stands a backslash, and what stands before that is
made of whole escapes and other characters, so the backslash belongs to the
mark. -/
theorem exists_eq_append_backslash (hmark : mark ≠ '\\') {text : List Char}
    (htext : IsEscapedFor mark text) {before after : List Char}
    (hsplit : text = before ++ mark :: after) :
    ∃ earlier, before = earlier ++ ['\\'] ∧ IsEscapedFor mark earlier := by
  induction htext generalizing before with
  | nil => exact absurd hsplit.symm (List.append_ne_nil_of_right_ne_nil _ nofun)
  | @plain char rest hchar hbackslash _ hind =>
    cases before with
    | nil => exact absurd (List.cons.inj hsplit).1 hchar
    | cons first before =>
      obtain ⟨rfl, hrest⟩ := List.cons.inj hsplit
      obtain ⟨earlier, rfl, hearlier⟩ := hind hrest
      exact ⟨char :: earlier, rfl, .plain hchar hbackslash hearlier⟩
  | @escape char rest _ hind =>
    rcases before with _ | ⟨first, _ | ⟨second, before⟩⟩
    · exact absurd (List.cons.inj hsplit).1.symm hmark
    · obtain ⟨rfl, -⟩ := List.cons.inj hsplit
      exact ⟨[], rfl, .nil⟩
    · obtain ⟨rfl, hbehind⟩ := List.cons.inj hsplit
      obtain ⟨rfl, hrest⟩ := List.cons.inj hbehind
      obtain ⟨earlier, rfl, hearlier⟩ := hind hrest
      exact ⟨'\\' :: char :: earlier, rfl, .escape hearlier⟩

end IsEscapedFor

/-! ## Quoted text -/

theorem IsQuoteMark.ne_backslash {mark : Char} (hmark : IsQuoteMark mark) :
    mark ≠ '\\' := by
  rcases hmark with rfl | rfl <;> decide

theorem isEscapedFor_hexCode {mark : Char} (hmark : IsQuoteMark mark)
    (width code : Nat) : IsEscapedFor mark (hexCode width code) := by
  have hdigits : ∀ digit : Fin 16, digit.val.digitChar ≠ '\x27' ∧
      digit.val.digitChar ≠ '"' ∧ digit.val.digitChar ≠ '\\' := by
    decide
  induction width generalizing code with
  | zero => exact .nil
  | succ width hind =>
    obtain ⟨hsingle, hdouble, hbackslash⟩ :=
      hdigits ⟨code % 16, Nat.mod_lt code (by decide)⟩
    have hlast : (code % 16).digitChar ≠ mark := by
      rcases hmark with rfl | rfl
      · exact hsingle
      · exact hdouble
    rw [hexCode]
    exact (hind (code / 16)).append (.plain hlast hbackslash .nil)

theorem isEscapedFor_escapeCode {mark : Char} (hmark : IsQuoteMark mark)
    (code : Nat) : IsEscapedFor mark (escapeCode code) := by
  rw [escapeCode]
  split_ifs <;> exact .escape (isEscapedFor_hexCode hmark _ code)

theorem isEscapedFor_quoteChar {mark : Char} (hmark : IsQuoteMark mark)
    (char : Char) : IsEscapedFor mark (quoteChar mark char) := by
  rw [quoteChar]
  split_ifs with hself
  iterate 4 · exact .escape .nil
  · rw [not_or] at hself
    exact .plain hself.1 hself.2 .nil
  · exact isEscapedFor_escapeCode hmark char.toNat

/-- The text between the marks of a quoted text. -/
def quotedBody (text : String) : List Char :=
  text.toList.flatMap (quoteChar (quoteMark text.toList))

theorem toList_quoted (text : String) :
    (quoted text).toList =
      quoteMark text.toList ::
        (quotedBody text ++ [quoteMark text.toList]) := by
  rw [quoted, String.toList_ofList, quoteChars, quotedBody, List.cons_append]

/-- No mark opens the words for the empty text. -/
theorem quoted_ne_endOfInput (text : String) : quoted text ≠ "end of input" := by
  intro htext
  have hfirst := congrArg (fun shown => shown.toList.head?) htext
  have hmark : quoteMark text.toList = 'e' := by
    simpa [toList_quoted] using hfirst
  rcases isQuoteMark_quoteMark text.toList with hsame | hsame <;>
    rw [hsame] at hmark <;> exact absurd hmark (by decide)

theorem shown_injective : Function.Injective shown := by
  have hempty : shown "" = "end of input" := rfl
  intro left right htext
  by_cases hleft : left = "" <;> by_cases hright : right = ""
  · rw [hleft, hright]
  · rw [hleft, hempty, shown_of_ne hright] at htext
    exact absurd htext.symm (quoted_ne_endOfInput right)
  · rw [hright, hempty, shown_of_ne hleft] at htext
    exact absurd htext (quoted_ne_endOfInput left)
  · rw [shown_of_ne hleft, shown_of_ne hright] at htext
    exact quoted_injective htext

/-! ## Safety -/

/-- A text is shown between two marks of one kind.  Inside, the mark stands only
directly behind a backslash that belongs to its escape. -/
structure IsEnclosed (shown : List Char) (mark : Char) (body : List Char) :
    Prop where
  isQuoteMark : IsQuoteMark mark
  eq_append : shown = mark :: (body ++ [mark])
  isEscapedFor : IsEscapedFor mark body
  escapes_mark : ∀ before after, body = before ++ mark :: after →
    ∃ earlier, before = earlier ++ ['\\'] ∧ IsEscapedFor mark earlier

theorem isEnclosed_quoted (text : String) :
    IsEnclosed (quoted text).toList (quoteMark text.toList)
      (quotedBody text) := by
  have hmark := isQuoteMark_quoteMark text.toList
  have hbody : IsEscapedFor (quoteMark text.toList) (quotedBody text) :=
    .flatMap (isEscapedFor_quoteChar hmark) text.toList
  refine ⟨hmark, toList_quoted text, hbody, ?_⟩
  intro before after hsplit
  exact hbody.exists_eq_append_backslash hmark.ne_backslash hsplit

/-- What is shown tells the text, the empty one included, and is printable.  A
text that is not empty is enclosed by marks that do not end it early. -/
theorem shown_isSafe :
    Function.Injective shown ∧ shown "" = "end of input" ∧
    (∀ text, IsPrintableText (shown text).toList) ∧
    ∀ text, text ≠ "" →
      ∃ mark body, IsEnclosed (shown text).toList mark body := by
  refine ⟨shown_injective, rfl, isPrintableText_shown, ?_⟩
  intro text hne
  rw [shown_of_ne hne]
  exact ⟨_, _, isEnclosed_quoted text⟩

/-- A text with marks of both kinds is enclosed by apostrophes, of which the one
inside has its backslash. -/
theorem shown_isSafe_bothMarks :
    IsEnclosed (shown "\x27\"").toList '\x27' ['\\', '\x27', '"'] ∧
    shown "\x27\"" ≠ shown "\\\x27\"" := by
  obtain ⟨hinjective, -, -, henclosed⟩ := shown_isSafe
  refine ⟨?_, hinjective.ne (by decide)⟩
  obtain ⟨mark, body, hshown⟩ := henclosed "\x27\"" (by decide)
  have htext : (shown "\x27\"").toList =
      '\x27' :: (['\\', '\x27', '"'] ++ ['\x27']) := by
    decide
  obtain ⟨rfl, hbody⟩ := List.cons.inj (htext.symm.trans hshown.eq_append)
  obtain rfl := List.append_cancel_right hbody
  exact hshown

end LispDatum.Text
