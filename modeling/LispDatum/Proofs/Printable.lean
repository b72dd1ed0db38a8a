import LispDatum.Proofs.Positional

/-!
# Printable text and single lines

A text can be divided into lines at ten characters, of which the line feed is
only one.  None of them is printable, so a text of printable characters is a
single line wherever it is shown.  Quoted text is printable whatever it quotes:
an unprintable character leaves nothing but its escape, which is ASCII.
-/

namespace LispDatum.Text

open LispDatum.Numeral LispDatum.Unicode

/-- The characters at which a text is divided into lines. -/
def lineBoundaries : List Char :=
  ['\n', '\x0b', '\x0c', '\r', '\x1c', '\x1d', '\x1e', '\u0085', '\u2028',
    '\u2029']

def IsSingleLine (text : List Char) : Prop :=
  ∀ char ∈ text, char ∉ lineBoundaries

def IsPrintableText (text : List Char) : Prop :=
  ∀ char ∈ text, isPrintable char = true

-- decided along the text: the library can also go through all characters
instance (text : List Char) : Decidable (IsPrintableText text) :=
  List.decidableBAll (fun char => isPrintable char = true) text

@[simp]
theorem isSingleLine_cons {char : Char} {text : List Char} :
    IsSingleLine (char :: text) ↔ char ∉ lineBoundaries ∧ IsSingleLine text :=
  List.forall_mem_cons

@[simp]
theorem isSingleLine_append {left right : List Char} :
    IsSingleLine (left ++ right) ↔ IsSingleLine left ∧ IsSingleLine right :=
  List.forall_mem_append

@[simp]
theorem isPrintableText_append {left right : List Char} :
    IsPrintableText (left ++ right) ↔
      IsPrintableText left ∧ IsPrintableText right :=
  List.forall_mem_append

@[simp]
theorem isPrintableText_cons {char : Char} {text : List Char} :
    IsPrintableText (char :: text) ↔
      isPrintable char = true ∧ IsPrintableText text :=
  List.forall_mem_cons

@[simp]
theorem isPrintableText_nil : IsPrintableText [] := by
  decide

theorem IsPrintableText.isSingleLine {text : List Char}
    (hprintable : IsPrintableText text) : IsSingleLine text := by
  have hboundaries :
      lineBoundaries.all (fun char => !isPrintable char) = true := by
    decide +kernel
  intro char hmem hboundary
  have hunprintable := List.all_eq_true.1 hboundaries char hboundary
  rw [hprintable char hmem] at hunprintable
  exact Bool.false_ne_true hunprintable

/-- What is printable is no control character. -/
theorem le_toNat_of_isPrintable {char : Char}
    (hprintable : isPrintable char = true) : 0x20 ≤ char.toNat := by
  rw [isPrintable] at hprintable
  split at hprintable
  · rw [Bool.and_eq_true, decide_eq_true_eq] at hprintable
    exact hprintable.1
  · omega

/-! ## Codes and numerals -/

theorem isPrintable_digitChar {digit : Nat} (hdigit : digit < 16) :
    isPrintable digit.digitChar = true := by
  have hdigits : ∀ digit : Fin 16, isPrintable digit.val.digitChar = true := by
    decide
  exact hdigits ⟨digit, hdigit⟩

theorem isPrintableText_hexCode (width code : Nat) :
    IsPrintableText (hexCode width code) := by
  induction width generalizing code with
  | zero => exact isPrintableText_nil
  | succ width hind =>
    have hlast := isPrintable_digitChar (Nat.mod_lt code (by decide : 0 < 16))
    rw [hexCode, isPrintableText_append, isPrintableText_cons]
    exact ⟨hind (code / 16), hlast, isPrintableText_nil⟩

theorem isPrintableText_decimal (value : Int) :
    IsPrintableText (decimal value).toList := by
  have hdigits : IsPrintableText (decimalDigits value.natAbs) := by
    intro char hmem
    obtain ⟨digit, hdigit, rfl⟩ :=
      exists_digitChar_of_mem_toDigits (by decide) hmem
    exact isPrintable_digitChar (hdigit.trans (by decide))
  rw [decimal]
  split_ifs
  · rw [String.toList_ofList, isPrintableText_cons]
    exact ⟨by decide, hdigits⟩
  · rw [String.toList_ofList]
    exact hdigits

/-! ## Quoted text -/

theorem isPrintable_quoteMark (text : List Char) :
    isPrintable (quoteMark text) = true := by
  rw [quoteMark]
  split_ifs <;> decide

theorem isPrintableText_escapeCode (code : Nat) :
    IsPrintableText (escapeCode code) := by
  rw [escapeCode]
  split_ifs <;>
    simp only [isPrintableText_cons, isPrintableText_hexCode, and_true] <;>
    decide

theorem isPrintableText_quoteChar {mark : Char}
    (hmark : isPrintable mark = true) (char : Char) :
    IsPrintableText (quoteChar mark char) := by
  rw [quoteChar]
  split_ifs with hself hfeed hreturn htab hprintable
  · rcases hself with rfl | rfl
    · simp only [isPrintableText_cons, hmark, isPrintableText_nil, and_true]
      decide
    · decide
  · decide
  · decide
  · decide
  · simpa using hprintable
  · exact isPrintableText_escapeCode char.toNat

theorem isPrintableText_quoted (text : String) :
    IsPrintableText (quoted text).toList := by
  have hmark := isPrintable_quoteMark text.toList
  rw [quoted, String.toList_ofList, quoteChars]
  simp only [isPrintableText_append, isPrintableText_cons, hmark,
    isPrintableText_nil, and_true, true_and]
  intro char hmem
  obtain ⟨shown, -, hchar⟩ := List.mem_flatMap.1 hmem
  exact isPrintableText_quoteChar hmark shown char hchar

theorem isPrintableText_shown (text : String) :
    IsPrintableText (shown text).toList := by
  rw [shown]
  split_ifs
  · decide
  · exact isPrintableText_quoted text

end LispDatum.Text
