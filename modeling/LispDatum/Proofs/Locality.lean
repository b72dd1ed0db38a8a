import LispDatum.Proofs.Grammar

/-!
# What a datum depends on

The reader looks at characters that it does not pass over: the one that ends an
identifier or a numeral, and up to two behind a number sign.  Nevertheless a
datum is decided by the characters that spell it.  They can be cut off, and
anything can be put in place of what followed, as long as it does not continue
the datum; behind a string it may be anything at all.
-/

namespace LispDatum.Reader

/-- No name denotes a string. -/
theorem Denotes.tag_ne_string {name : List Char} {datum : Datum}
    (hdenotes : Denotes name datum) : datum.tag ≠ .string := by
  cases hdenotes <;> simp [Datum.tag]

/-- The characters that spell a datum read as that datum, whatever follows them
without continuing it. -/
theorem Reads.replace_rest {text : List Char} {datum : Datum} {length : Nat}
    (hreads : Reads text (.accepted datum length)) {rest : List Char}
    (hrest : datum.tag = .string ∨ StartsOutside isConstituent rest) :
    Reads (text.take length ++ rest) (.accepted datum length) := by
  -- the rest comes in place of the tail that each form leaves unread
  cases hreads with
  | identifier first others tail _ hfirst hothers htail hradix hdatum =>
    have houtside : StartsOutside isConstituent rest :=
      hrest.resolve_left hdatum.tag_ne_string
    rw [List.take_left' (List.length_cons ..)]
    exact .identifier first others rest datum hfirst hothers houtside hradix
      hdatum
  | string items tail =>
    -- the closing quote ends the string, so nothing is asked of the rest
    have hreads := Reads.string items rest
    rw [List.take_succ_cons, List.take_length_add_append]
    simpa using hreads
  | decimalNumeral first others tail hdigits htail =>
    have houtside : StartsOutside isDigit rest :=
      (hrest.resolve_left (by simp [Datum.tag])).mono
        fun _ => isConstituent_of_isDigit
    rw [List.take_left' (List.length_cons ..)]
    exact .decimalNumeral first others rest hdigits houtside
  | radixNumeral radix first others tail hdigits htail =>
    have houtside : StartsOutside isWordChar rest :=
      (hrest.resolve_left (by simp [Datum.tag])).of_isConstituent
    rw [List.take_succ_cons, List.take_succ_cons,
      List.take_left' (List.length_cons ..)]
    exact .radixNumeral radix first others rest hdigits houtside

/-- Reading returns the same datum, with the same end and the same trace, once
the text is cut at that end and continued by something else: by any text behind
a string, else by one that is empty or starts with a character that continues no
identifier. -/
theorem readInput_take_append (input : Input) (datum : Datum)
    (rest : List Char) (hread : (readInput input).1 = .ok datum)
    (hrest : datum.tag = .string ∨ StartsOutside isConstituent rest) :
    readInput { input with
      text := input.text.take (readInput input).2.position.toNat ++ rest } =
        readInput input := by
  obtain ⟨length, hreads, hstop⟩ := readInput_ok_iff.1 ⟨hread, rfl⟩
  have hother := reads_iff.1 (hreads.replace_rest hrest)
  rw [hstop, Int.toNat_natCast, readInput_eq, readInput_eq, hother,
    reads_iff.1 hreads]
  rfl

/-- Neither the parenthesis nor the digit behind it matters to the truth value
in front of them. -/
theorem readInput_truth_append :
    (readInput (.ofString "#t(1")).1 = .ok (.bool true) ∧
      StartsOutside isConstituent [' ', '#'] ∧
      readInput ⟨['#', 't', ' ', '#'], "lisp"⟩ =
        readInput (.ofString "#t(1") := by
  have hread : (readInput (.ofString "#t(1")).1 = .ok (.bool true) := by rfl
  have hrest : StartsOutside isConstituent [' ', '#'] :=
    startsOutside_cons.2 (by decide)
  exact ⟨hread, hrest,
    readInput_take_append (.ofString "#t(1") (.bool true) [' ', '#'] hread
      (.inr hrest)⟩

end LispDatum.Reader
