import LispDatum.CommandLine.Settings
import Mathlib.Data.List.Infix
import Mathlib.Data.List.TakeWhile

/-!
# How flags are spelled

A flag that takes effect is spelled by two dashes and its word, which may be cut
short, or by a single dash and its letter, which may be repeated.  Only the
verbose flag has a letter.  However a flag is spelled, the argument is taken as
that flag and nothing else: no two words begin alike, and a repeated letter
asks for the same flag again.
-/

namespace LispDatum.CommandLine

open Argument

/-! ## Spellings -/

/-- The word of a flag, which stands behind two dashes. -/
def Flag.word : Flag → List Char
  | help => "help".toList
  | json => "json".toList
  | verbose => "verbose".toList

/-- The text spells the flag, by a beginning of its word or by letters. -/
def Flag.isSpelledBy (flag : Flag) (text : String) : Bool :=
  match text.toList with
  | '-' :: '-' :: start => !start.isEmpty && start.isPrefixOf flag.word
  | '-' :: letters =>
    flag == .verbose && !letters.isEmpty && letters.all (· == 'v')
  | _ => false

/-- The flags that take effect on what is printed. -/
def Flag.effective : List Flag := [.json, .verbose]

/-- The text spells a flag that takes effect. -/
def IsFlagText (text : String) : Prop :=
  ∃ flag ∈ Flag.effective, flag.isSpelledBy text = true

instance (text : String) : Decidable (IsFlagText text) :=
  List.decidableBEx _ Flag.effective

/-- Two dashes and the beginning of a word. -/
def longText (start : List Char) : String := String.ofList ('-' :: '-' :: start)

/-- A dash and one letter more than `count`. -/
def letterText (count : Nat) : String :=
  String.ofList ('-' :: List.replicate (count + 1) 'v')

theorem Flag.isSpelledBy_letterText (flag : Flag) (count : Nat) :
    flag.isSpelledBy (letterText count) = (flag == .verbose) := by
  rw [isSpelledBy, letterText, String.toList_ofList, List.replicate_succ]
  simp

/-- There are no other spellings than these. -/
theorem Flag.exists_of_isSpelledBy {flag : Flag} {text : String}
    (hspelled : flag.isSpelledBy text = true) :
    (∃ start ∈ flag.word.inits, start ≠ [] ∧ text = longText start) ∨
      flag = .verbose ∧ ∃ count, text = letterText count := by
  rw [isSpelledBy] at hspelled
  split at hspelled
  · next start htext =>
    rw [Bool.and_eq_true, List.isPrefixOf_iff_prefix, ← List.mem_inits]
      at hspelled
    refine .inl ⟨start, hspelled.2, by simpa using hspelled.1, ?_⟩
    rw [longText, ← htext, String.ofList_toList]
  · next letters hdash htext =>
    simp only [Bool.and_eq_true, beq_iff_eq, List.all_eq_true] at hspelled
    obtain ⟨⟨hflag, hne⟩, hletters⟩ := hspelled
    refine .inr ⟨hflag, letters.length - 1, ?_⟩
    have hlength : letters.length - 1 + 1 = letters.length := by
      apply Nat.sub_add_cancel
      exact List.length_pos_iff.2 (by simpa using hne)
    rw [letterText, hlength, ← List.eq_replicate_of_mem hletters, ← htext,
      String.ofList_toList]
  · contradiction

/-! ## The argument that a spelling is -/

/-- The beginning of a word fits no other word. -/
theorem classify_longText {flag : Flag} (heffective : flag ∈ Flag.effective)
    {start : List Char} (hstart : start ∈ flag.word.inits) (hne : start ≠ []) :
    classify (longText start) = .ok (.bare flag) ∧
      ∀ other ∈ Flag.effective,
        other.isSpelledBy (longText start) = (other == flag) := by
  have hwords : ∀ flag ∈ Flag.effective, ∀ start ∈ flag.word.inits,
      start ≠ [] → classify (longText start) = .ok (.bare flag) ∧
        ∀ other ∈ Flag.effective,
          other.isSpelledBy (longText start) = (other == flag) := by decide
  exact hwords flag heffective start hstart hne

theorem classify_letterText_zero :
    classify (letterText 0) = .ok (.bare .verbose) := by
  decide

/-- Behind the first letter the others are the text of the argument. -/
theorem classify_letterText_succ (count : Nat) :
    classify (letterText (count + 1)) =
      .ok (.shortWith .verbose (List.replicate (count + 1) 'v')) := by
  have htext : (letterText (count + 1)).toList =
      '-' :: 'v' :: List.replicate (count + 1) 'v' := by
    rw [letterText, String.toList_ofList, List.replicate_succ]
  have hspelling : Flag.ofSpelling? (letterText (count + 1)) = none := by
    have hshorter : ∀ entry ∈ Flag.vocabulary,
        entry.1.toList.take 3 ≠ ['-', 'v', 'v'] := by decide
    rw [Flag.ofSpelling?, List.lookup_eq_none_iff]
    intro entry hmem
    rw [bne_iff_ne]
    intro hsame
    apply hshorter entry hmem
    rw [← hsame, htext]
    rfl
  have hequals : ∀ char ∈ (letterText (count + 1)).toList,
      (char != '=') = true := by
    intro char hmem
    rw [htext, List.mem_cons, List.mem_cons] at hmem
    rcases hmem with rfl | rfl | hletter
    · rfl
    · rfl
    · rw [List.eq_of_mem_replicate hletter]
      rfl
  have hafter : afterEquals? (letterText (count + 1)).toList = none := by
    rw [afterEquals?, List.dropWhile_eq_nil_iff.2 hequals]
  have hbefore : String.ofList (beforeEquals (letterText (count + 1)).toList) =
      letterText (count + 1) := by
    rw [beforeEquals, List.takeWhile_eq_self_iff.2 hequals,
      String.ofList_toList]
  have hdash : (letterText (count + 1)).toList.head? = some '-' := by
    rw [htext, List.head?_cons]
  have hletter : Flag.ofLetter? 'v' = some .verbose := by decide
  have hshort : ofShort (letterText (count + 1)) 'v'
      (List.replicate (count + 1) 'v') =
        .shortWith .verbose (List.replicate (count + 1) 'v') := by
    rw [ofShort, hletter]
  rw [classify, if_neg (not_not.2 hdash), hspelling]
  simp only
  rw [ofOption, hbefore, hafter, hspelling]
  simp only [htext]
  rw [← hshort]
  rfl

/-- Letters behind a letter repeat its flag. -/
theorem letterFlags_replicate (count : Nat) :
    letterFlags .verbose (List.replicate (count + 1) 'v') =
      .ok (List.replicate (count + 2) .verbose) := by
  have hletter : Flag.ofLetter? 'v' = some .verbose := by decide
  induction count with
  | zero => rfl
  | succ count hind =>
    rw [List.replicate_succ, letterFlags, hletter]
    simp only [hind]
    rfl

/-! ## What a spelling does -/

/-- What is taken once a flag is taken, which ends the run of operands. -/
def Taken.turnOn (taken : Taken) (flag : Flag) : Taken :=
  { taken with
    run := taken.run.interrupt
    json := taken.json || flag == .json
    verbose := taken.verbose || flag == .verbose }

/-- What is taken once some texts that spell flags are taken. -/
def Taken.withFlags (taken : Taken) (texts : List String) : Taken :=
  { taken with
    run := if texts.isEmpty then taken.run else taken.run.interrupt
    json := taken.json || texts.any Flag.json.isSpelledBy
    verbose := taken.verbose || texts.any Flag.verbose.isSpelledBy }

theorem Taken.take_bare (taken : Taken) {flag : Flag}
    (heffective : flag ∈ Flag.effective) :
    taken.take (.bare flag) = .ok (taken.turnOn flag) := by
  simp only [Flag.effective, List.mem_cons, List.not_mem_nil, or_false]
    at heffective
  rcases heffective with rfl | rfl <;>
    simp [take, flags, takeFlag, turnOn]

/-- Taking a flag again changes nothing. -/
theorem Taken.foldlM_takeFlag_replicate (taken : Taken) (count : Nat) :
    (List.replicate (count + 1) Flag.verbose).foldlM takeFlag taken =
      .ok { taken with verbose := true } := by
  induction count generalizing taken with
  | zero => rfl
  | succ count hind =>
    rw [List.replicate_succ, List.foldlM_cons]
    exact hind { taken with verbose := true }

theorem Taken.take_letters (taken : Taken) (count : Nat) :
    taken.take (.shortWith .verbose (List.replicate (count + 1) 'v')) =
      .ok (taken.turnOn .verbose) := by
  simp [take, flags, letterFlags_replicate, foldlM_takeFlag_replicate, turnOn]

theorem Taken.withFlags_singleton (taken : Taken) {flag : Flag} {text : String}
    (hspelled : ∀ other ∈ Flag.effective,
      other.isSpelledBy text = (other == flag)) :
    taken.withFlags [text] = taken.turnOn flag := by
  have hjson := hspelled .json (by decide)
  have hverbose := hspelled .verbose (by decide)
  simp [withFlags, turnOn, hjson, hverbose, BEq.comm]

/-- A text that spells a flag is an argument that turns this flag on. -/
theorem exists_classify_take {text : String} (hflag : IsFlagText text) :
    ∃ argument, text ≠ "--" ∧ classify text = .ok argument ∧
      ∀ taken : Taken, taken.take argument = .ok (taken.withFlags [text]) := by
  obtain ⟨flag, heffective, hspelled⟩ := hflag
  rcases Flag.exists_of_isSpelledBy hspelled with
    ⟨start, hstart, hne, rfl⟩ | ⟨rfl, count, rfl⟩
  · obtain ⟨hclassify, hothers⟩ := classify_longText heffective hstart hne
    refine ⟨.bare flag, ?_, hclassify, ?_⟩
    · intro hseparator
      have hchars := congrArg String.toList hseparator
      simp [longText, hne] at hchars
    · intro taken
      rw [taken.withFlags_singleton hothers]
      exact taken.take_bare heffective
  · have hothers : ∀ other ∈ Flag.effective,
        other.isSpelledBy (letterText count) = (other == .verbose) :=
      fun other _ => other.isSpelledBy_letterText count
    have hseparator : letterText count ≠ "--" := by
      intro hsame
      have hchars := congrArg String.toList hsame
      simp [letterText, List.replicate_succ] at hchars
    cases count with
    | zero =>
      refine ⟨.bare .verbose, hseparator, classify_letterText_zero, ?_⟩
      intro taken
      rw [taken.withFlags_singleton hothers]
      exact taken.take_bare heffective
    | succ count =>
      refine ⟨_, hseparator, classify_letterText_succ count, ?_⟩
      intro taken
      rw [taken.withFlags_singleton hothers]
      exact taken.take_letters count

end LispDatum.CommandLine
