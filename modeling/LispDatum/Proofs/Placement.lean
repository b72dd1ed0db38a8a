import LispDatum.Proofs.FlagSpelling
import LispDatum.Proofs.Response

/-!
# Where flags and operands may stand

The arguments are classified each by itself and then taken one after the other,
so what a command line asks for follows from what single arguments do.  A flag
sets its switch and closes a run of operands that is underway; an operand opens
the first run and is lost in it, and is not recognized in a later one.  Hence
flags may stand on either side of one run in any order, but not inside it.
Behind the separator nothing is classified any more, so any text can be asked
for there.
-/

namespace LispDatum.CommandLine

open Argument

/-- All texts spell flags that take effect. -/
def AreFlags (texts : List String) : Prop :=
  ∀ text ∈ texts, IsFlagText text

/-- No text starts with a dash. -/
def AreOperands (texts : List String) : Prop :=
  ∀ text ∈ texts, text.toList.head? ≠ some '-'

instance (texts : List String) : Decidable (AreFlags texts) :=
  List.decidableBAll IsFlagText texts

instance (texts : List String) : Decidable (AreOperands texts) :=
  inferInstanceAs (Decidable (∀ text ∈ texts, text.toList.head? ≠ some '-'))

/-- Taking the arguments that some texts are leads from one state to another;
none of them is the separator or wrong by itself. -/
inductive Takes : List String → Taken → Taken → Prop where
  | nil (taken : Taken) : Takes [] taken taken
  | cons {text : String} {others : List String} {argument : Argument}
      {taken next later : Taken} (hseparator : text ≠ "--")
      (hclassify : classify text = .ok argument)
      (htake : taken.take argument = .ok next)
      (hothers : Takes others next later) : Takes (text :: others) taken later

/-! ## Taking some texts and then others -/

section Takes

variable {texts others : List String} {taken next later : Taken}

theorem Takes.append (htexts : Takes texts taken next)
    (hothers : Takes others next later) :
    Takes (texts ++ others) taken later := by
  induction htexts with
  | nil taken => exact hothers
  | cons hseparator hclassify htake _ hind =>
    exact .cons hseparator hclassify htake (hind hothers)

/-- Texts that can be taken are classified whatever follows them, and taken in
front of it. -/
theorem Takes.exists_arguments (htexts : Takes texts taken later) :
    ∃ arguments, arguments.foldlM Taken.take taken = .ok later ∧
      ∀ rest behind, classifyAll rest = .ok behind →
        classifyAll (texts ++ rest) = .ok (arguments ++ behind) := by
  induction htexts with
  | nil taken => exact ⟨[], rfl, fun rest behind hrest => hrest⟩
  | @cons text others argument taken next later hseparator hclassify htake _
      hind =>
    obtain ⟨arguments, hfold, hall⟩ := hind
    refine ⟨argument :: arguments, ?_, ?_⟩
    · rw [List.foldlM_cons, htake]
      exact hfold
    · intro rest behind hrest
      rw [List.cons_append, classifyAll, if_neg hseparator, hclassify]
      simp only [hall rest behind hrest]
      rfl

/-- What a command line asks for is what has been taken at its end. -/
theorem Takes.ofArguments_append (htexts : Takes texts {} taken)
    {rest : List String} {behind : List Argument}
    (hrest : classifyAll rest = .ok behind)
    (htake : behind.foldlM Taken.take taken = .ok later) :
    Settings.ofArguments (texts ++ rest) = later.settings := by
  obtain ⟨arguments, hfold, hall⟩ := htexts.exists_arguments
  have htaken : (arguments ++ behind).foldlM Taken.take {} = .ok later := by
    rw [List.foldlM_append, hfold]
    exact htake
  rw [Settings.ofArguments, hall rest behind hrest]
  simp only [Except.mapError, bind, Except.bind, htaken]

theorem Takes.ofArguments (htexts : Takes texts {} later) :
    Settings.ofArguments texts = later.settings := by
  have hnone : classifyAll [] = .ok [] := rfl
  have hall := htexts.ofArguments_append hnone rfl
  rwa [List.append_nil] at hall

end Takes

/-! ## Flags -/

theorem Taken.withFlags_nil (taken : Taken) : taken.withFlags [] = taken := by
  simp [withFlags]

theorem Taken.withFlags_cons (taken : Taken) (text : String)
    (others : List String) :
    (taken.withFlags [text]).withFlags others =
      taken.withFlags (text :: others) := by
  have hinterrupt (run : Run) : run.interrupt.interrupt = run.interrupt := by
    cases run <;> rfl
  cases others <;> simp [withFlags, hinterrupt, Bool.or_assoc]

theorem takes_flags {texts : List String} (hflags : AreFlags texts)
    (taken : Taken) :
    Takes texts taken (taken.withFlags texts) := by
  induction texts generalizing taken with
  | nil =>
    rw [taken.withFlags_nil]
    exact .nil taken
  | cons text others hind =>
    obtain ⟨argument, hseparator, hclassify, htake⟩ :=
      exists_classify_take (hflags text List.mem_cons_self)
    rw [← taken.withFlags_cons]
    apply Takes.cons hseparator hclassify (htake taken)
    exact hind (fun other hmem => hflags other (List.mem_cons_of_mem _ hmem)) _

/-! ## Operands -/

theorem takes_operands {texts : List String} (hoperands : AreOperands texts)
    (taken : Taken) :
    Takes texts taken (texts.foldl Taken.takeOperand taken) := by
  induction texts generalizing taken with
  | nil => exact .nil taken
  | cons text others hind =>
    have hoperand := hoperands text List.mem_cons_self
    have hclassify : classify text = .ok (.operand text) := by
      exact if_pos hoperand
    have hseparator : text ≠ "--" := by
      rintro rfl
      exact hoperand rfl
    apply Takes.cons hseparator hclassify rfl
    exact hind (fun other hmem => hoperands other (List.mem_cons_of_mem _ hmem))
      _

/-- The first operand of all is the expression, and the others of its run are
lost. -/
theorem Taken.foldl_takeOperand_of_awaited {taken : Taken}
    (hrun : taken.run = .awaited) (first : String) (others : List String) :
    (first :: others).foldl takeOperand taken =
      { taken with run := .underway first } := by
  have hlost : ∀ others : List String,
      others.foldl takeOperand { taken with run := .underway first } =
        { taken with run := .underway first } := by
    intro others
    induction others with
    | nil => rfl
    | cons other others hind => exact hind
  rw [List.foldl_cons, takeOperand, hrun]
  exact hlost others

/-- Operands behind the end of the run are not recognized. -/
theorem Taken.foldl_takeOperand_of_ended {taken : Taken} {expression : String}
    (hrun : taken.run = .ended expression) (texts : List String) :
    texts.foldl takeOperand taken =
      { taken with unrecognized := taken.unrecognized ++ texts } := by
  induction texts generalizing taken with
  | nil => simp
  | cons text others hind =>
    have hrejected : taken.takeOperand text = taken.reject text := by
      rw [takeOperand, hrun]
    have hended : (taken.reject text).run = .ended expression := hrun
    rw [List.foldl_cons, hrejected, hind hended]
    simp [reject]

/-! ## Behind the separator -/

/-- The settings that ask for an expression with some flags. -/
def Settings.asked (expression : String) (flags : List String) : Settings where
  expression := expression
  json := flags.any Flag.json.isSpelledBy
  verbose := flags.any Flag.verbose.isSpelledBy

/-- Flags in front of all operands leave the run awaited. -/
theorem Taken.run_withFlags_of_awaited {taken : Taken}
    (hrun : taken.run = .awaited) (flags : List String) :
    (taken.withFlags flags).run = .awaited := by
  rw [withFlags, hrun]
  exact ite_self _

theorem ofArguments_separator {flags : List String} (hflags : AreFlags flags)
    (expression : String) (others : List String) :
    Settings.ofArguments (flags ++ "--" :: expression :: others) =
      .ok (.asked expression flags) := by
  have hclassify : classifyAll ("--" :: expression :: others) =
      .ok (.separator :: (expression :: others).map .operand) := by
    rw [classifyAll, if_pos rfl]
  have hrun : (Taken.withFlags {} flags).run = .awaited :=
    Taken.run_withFlags_of_awaited rfl flags
  have hseparator : (Taken.withFlags {} flags).takeSeparator =
      Taken.withFlags {} flags := by
    rw [Taken.takeSeparator, hrun]
  have hoperands (texts : List String) (taken : Taken) :
      (texts.map Argument.operand).foldlM Taken.take taken =
        .ok (texts.foldl Taken.takeOperand taken) := by
    induction texts generalizing taken with
    | nil => rfl
    | cons text texts hind => exact hind (taken.takeOperand text)
  have htake :
      (Argument.separator :: (expression :: others).map .operand).foldlM
          Taken.take (Taken.withFlags {} flags) =
        .ok { Taken.withFlags {} flags with run := .underway expression } := by
    rw [List.foldlM_cons, Taken.take, hseparator,
      ← Taken.foldl_takeOperand_of_awaited hrun expression others]
    exact hoperands (expression :: others) _
  rw [(takes_flags hflags {}).ofArguments_append hclassify htake]
  simp [Taken.settings, Run.expression?, Taken.withFlags, Settings.asked]

/-- An expression that is asked for is read, so the command line was no
misuse. -/
theorem Settings.exitCode_run_ne_two (settings : Settings) :
    settings.run.exitCode ≠ 2 := by
  cases hresult : (Reader.readInput (.ofString settings.expression)).1 with
  | ok datum =>
    rw [(run_of_accepted hresult).2.1]
    decide
  | error fault =>
    obtain ⟨line, -, hexit, -⟩ := run_of_fault hresult
    rw [hexit]
    decide

/-- Behind the separator any text is the expression, whatever it looks like and
whatever follows it. -/
theorem respond_separator {flags : List String} (hflags : AreFlags flags)
    (expression : String) (others : List String) :
    Settings.ofArguments (flags ++ "--" :: expression :: others) =
        .ok (.asked expression flags) ∧
      respond (flags ++ "--" :: expression :: others) =
        (Settings.asked expression flags).run ∧
      (respond (flags ++ "--" :: expression :: others)).exitCode ≠ 2 := by
  have hsettings := ofArguments_separator hflags expression others
  rw [respond_of_settings hsettings]
  exact ⟨hsettings, rfl, Settings.exitCode_run_ne_two _⟩

/-- The separator itself is asked for, and a second one is ignored, as is what
looks like a flag. -/
theorem respond_separator_twice :
    AreFlags ["--js", "-vv"] ∧
      respond ["--js", "-vv", "--", "--", "--", "--help"] =
        (Settings.mk "--" true true).run := by
  have hflags : AreFlags ["--js", "-vv"] := by decide
  have hasked : Settings.asked "--" ["--js", "-vv"] = ⟨"--", true, true⟩ := by
    decide
  refine ⟨hflags, ?_⟩
  rw [← hasked]
  exact (respond_separator hflags "--" ["--", "--help"]).2.1

/-! ## Around a run of operands -/

/-- Only which flags are spelled counts, not how often, how and where. -/
theorem Settings.asked_congr (expression : String) {flags others : List String}
    (hsame : ∀ flag ∈ Flag.effective,
      (∃ text ∈ flags, flag.isSpelledBy text = true) ↔
        ∃ text ∈ others, flag.isSpelledBy text = true) :
    asked expression flags = asked expression others := by
  have hany : ∀ flag ∈ Flag.effective,
      flags.any flag.isSpelledBy = others.any flag.isSpelledBy := by
    intro flag heffective
    rw [Bool.eq_iff_iff, List.any_eq_true, List.any_eq_true]
    exact hsame flag heffective
  rw [asked, asked, hany .json (by decide), hany .verbose (by decide)]

section Run

variable {before after others : List String} {first : String}

/-- Flags and then operands leave the first run underway. -/
theorem takes_run (hbefore : AreFlags before)
    (hoperands : AreOperands (first :: others)) :
    Takes (before ++ first :: others) {}
      { Taken.withFlags {} before with run := .underway first } := by
  have hrun : (Taken.withFlags {} before).run = .awaited :=
    Taken.run_withFlags_of_awaited rfl before
  rw [← Taken.foldl_takeOperand_of_awaited hrun first others]
  exact (takes_flags hbefore {}).append (takes_operands hoperands _)

/-- Flags on both sides of one run ask for its first member. -/
theorem ofArguments_run (hbefore : AreFlags before)
    (hoperands : AreOperands (first :: others)) (hafter : AreFlags after) :
    Settings.ofArguments (before ++ first :: others ++ after) =
      .ok (.asked first (before ++ after)) := by
  have htexts := (takes_run hbefore hoperands).append (takes_flags hafter _)
  rw [htexts.ofArguments]
  cases after <;>
    simp [Taken.settings, Run.expression?, Run.interrupt, Taken.withFlags,
      Settings.asked]

/-- Operands that a flag divides from the first run are what is wrong. -/
theorem ofArguments_two_runs {between rest : List String} {second : String}
    (hbefore : AreFlags before) (hoperands : AreOperands (first :: others))
    (hbetween : AreFlags between) (hne : between ≠ [])
    (hsecond : AreOperands (second :: rest)) (hafter : AreFlags after) :
    Settings.ofArguments
        (before ++ first :: others ++ between ++ second :: rest ++ after) =
      .error (.misuse (.unrecognized (second :: rest))) := by
  have hended : (Taken.withFlags { Taken.withFlags {} before with
      run := .underway first } between).run = .ended first := by
    simp [Taken.withFlags, hne, Run.interrupt]
  have hfirst := (takes_run hbefore hoperands).append (takes_flags hbetween _)
  have hboth := hfirst.append (takes_operands hsecond _)
  rw [Taken.foldl_takeOperand_of_ended hended] at hboth
  rw [(hboth.append (takes_flags hafter _)).ofArguments]
  cases after <;>
    simp [Taken.settings, Run.expression?, Run.interrupt, Taken.withFlags, hne]

/-- What is wrong with the arguments is told behind the usage. -/
theorem respond_of_unrecognized {arguments texts : List String}
    (hmisuse : Settings.ofArguments arguments =
      .error (.misuse (.unrecognized texts))) :
    respond arguments =
      ⟨2, "", usage ++ asLine ("lispread: error: unrecognized arguments: " ++
        " ".intercalate texts)⟩ := by
  have hlead : "lispread: error: " ++ "unrecognized arguments: " =
      "lispread: error: unrecognized arguments: " := by decide
  have hresponse : respond arguments =
      ⟨2, "", usage ++ asLine ("lispread: error: " ++
        (UsageError.unrecognized texts).message)⟩ := by
    simp only [respond, hmisuse]
  rw [hresponse, ← hlead, String.append_assoc]
  rfl

/-- Around one run of operands the flags can be placed, ordered and repeated at
will, and all operands but the first can be exchanged.  A second run, divided
from the first by a flag, is a misuse that tells its operands. -/
theorem respond_run (hbefore : AreFlags before)
    (hoperands : AreOperands (first :: others)) (hafter : AreFlags after) :
    respond (before ++ first :: others ++ after) =
        (Settings.asked first (before ++ after)).run ∧
    (∀ left ignored right, AreFlags left → AreOperands ignored →
      AreFlags right →
      (∀ flag ∈ Flag.effective,
        (∃ text ∈ left ++ right, flag.isSpelledBy text = true) ↔
          ∃ text ∈ before ++ after, flag.isSpelledBy text = true) →
      respond (left ++ first :: ignored ++ right) =
        respond (before ++ first :: others ++ after)) ∧
    ∀ between second rest, AreFlags between → between ≠ [] →
      AreOperands (second :: rest) →
      respond
          (before ++ first :: others ++ between ++ second :: rest ++ after) =
        ⟨2, "", usage ++ asLine ("lispread: error: unrecognized arguments: " ++
          " ".intercalate (second :: rest))⟩ := by
  have hrun :=
    respond_of_settings (ofArguments_run hbefore hoperands hafter)
  refine ⟨hrun, ?_, ?_⟩
  · intro left ignored right hleft hignored hright hsame
    have hothers : AreOperands (first :: ignored) := by
      intro text hmem
      rcases List.mem_cons.1 hmem with rfl | hlater
      · exact hoperands text List.mem_cons_self
      · exact hignored text hlater
    rw [hrun, respond_of_settings (ofArguments_run hleft hothers hright),
      Settings.asked_congr first hsame]
  · intro between second rest hbetween hne hsecond
    exact respond_of_unrecognized
      (ofArguments_two_runs hbefore hoperands hbetween hne hsecond hafter)

/-- Two flags are moved in front of the run and spelled otherwise, and another
run is told as it is given. -/
theorem respond_run_moved :
    AreFlags ["--js"] ∧ AreOperands ["foo", ""] ∧ AreFlags ["-vv"] ∧
      respond ["--js", "foo", "", "-vv"] = (Settings.mk "foo" true true).run ∧
      respond ["-v", "--json", "--verb", "foo"] =
        respond ["--js", "foo", "", "-vv"] ∧
      respond ["--js", "foo", "", "--verbose", "bar", "baz", "-vv"] =
        ⟨2, "", usage ++
          "lispread: error: unrecognized arguments: bar baz\n"⟩ := by
  have hbefore : AreFlags ["--js"] := by decide
  have hoperands : AreOperands ["foo", ""] := by decide
  have hafter : AreFlags ["-vv"] := by decide
  obtain ⟨hrun, hmoved, hsecond⟩ := respond_run hbefore hoperands hafter
  have hasked : Settings.asked "foo" ["--js", "-vv"] = ⟨"foo", true, true⟩ := by
    decide
  refine ⟨hbefore, hoperands, hafter, ?_, ?_, ?_⟩
  · rw [← hasked]
    exact hrun
  · exact hmoved ["-v", "--json", "--verb"] [] [] (by decide) (by decide)
      (by decide) (by decide)
  · exact hsecond ["--verbose"] "bar" ["baz"] (by decide) (by decide)
      (by decide)

end Run

end LispDatum.CommandLine
