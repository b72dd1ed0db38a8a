import LispDatum.CommandLine.Response
import LispDatum.Proofs.RoundTrip
import LispDatum.Proofs.SingleLine

/-!
# What a command line is answered

The command reads the expression that it is asked for as the reader does by
itself, and prints the verdict.  A datum is written behind the verdict if that
was asked for, and nothing is ever written behind a refusal.  All that is
printed in between is free of line feeds, because messages are printable and
JSON text has no control characters; so the line feeds of an answer are just
those that end its lines.
-/

namespace LispDatum.Reader

open LispDatum.Text

theorem isPrintableText_name (tag : Tag) : IsPrintableText tag.name.toList := by
  cases tag <;> decide

theorem Reading.isPrintableText_render_event (reading : Reading)
    (position : Int) :
    IsPrintableText (reading.event position).render.toList := by
  cases reading with
  | accepted datum length =>
    dsimp only [event, Event.render]
    simp only [String.toList_append, isPrintableText_append,
      isPrintableText_decimal, isPrintableText_name]
    decide
  | refused cause distance length =>
    dsimp only [event, Event.render]
    simp only [String.toList_append, isPrintableText_append,
      isPrintableText_decimal, cause.kind.isPrintableText_text,
      cause.isPrintableText_message]
    decide

end LispDatum.Reader

namespace LispDatum.CommandLine

open LispDatum.Reader LispDatum.Text LispDatum.Json

/-! ## Line feeds -/

theorem count_asLine {text : String} (hfeed : '\n' ∉ text.toList) :
    (asLine text).toList.count '\n' = 1 := by
  rw [asLine, String.toList_append, List.count_append,
    List.count_eq_zero_of_not_mem hfeed]
  rfl

theorem lineFeed_notMem_of_isSingleLine {text : List Char}
    (hsingle : IsSingleLine text) : '\n' ∉ text :=
  fun hmem => hsingle '\n' hmem (by decide)

theorem lineFeed_notMem_jsonText (datum : Datum) :
    '\n' ∉ datum.jsonText.toList := by
  intro hmem
  have hcontrol := datum.hasNoControls_jsonText '\n' hmem
  revert hcontrol
  decide

theorem count_asLine_recognize {text line : String}
    (hline : recognize text = .ok line) :
    (asLine line).toList.count '\n' = 1 :=
  count_asLine (lineFeed_notMem_of_isSingleLine (isSingleLine_recognize hline))

/-! ## The answer to an expression -/

/-- What the answer to a request for an expression is. -/
structure Settings.IsAnsweredBy (settings : Settings) (response : Response) :
    Prop where
  /-- For a datum it is the verdict, and the datum if that was asked for. -/
  accepted : ∀ datum,
    (readInput (.ofString settings.expression)).1 = .ok datum →
      ∃ line, recognize settings.expression = .ok line ∧
        response.exitCode = 0 ∧
        response.stdout = asLine line ++
          (if settings.json then asLine datum.jsonText else "") ∧
        response.stdout.toList.count '\n' = if settings.json then 2 else 1
  /-- For a refusal it is the verdict alone. -/
  refused : ∀ fault,
    (readInput (.ofString settings.expression)).1 = .error fault →
      ∃ line, recognize settings.expression = .ok line ∧
        response.exitCode = 1 ∧
        response.stdout = asLine line ∧
        response.stdout.toList.count '\n' = 1
  /-- The one record of the trace is told only if that was asked for. -/
  traced : ∃ event,
    (readInput (.ofString settings.expression)).2.trace = [event] ∧
      response.stderr = (if settings.verbose then
        asLine ("DEBUG lispread.parser: " ++ event.render) else "") ∧
      response.stderr.toList.count '\n' = if settings.verbose then 1 else 0

section Run

variable {settings : Settings}

theorem Settings.run_of_accepted {datum : Datum}
    (haccepted : (readInput (.ofString settings.expression)).1 = .ok datum) :
    recognize settings.expression = .ok (verdict none) ∧
      settings.run.exitCode = 0 ∧
      settings.run.stdout = asLine (verdict none) ++
        (if settings.json then asLine datum.jsonText else "") := by
  simp only [recognize, run, haccepted, and_self]

theorem Settings.run_of_refused {diagnostic : Diagnostic}
    (hrefused : (readInput (.ofString settings.expression)).1 =
      .error (.refused diagnostic)) :
    recognize settings.expression = .ok (verdict (some diagnostic)) ∧
      settings.run.exitCode = 1 ∧
      settings.run.stdout = asLine (verdict (some diagnostic)) := by
  simp only [recognize, run, hrefused, and_self]

/-- A text is never faulted otherwise than by being refused. -/
theorem Settings.run_of_fault {fault : Fault}
    (hfault : (readInput (.ofString settings.expression)).1 = .error fault) :
    ∃ line, recognize settings.expression = .ok line ∧
      settings.run.exitCode = 1 ∧ settings.run.stdout = asLine line := by
  rcases readInput_ok_or_refused (.ofString settings.expression) with
    ⟨datum, haccepted⟩ | ⟨diagnostic, hrefused⟩
  · rw [haccepted] at hfault
    contradiction
  · exact ⟨_, run_of_refused hrefused⟩

theorem Settings.stderr_run {event : Event}
    (htrace : (readInput (.ofString settings.expression)).2.trace = [event]) :
    settings.run.stderr = if settings.verbose then
      asLine ("DEBUG lispread.parser: " ++ event.render) else "" := by
  have htext : traceText [event] =
      asLine ("DEBUG lispread.parser: " ++ event.render) := by
    rw [traceText, List.map_singleton, String.join_cons, String.join_nil,
      String.append_empty]
  rcases readInput_ok_or_refused (.ofString settings.expression) with
    ⟨datum, haccepted⟩ | ⟨diagnostic, hrefused⟩
  · simp only [run, haccepted, htrace, htext]
  · simp only [run, hrefused, htrace, htext]

theorem Settings.exists_trace_eq (settings : Settings) :
    ∃ event, (readInput (.ofString settings.expression)).2.trace = [event] ∧
      IsPrintableText event.render.toList := by
  rw [readInput_eq]
  exact ⟨_, rfl, Reading.isPrintableText_render_event _ 0⟩

theorem Settings.isAnsweredBy_run (settings : Settings) :
    settings.IsAnsweredBy settings.run where
  accepted := by
    intro datum haccepted
    obtain ⟨hline, hexit, hstdout⟩ := run_of_accepted haccepted
    refine ⟨_, hline, hexit, hstdout, ?_⟩
    rw [hstdout, String.toList_append, List.count_append,
      count_asLine_recognize hline]
    cases settings.json with
    | false => rfl
    | true =>
      rw [if_pos rfl, if_pos rfl, count_asLine (lineFeed_notMem_jsonText datum)]
  refused := by
    intro fault hfault
    obtain ⟨line, hline, hexit, hstdout⟩ := run_of_fault hfault
    refine ⟨line, hline, hexit, hstdout, ?_⟩
    rw [hstdout, count_asLine_recognize hline]
  traced := by
    obtain ⟨event, htrace, hprintable⟩ := settings.exists_trace_eq
    have hstderr := stderr_run htrace
    refine ⟨event, htrace, hstderr, ?_⟩
    have hlead : IsPrintableText "DEBUG lispread.parser: ".toList := by decide
    have hrecord : IsPrintableText
        ("DEBUG lispread.parser: " ++ event.render).toList := by
      rw [String.toList_append, isPrintableText_append]
      exact ⟨hlead, hprintable⟩
    rw [hstderr]
    cases settings.verbose with
    | false => rfl
    | true =>
      rw [if_pos rfl, if_pos rfl]
      exact count_asLine (lineFeed_notMem_of_isSingleLine hrecord.isSingleLine)

end Run

/-! ## The answer to a command line -/

theorem respond_of_settings {arguments : List String} {settings : Settings}
    (hsettings : Settings.ofArguments arguments = .ok settings) :
    respond arguments = settings.run := by
  simp only [respond, hsettings]

theorem exitCode_respond_eq_one_iff (arguments : List String) :
    (respond arguments).exitCode = 1 ↔ ∃ settings fault,
      Settings.ofArguments arguments = .ok settings ∧
        (readInput (.ofString settings.expression)).1 = .error fault := by
  cases hsettings : Settings.ofArguments arguments with
  | ok settings =>
    rw [respond_of_settings hsettings]
    cases hresult : (readInput (.ofString settings.expression)).1 with
    | ok datum =>
      simp [(Settings.run_of_accepted hresult).2.1, hresult]
    | error fault =>
      obtain ⟨line, -, hexit, -⟩ := Settings.run_of_fault hresult
      simp [hexit, hresult]
  | error stop => cases stop <;> simp [respond, hsettings]

/-- A command line that asks for an expression is answered as the reader reads
it, a misuse is answered with status two and no output, and status one means
that an expression was asked for and the text is refused. -/
theorem respond_isAnswered (arguments : List String) :
    (∀ settings, Settings.ofArguments arguments = .ok settings →
      settings.IsAnsweredBy (respond arguments)) ∧
    (∀ error, Settings.ofArguments arguments = .error (.misuse error) →
      (respond arguments).exitCode = 2 ∧ (respond arguments).stdout = "") ∧
    ((respond arguments).exitCode = 1 ↔ ∃ settings fault,
      Settings.ofArguments arguments = .ok settings ∧
        (readInput (.ofString settings.expression)).1 = .error fault) := by
  refine ⟨?_, ?_, exitCode_respond_eq_one_iff arguments⟩
  · intro settings hsettings
    rw [respond_of_settings hsettings]
    exact settings.isAnsweredBy_run
  · intro error hmisuse
    simp only [respond, hmisuse, and_self]

/-- A numeral with its value in JSON and its record. -/
theorem respond_numeral :
    (respond ["#xFF", "--json", "-v"]).exitCode = 0 ∧
    (respond ["#xFF", "--json", "-v"]).stdout =
      "Found value\n\x7b\"type\":\"number\",\"value\":255\x7d\n" ∧
    (respond ["#xFF", "--json", "-v"]).stderr =
      "DEBUG lispread.parser: parsed number ending at offset 4\n" := by
  have hsettings : Settings.ofArguments ["#xFF", "--json", "-v"] =
      .ok ⟨"#xFF", true, true⟩ := by decide
  have haccepted : (readInput (.ofString "#xFF")).1 = .ok (.number 255) := by
    decide
  have hrecord : (readInput (.ofString "#xFF")).2.trace =
      [.accepted .number 4] := by decide
  have hanswered := (respond_isAnswered _).1 _ hsettings
  obtain ⟨line, hline, hexit, hstdout, -⟩ := hanswered.accepted _ haccepted
  obtain ⟨event, htrace, hstderr, -⟩ := hanswered.traced
  have hfound : recognize "#xFF" = .ok (verdict none) := by
    simp only [recognize, haccepted]
  have hverdict := Except.ok.inj (hfound.symm.trans hline)
  have hevent := List.singleton_inj.1 (hrecord.symm.trans htrace)
  refine ⟨hexit, ?_, ?_⟩
  · rw [hstdout, ← hverdict]
    decide
  · rw [hstderr, ← hevent]
    decide

end LispDatum.CommandLine
