import Mathlib.Algebra.Ring.Nat
import ScriptFront.Command.Run
import ScriptFront.Proofs.Parse.Verdict

/-!
# Several inputs

Each input is parsed by itself, so a run over several inputs comes to what the runs over each of
them come to: their outputs follow one another in the order of the inputs, the run fails if one of
them does, and their errors are counted together (`outcome_of_inputs`).
-/
namespace ScriptFront

/-- All issues of a source count as errors. -/
theorem errorCount_parseSource (source : String) :
    Reporter.errorCount (parseSource source).2 = (parseSource source).2.issues.size := by
  have errors : ∀ issue ∈ (parseSource source).2.issues.toList, issue.isError := by
    rw [parseSource_issues]
    exact parse_errors source
  exact (List.countP_eq_length.mpr errors).trans Array.length_toList

namespace InputReport

variable (input : Input)

theorem of_verdict : (of input).verdict = (parseSource input.text).1 := rfl

theorem of_issues : (of input).issues = (parseSource input.text).2.issues.toList := rfl

theorem of_errorCount : (of input).errorCount = (parseSource input.text).2.issues.size := by
  rw [errorCount, of_verdict, parseSource_eq, Reporter.verdict, Reporter.hadError,
    errorCount_parseSource]
  by_cases none : (parseSource input.text).2.issues.size = 0
  · simp [none]
  · simp [Nat.pos_of_ne_zero none]

theorem shownProgram_of_failure {kind : OutputKind} {failure : ParseFailure}
    (failed : (parseSource input.text).1 = .error failure) :
    (of input).shownProgram kind = "" := by
  rw [shownProgram, of_verdict, failed]

/-- Only JSON has something to say about an input without issues. -/
theorem shownIssues_of_nothing {format : ReportFormat} {color : Bool} (notJson : format ≠ .json)
    (nothing : (parseSource input.text).2.issues.size = 0) :
    (of input).shownIssues format color = "" := by
  have none : (of input).issues = [] := by
    rw [of_issues]
    simpa using nothing
  cases format with
  | json => contradiction
  | pretty => simp [shownIssues, none]
  | fancy => simp [shownIssues, none, Snippet.drawAll]

end InputReport

/-- The issues of all inputs. -/
def issueCount (inputs : List Input) : Nat :=
  (inputs.map fun input => (parseSource input.text).2.issues.size).sum

theorem issueCount_eq_zero {inputs : List Input} :
    issueCount inputs = 0 ↔ ∀ input ∈ inputs, (parseSource input.text).2.issues.size = 0 := by
  rw [issueCount, List.sum_eq_zero_iff_forall_eq_nat, List.forall_mem_map]

/-- The last line about a number of errors. -/
def tally (count : Nat) : String :=
  "Found " ++ toString count ++ " " ++ (if count = 1 then "error" else "errors") ++ ".\n"

theorem summaryLine_plain (count : Nat) : summaryLine false count = "\n" ++ tally count := by
  by_cases one : count = 1
  · subst one
    decide
  · simp [summaryLine, tally, Color.paint, one, String.append_assoc]

theorem join_of_empty {texts : List String} (empty : ∀ text ∈ texts, text = "") :
    String.join texts = "" := by
  induction texts with
  | nil => rfl
  | cons text texts ih =>
    rw [List.forall_mem_cons] at empty
    rw [String.join_cons, empty.1, ih empty.2, String.append_empty]

section Parse

variable {terminal : Bool} {options : Options} (inputs : List Input)

theorem foldl_errorCount : (inputs.map InputReport.of).foldl
    (fun total report => total + report.errorCount) 0 = issueCount inputs := by
  rw [List.foldl_map, issueCount, List.sum_eq_foldl, List.foldl_map]
  simp only [InputReport.of_errorCount]

theorem parseInputs_output : (parseInputs terminal options inputs).output =
    String.join (inputs.map fun input =>
      (InputReport.of input).shownProgram options.outputKind) := by
  simp [parseInputs, Function.comp_def]

theorem parseInputs_exitCode :
    (parseInputs terminal options inputs).exitCode = if issueCount inputs = 0 then 0 else 2 := by
  rw [parseInputs, foldl_errorCount]

end Parse

/-! ## The log -/

/-- Nothing of the log is shown, nor is anything wrong with what was said about it. -/
structure Invocation.Unlogged (invocation : Invocation) (surroundings : Surroundings)
    (elapsed : String) : Prop where
  calm : (invocation.logFilter surroundings).2 = []
  silent : ∀ record, (invocation.logFilter surroundings).1.shows elapsed record = false

/-- No record is as urgent as a warning. -/
theorem LogRecord.warn_lt_detail (record : LogRecord) :
    LogLevel.warn.detail < record.level.detail := by
  cases record with
  | scanned => exact (by decide : LogLevel.warn.detail < LogLevel.trace.detail)
  | _ => exact (by decide : LogLevel.warn.detail < LogLevel.debug.detail)

theorem Invocation.unlogged_of_default {invocation : Invocation} {surroundings : Surroundings}
    (unset : surroundings.logSpec = none) (quiet : invocation.verbosity = 0) (elapsed : String) :
    invocation.Unlogged surroundings elapsed := by
  have filter : invocation.logFilter surroundings = (⟨[.upTo .warn], none⟩, []) := by
    rw [logFilter, unset, quiet]
    rfl
  refine ⟨by rw [filter], fun record => ?_⟩
  have urgent := record.warn_lt_detail
  rw [filter]
  simp [LogFilter.shows, LogFilter.directiveFor, LogDirective.appliesTo, LogDirective.upTo, urgent]

section Silent

variable {filter : LogFilter} {elapsed : String}
  (silent : ∀ record, filter.shows elapsed record = false)

include silent

theorem Emission.join_log (records : List LogRecord) :
    String.join ((records.map Emission.log).map (Emission.shown filter elapsed)) = "" := by
  induction records with
  | nil => rfl
  | cons record records ih => simpa [Emission.shown, silent] using ih

theorem Emission.join_text {α : Type} (text : α → String) (records : α → List LogRecord)
    (reports : List α) :
    String.join ((reports.flatMap fun report => .text (text report) ::
      (records report).map Emission.log).map (Emission.shown filter elapsed)) =
      String.join (reports.map text) := by
  induction reports with
  | nil => rfl
  | cons report reports ih =>
    rw [List.flatMap_cons, List.map_append, String.join_append, ih, List.map_cons, List.map_cons,
      String.join_cons, String.join_cons, Emission.join_log silent, String.append_empty]
    rfl

/-- Without the log, what a parse has to say about its inputs stands before the count of errors. -/
theorem parseInputs_errors {terminal : Bool} {options : Options} (inputs : List Input)
    (notJson : options.format ≠ .json) (plain : options.color terminal = false)
    (logged : List LogRecord) :
    (((parseInputs terminal options inputs).after logged).outcome filter [] elapsed).errors =
      String.join (inputs.map fun input =>
        (InputReport.of input).shownIssues options.format false) ++
      (if issueCount inputs = 0 then "" else "\n" ++ tally (issueCount inputs)) := by
  have finished (count : Nat) : Emission.shown filter elapsed (.log (.finished count)) = "" := by
    simp [Emission.shown, silent]
  simp only [Report.outcome, Report.after, parseInputs, foldl_errorCount, plain, notJson, or_false,
    List.nil_append, List.map_append, String.join_append, List.map_cons, String.join_cons,
    Emission.join_log silent, Emission.join_text silent, finished, String.empty_append]
  rw [List.map_map]
  split <;> simp [Emission.shown, summaryLine_plain, Function.comp_def]

/-- The errors are told at the end if there are any, and else nothing is told. -/
theorem parseInputs_tally {terminal : Bool} {options : Options} (inputs : List Input)
    (notJson : options.format ≠ .json) (plain : options.color terminal = false)
    (logged : List LogRecord) :
    (∃ before, (((parseInputs terminal options inputs).after logged).outcome filter []
      elapsed).errors = before ++ tally (issueCount inputs)) ↔ 0 < issueCount inputs := by
  rw [parseInputs_errors silent inputs notJson plain]
  constructor
  · rintro ⟨before, ends⟩
    by_contra none
    have nothing : issueCount inputs = 0 := Nat.eq_zero_of_not_pos none
    have each : ∀ shown ∈ inputs.map fun input =>
        (InputReport.of input).shownIssues options.format false, shown = "" := by
      rw [List.forall_mem_map]
      intro input among
      exact InputReport.shownIssues_of_nothing input notJson
        (issueCount_eq_zero.mp nothing input among)
    rw [nothing, join_of_empty each] at ends
    have found : 0 < "Found ".length := by decide
    have lengths := congrArg String.length ends
    simp only [tally, String.length_append, ↓reduceIte, String.length_empty] at lengths
    omega
  · intro some
    rw [if_neg (Nat.ne_of_gt some), ← String.append_assoc]
    exact ⟨_, rfl⟩

end Silent

/-! ## Each input alone -/

/-- The invocation for one of the inputs. If it holds its input itself, there is no other. -/
def Invocation.alone (invocation : Invocation) (input : Input) : Invocation :=
  { invocation with files := [input.name] }

theorem exists_of_bind_ok {ε α β : Type} {step : Except ε α} {next : α → Except ε β} {value : β}
    (done : (step >>= next) = .ok value) :
    ∃ middle, step = .ok middle ∧ next middle = .ok value := by
  cases step with
  | error reason => cases done
  | ok middle => exact ⟨middle, rfl, done⟩

theorem readInput_of_mem {read : FileReader} {files : List String} {inputs : List Input}
    {input : Input} (known : files.mapM (readInput read) = .ok inputs) (among : input ∈ inputs) :
    readInput read input.name = .ok input := by
  induction files generalizing inputs with
  | nil =>
    cases known
    simp at among
  | cons file files ih =>
    rw [List.mapM_cons] at known
    obtain ⟨head, first, known⟩ := exists_of_bind_ok known
    obtain ⟨tail, rest, known⟩ := exists_of_bind_ok known
    cases known
    rcases List.mem_cons.mp among with rfl | later
    · have named : input.name = file := by
        unfold readInput at first
        split at first <;> cases first
        rfl
      rw [named, first]
    · exact ih rest later

theorem Invocation.inputs_alone {invocation : Invocation} {read : FileReader}
    {inputs : List Input} {input : Input} (known : invocation.inputs read = .ok inputs)
    (among : input ∈ inputs) : (invocation.alone input).inputs read = .ok [input] := by
  unfold Invocation.inputs at known ⊢
  cases held : invocation.eval with
  | some text =>
    rw [held] at known
    cases known
    obtain rfl := List.mem_singleton.mp among
    simp [alone, held]
  | none =>
    rw [held] at known
    simp [alone, held, readInput_of_mem known among, bind, Except.bind, pure, Except.pure]

@[simp] theorem Report.after_output (logged : List LogRecord) (report : Report) :
    (report.after logged).output = report.output := rfl

@[simp] theorem Report.after_exitCode (logged : List LogRecord) (report : Report) :
    (report.after logged).exitCode = report.exitCode := rfl

theorem Invocation.outcome_output (invocation : Invocation) (surroundings : Surroundings)
    (elapsed : String) : (invocation.outcome surroundings elapsed).output =
      (invocation.run surroundings).output := rfl

theorem Invocation.outcome_exitCode (invocation : Invocation) (surroundings : Surroundings)
    (elapsed : String) : (invocation.outcome surroundings elapsed).exitCode =
      (invocation.run surroundings).exitCode := rfl

section Ready

/-! With its options and its inputs at hand, a run does nothing but its command. -/

variable {invocation : Invocation} {surroundings : Surroundings} {logged : List LogRecord}
  {fileOptions : Options} {inputs : List Input}
  (loaded : invocation.fileOptions surroundings = (logged, .ok fileOptions))
  (known : invocation.inputs surroundings.read = .ok inputs)

namespace Invocation

include loaded known

theorem run_tokens (some : inputs ≠ []) (isTokens : invocation.command = .tokens) :
    ∃ logged, invocation.run surroundings = (listInputs inputs).after logged := by
  obtain ⟨first, rest, rfl⟩ := List.exists_cons_of_ne_nil some
  unfold run
  simp only [loaded, known, isTokens]
  exact ⟨_, rfl⟩

theorem run_parse (some : inputs ≠ []) (isParse : invocation.command = .parse) :
    ∃ logged, invocation.run surroundings =
      (parseInputs surroundings.terminal (fileOptions.overlay invocation.options) inputs).after
        logged := by
  obtain ⟨first, rest, rfl⟩ := List.exists_cons_of_ne_nil some
  unfold run
  simp only [loaded, known, isParse]
  exact ⟨_, rfl⟩

theorem outcome_tokens (some : inputs ≠ []) (isTokens : invocation.command = .tokens)
    (elapsed : String) :
    (invocation.outcome surroundings elapsed).output = (listInputs inputs).output ∧
      (invocation.outcome surroundings elapsed).exitCode = 0 := by
  obtain ⟨logged, run⟩ := run_tokens loaded known some isTokens
  rw [outcome_output, outcome_exitCode, run]
  exact ⟨rfl, rfl⟩

theorem outcome_parse (some : inputs ≠ []) (isParse : invocation.command = .parse)
    (elapsed : String) :
    (invocation.outcome surroundings elapsed).output = String.join (inputs.map fun input =>
      (InputReport.of input).shownProgram (fileOptions.overlay invocation.options).outputKind) ∧
      (invocation.outcome surroundings elapsed).exitCode =
        if issueCount inputs = 0 then 0 else 2 := by
  obtain ⟨logged, run⟩ := run_parse loaded known some isParse
  rw [outcome_output, outcome_exitCode, run, Report.after_output, Report.after_exitCode]
  exact ⟨parseInputs_output inputs, parseInputs_exitCode inputs⟩

variable {input : Input} (among : input ∈ inputs)

include among

theorem alone_tokens (isTokens : invocation.command = .tokens) (elapsed : String) :
    ((invocation.alone input).outcome surroundings elapsed).output = listing input.text := by
  have output := (@outcome_tokens (invocation.alone input) _ _ _ _ loaded
    (inputs_alone known among) (List.cons_ne_nil input []) isTokens elapsed).1
  simpa [listInputs] using output

theorem alone_parse (isParse : invocation.command = .parse) (elapsed : String) :
    ((invocation.alone input).outcome surroundings elapsed).output =
      (InputReport.of input).shownProgram (fileOptions.overlay invocation.options).outputKind ∧
      ((invocation.alone input).outcome surroundings elapsed).exitCode =
        if (parseSource input.text).2.issues.size = 0 then 0 else 2 := by
  obtain ⟨output, exitCode⟩ := @outcome_parse (invocation.alone input) _ _ _ _ loaded
    (inputs_alone known among) (List.cons_ne_nil input []) isParse elapsed
  have options : (invocation.alone input).options = invocation.options := rfl
  rw [options] at output
  exact ⟨by simpa using output, by simpa [issueCount] using exitCode⟩

end Invocation

end Ready

/-- A run over several inputs is the sum of the runs over each of them alone. The output of `parse`
is that of the single runs, to which an input with errors contributes nothing; the run fails if one
of them does, and unless issues are shown as JSON the last line tells the number of all issues, if
there are any. `tokens` puts the name of each input before its tokens and never fails. -/
theorem outcome_of_inputs {invocation : Invocation} {surroundings : Surroundings}
    {logged : List LogRecord} {fileOptions : Options} {inputs : List Input}
    (loaded : invocation.fileOptions surroundings = (logged, .ok fileOptions))
    (known : invocation.inputs surroundings.read = .ok inputs) (some : inputs ≠ [])
    (elapsed : String) (elapsedAlone : Input → String) :
    let options := fileOptions.overlay invocation.options
    let outcome := invocation.outcome surroundings elapsed
    let alone (input : Input) :=
      (invocation.alone input).outcome surroundings (elapsedAlone input)
    (invocation.command = .parse →
      outcome.output = String.join (inputs.map fun input => (alone input).output) ∧
      (∀ input ∈ inputs, ∀ failure, (parseSource input.text).1 = .error failure →
        (alone input).output = "") ∧
      ((∃ input ∈ inputs, (alone input).exitCode = 2) → outcome.exitCode = 2) ∧
      ((∀ input ∈ inputs, (alone input).exitCode ≠ 2) → outcome.exitCode = 0) ∧
      (invocation.Unlogged surroundings elapsed → options.format ≠ .json →
        options.color surroundings.terminal = false →
        ((∃ before, outcome.errors = before ++ tally (issueCount inputs)) ↔
          0 < issueCount inputs))) ∧
    (invocation.command = .tokens →
      (2 ≤ inputs.length → outcome.output = String.join (inputs.map fun input =>
        "==> " ++ input.name ++ " <==\n" ++ (alone input).output)) ∧
      outcome.exitCode = 0) := by
  intro options outcome alone
  refine ⟨fun isParse => ?_, fun isTokens => ?_⟩
  · obtain ⟨output, exitCode⟩ := Invocation.outcome_parse loaded known some isParse elapsed
    have each {input : Input} (among : input ∈ inputs) :=
      Invocation.alone_parse loaded known among isParse (elapsedAlone input)
    refine ⟨?_, fun input among failure failed => ?_, ?_, ?_, fun unlogged notJson plain => ?_⟩
    · rw [output, List.map_congr_left fun input among => (each among).1]
    · rw [(each among).1, InputReport.shownProgram_of_failure input failed]
    · rintro ⟨input, among, failed⟩
      refine exitCode.trans (if_neg fun none => ?_)
      have calm := (each among).2.trans (if_pos (issueCount_eq_zero.mp none input among))
      exact absurd (calm.symm.trans failed) (by decide)
    · intro calm
      refine exitCode.trans (if_pos (issueCount_eq_zero.mpr fun input among => ?_))
      by_contra some
      exact calm input among ((each among).2.trans (if_neg some))
    · obtain ⟨logged, run⟩ := Invocation.run_parse loaded known some isParse
      have tallied := parseInputs_tally unlogged.silent inputs notJson plain logged
      rwa [← run, ← unlogged.calm] at tallied
  · obtain ⟨output, exitCode⟩ := Invocation.outcome_tokens loaded known some isTokens elapsed
    refine ⟨fun several => ?_, exitCode⟩
    rw [output, listInputs]
    refine congrArg String.join (List.map_congr_left fun input among => ?_)
    have single := Invocation.alone_tokens loaded known among isTokens (elapsedAlone input)
    rw [single, if_pos (Nat.lt_of_lt_of_le Nat.one_lt_two several)]

theorem outcome_of_inputs_missing_operand :
    let text (path : String) : Except ReadFault String :=
      if path = "a" then .ok "print 1;" else if path = "b" then .ok "1 + ;" else .error .notFound
    let read : FileReader := ⟨text, fun path => path = "a" ∨ path = "b"⟩
    let surroundings : Surroundings := ⟨"/", read, none, false⟩
    let invocation : Invocation := ⟨.parse, none, .unset, 0, none, ["a", "b"]⟩
    let outcome := invocation.outcome surroundings "0"
    let alone (input : Input) := (invocation.alone input).outcome surroundings "0"
    invocation.fileOptions surroundings = ([.optionsAbsent "/"], .ok .unset) ∧
      invocation.inputs read = .ok [⟨"a", "print 1;"⟩, ⟨"b", "1 + ;"⟩] ∧
      invocation.Unlogged surroundings "0" ∧
      outcome.output = (alone ⟨"a", "print 1;"⟩).output ++ (alone ⟨"b", "1 + ;"⟩).output ∧
      (alone ⟨"b", "1 + ;"⟩).output = "" ∧ outcome.exitCode = 2 ∧
      ∃ before, outcome.errors = before ++ "Found 1 error.\n" := by
  intro text read surroundings invocation outcome alone
  have loaded : invocation.fileOptions surroundings = ([.optionsAbsent "/"], .ok .unset) := rfl
  have known : invocation.inputs read = .ok [⟨"a", "print 1;"⟩, ⟨"b", "1 + ;"⟩] := rfl
  have unlogged : invocation.Unlogged surroundings "0" := Invocation.unlogged_of_default rfl rfl "0"
  have parsed := (@outcome_of_inputs invocation surroundings _ _ _ loaded known
    (List.cons_ne_nil _ _) "0" fun _ => "0").1 rfl
  obtain ⟨output, failing, failed, -, tallied⟩ := parsed
  have count : issueCount [⟨"a", "print 1;"⟩, ⟨"b", "1 + ;"⟩] = 1 := by decide +kernel
  refine ⟨loaded, known, unlogged, ?_, ?_, ?_, ?_⟩
  · simpa using output
  · have failure : (parseSource "1 + ;").1 =
        .error ⟨1, ⟨[.evaluate (.binary (.number (.ofRatio 1 1)) .plus .null)]⟩⟩ := by
      decide +kernel
    exact failing ⟨"b", "1 + ;"⟩ (by simp) _ failure
  · exact failed ⟨⟨"b", "1 + ;"⟩, by simp, by decide +kernel⟩
  · have some := (tallied unlogged (by decide) rfl).mpr (by rw [count]; decide)
    rw [count] at some
    exact some

end ScriptFront
