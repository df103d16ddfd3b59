import ScriptFront.Proofs.Command.Inputs

/-!
# Runs that fail

A run loads its options and reads all of its inputs before it prints anything. So where the working
directory, the options or an input cannot be had, or there is no input, it comes to one line about
that and nothing else, and such a run is told from every other one by its exit code
(`failure_leaves_nothing`). They are told about in this order. Which input is told about is clear
only if no more than one cannot be read.
-/
namespace ScriptFront

/-! ## Command lines with a text or with files -/

namespace Given

theorem settled_exclusive {given after : Given} (settled : given.settled = .ok after) :
    after.eval = none ∨ after.files = [] := by
  unfold Given.settled at settled
  split at settled
  · cases settled
  · split at settled
    · cases settled
    next noConflict =>
      cases settled
      cases held : given.eval with
      | none => exact .inl rfl
      | some text => exact .inr (by simpa [held] using noConflict)

variable {waiting : Option CommandOption} {given : Given} {arguments : List String}

/-- What was given is looked at once more when all of it has been taken, whether the arguments come
to an end or only files are left of them. -/
theorem afterCommand_settled {command : CommandName} {after : Given}
    (taken : given.afterCommand command waiting arguments = .ok after) :
    ∃ earlier : Given, earlier.settled = .ok after := by
  induction arguments generalizing waiting given with
  | nil =>
    cases waiting with
    | some option => cases taken
    | none => exact ⟨given, taken⟩
  | cons argument rest ih =>
    cases waiting with
    | some option =>
      rw [afterCommand] at taken
      split at taken
      · cases taken
      · obtain ⟨next, -, taken⟩ := exists_of_bind_ok taken
        exact ih taken
    | none =>
      rw [afterCommand] at taken
      split at taken
      · obtain ⟨next, -, taken⟩ := exists_of_bind_ok taken
        exact ⟨next, taken⟩
      all_goals
        obtain ⟨next, -, taken⟩ := exists_of_bind_ok taken
        exact ih taken

theorem beforeCommand_exclusive {invocation : Invocation}
    (taken : given.beforeCommand waiting arguments = .ok invocation) :
    invocation.eval = none ∨ invocation.files = [] := by
  induction arguments generalizing waiting given with
  | nil => cases waiting <;> cases taken
  | cons argument rest ih =>
    cases waiting with
    | some option =>
      rw [beforeCommand] at taken
      split at taken
      · cases taken
      · obtain ⟨next, -, taken⟩ := exists_of_bind_ok taken
        exact ih taken
    | none =>
      rw [beforeCommand] at taken
      split at taken
      · cases taken
      · obtain ⟨next, -, taken⟩ := exists_of_bind_ok taken
        exact ih taken
      · obtain ⟨next, -, taken⟩ := exists_of_bind_ok taken
        exact ih taken
      · split at taken
        · cases taken
        · -- Only what was given after the command holds a text or files.
          obtain ⟨after, afterwards, taken⟩ := exists_of_bind_ok taken
          obtain ⟨before, -, taken⟩ := exists_of_bind_ok taken
          obtain ⟨earlier, settled⟩ := afterCommand_settled afterwards
          cases taken
          simpa [Invocation.of] using settled_exclusive settled

end Given

/-- A command line that is accepted names files or holds a text, but not both. -/
theorem CommandLine.exclusive {arguments : List String} {invocation : Invocation}
    (accepted : ofArguments arguments = .ok (.run invocation)) :
    invocation.eval = none ∨ invocation.files = [] := by
  unfold ofArguments at accepted
  split at accepted <;> cases accepted
  exact Given.beforeCommand_exclusive ‹_›

/-! ## What goes wrong -/

/-- Whether a file cannot be read. -/
def FileReader.Refuses (read : FileReader) (path : String) : Prop :=
  ∃ fault, read path = .error fault

/-- What is wrong with an options file: it cannot be read, or what it holds is no options. -/
inductive Options.Spoils (read : FileReader) (path : String) : HostError → Prop where
  | unreadable {fault : ReadFault} (refused : read path = .error fault) :
      Spoils read path (.unreadable path fault.message)
  | invalid {text : String} {fault : Json.PlacedFault} (known : read path = .ok text)
      (refused : ofText text = .error fault) : Spoils read path (.badOptions path fault.message)

theorem Options.ofFile_eq_error_iff {read : FileReader} {path : String} {reason : HostError} :
    ofFile read path = .error reason ↔ Spoils read path reason := by
  constructor
  · intro failed
    unfold ofFile at failed
    split at failed
    next refused =>
      cases failed
      exact .unreadable refused
    next known =>
      split at failed <;> cases failed
      exact .invalid known ‹_›
  · rintro (refused | ⟨known, refused⟩)
    · simp only [ofFile, refused]
    · simp only [ofFile, known, refused]

section Failures

variable (invocation : Invocation) (surroundings : Surroundings)

/-- The options file of a run in a directory: the one that is asked for, and otherwise the one of
the directory if there is one. -/
inductive Invocation.Consults (directory : String) : String → Prop where
  | asked {path : String} (asked : invocation.config = some path) : Consults directory path
  | found (unasked : invocation.config = none)
      (isFile : surroundings.read.isFile (joinPath directory optionsFileName)) :
      Consults directory (joinPath directory optionsFileName)

/-- Why the options of a run in a directory cannot be had. -/
def Invocation.LacksOptions (directory : String) (reason : HostError) : Prop :=
  ∃ path, invocation.Consults surroundings directory path ∧
    Options.Spoils surroundings.read path reason

/-- Whether there is a working directory and nothing wrong with the options. -/
def Invocation.OptionsKnown : Prop :=
  ∃ directory, surroundings.directory = .ok directory ∧
    ∀ reason, ¬ invocation.LacksOptions surroundings directory reason

/-- Why a run cannot be done, in the words in which it is told. Only where there is nothing wrong
with the working directory and with the options does it matter whether there are inputs. -/
inductive Invocation.Failure : String → Prop where
  | directory {reason : String} (unknown : surroundings.directory = .error reason) :
      Failure reason
  | options {directory : String} {reason : HostError}
      (here : surroundings.directory = .ok directory)
      (lacking : invocation.LacksOptions surroundings directory reason) : Failure reason.message
  | input {path : String} {fault : ReadFault} (known : invocation.OptionsKnown surroundings)
      (among : path ∈ invocation.files) (refused : surroundings.read path = .error fault) :
      Failure (HostError.unreadable path fault.message).message
  | noInput (known : invocation.OptionsKnown surroundings) (noText : invocation.eval = none)
      (noFiles : invocation.files = []) : Failure "No input files given."

end Failures

theorem Options.loadFile_snd (read : FileReader) (path : String) :
    (loadFile read path).2 = ofFile read path := by
  unfold loadFile
  cases ofFile read path <;> rfl

section Run

variable {invocation : Invocation} {surroundings : Surroundings}

theorem Invocation.load_eq_error_iff {directory : String} {reason : HostError} :
    (Options.load surroundings.read invocation.config directory).2 = .error reason ↔
      invocation.LacksOptions surroundings directory reason := by
  have file (path : String) :
      (Options.loadFile surroundings.read path).2 = .error reason ↔
        Options.Spoils surroundings.read path reason := by
    rw [Options.loadFile_snd, Options.ofFile_eq_error_iff]
  unfold Options.load
  constructor
  · intro failed
    split at failed
    next path asked => exact ⟨path, .asked asked, (file path).mp failed⟩
    next unasked =>
      dsimp only at failed
      split at failed
      next isFile => exact ⟨_, .found unasked isFile, (file _).mp failed⟩
      next => cases failed
  · rintro ⟨path, asked | ⟨unasked, isFile⟩, spoils⟩
    · simpa only [asked] using (file path).mpr spoils
    · simpa only [unasked, isFile, if_true] using (file _).mpr spoils

/-- Whichever file is read first, the one that cannot be read is told about. -/
theorem mapM_readInput_of_unreadable {read : FileReader} {files : List String} {path : String}
    {fault : ReadFault} (among : path ∈ files) (refused : read path = .error fault)
    (single : ∀ other ∈ files, read.Refuses other → other = path) :
    files.mapM (readInput read) = .error (.unreadable path fault.message) := by
  induction files with
  | nil => cases among
  | cons file files ih =>
    rw [List.forall_mem_cons] at single
    rw [List.mapM_cons, readInput]
    cases here : read file with
    | error reason =>
      obtain rfl := single.1 ⟨reason, here⟩
      cases here.symm.trans refused
      rfl
    | ok text =>
      have later : path ∈ files := by
        refine (List.mem_cons.mp among).resolve_left fun same => ?_
        rw [same, here] at refused
        cases refused
      simp only [ih later single.2]
      rfl

theorem mapM_readInput_of_readable {read : FileReader} {files : List String}
    (readable : ∀ path ∈ files, ¬ read.Refuses path) :
    ∃ inputs, files.mapM (readInput read) = .ok inputs ∧ (inputs = [] → files = []) := by
  induction files with
  | nil => exact ⟨[], rfl, fun _ => rfl⟩
  | cons file files ih =>
    rw [List.forall_mem_cons] at readable
    obtain ⟨inputs, known, -⟩ := ih readable.2
    cases here : read file with
    | error reason => exact absurd ⟨reason, here⟩ readable.1
    | ok text =>
      refine ⟨⟨file, text⟩ :: inputs, ?_, by simp⟩
      rw [List.mapM_cons, readInput, here]
      simp only [known]
      rfl

theorem Invocation.fileOptions_eq {directory : String}
    (here : surroundings.directory = .ok directory) :
    invocation.fileOptions surroundings =
      Options.load surroundings.read invocation.config directory := by
  simp only [fileOptions, here]

theorem Invocation.fileOptions_known (known : invocation.OptionsKnown surroundings) :
    ∃ logged options, invocation.fileOptions surroundings = (logged, .ok options) := by
  obtain ⟨directory, here, known⟩ := known
  rw [fileOptions_eq here]
  cases loaded : Options.load surroundings.read invocation.config directory with
  | mk logged result =>
    cases result with
    | ok options => exact ⟨logged, options, rfl⟩
    | error reason => exact absurd (load_eq_error_iff.mp (congrArg Prod.snd loaded)) (known reason)

theorem Invocation.optionsKnown_of_no_failure
    (possible : ∀ message, ¬ invocation.Failure surroundings message) :
    invocation.OptionsKnown surroundings := by
  cases here : surroundings.directory with
  | error reason => exact absurd (.directory here) (possible reason)
  | ok directory =>
    exact ⟨directory, here, fun reason lacking => possible _ (.options here lacking)⟩

/-- A run that cannot be done ends before its command. -/
theorem Invocation.run_of_failure (exclusive : invocation.eval = none ∨ invocation.files = [])
    (single : ∀ path ∈ invocation.files, ∀ other ∈ invocation.files,
      surroundings.read.Refuses path → surroundings.read.Refuses other → path = other)
    {message : String} (failure : invocation.Failure surroundings message) :
    ∃ logged, invocation.run surroundings = failed surroundings.terminal logged message := by
  cases failure with
  | directory unknown =>
    have lost : invocation.fileOptions surroundings = ([], .error (.inputOutput message)) := by
      simp only [fileOptions, unknown]
    refine ⟨[], ?_⟩
    unfold run
    simp only [lost]
    rfl
  | @options directory reason here lacking =>
    have loaded := load_eq_error_iff.mpr lacking
    cases whole : Options.load surroundings.read invocation.config directory with
    | mk logged result =>
      obtain rfl : result = _ := (congrArg Prod.snd whole).symm.trans loaded
      exact ⟨logged, by simp only [run, fileOptions_eq here, whole]⟩
  | @input path fault known among refused =>
    obtain ⟨logged, options, loaded⟩ := fileOptions_known known
    have noText := exclusive.resolve_right (List.ne_nil_of_mem among)
    have unreadable := mapM_readInput_of_unreadable among refused fun other amongThem refused' =>
      single other amongThem path among refused' ⟨fault, refused⟩
    unfold run
    simp only [loaded, inputs, noText, unreadable]
    exact ⟨_, rfl⟩
  | noInput known noText noFiles =>
    obtain ⟨logged, options, loaded⟩ := fileOptions_known known
    unfold run
    simp only [loaded, inputs, noText, noFiles, List.mapM_nil, pure, Except.pure]
    exact ⟨_, rfl⟩

theorem Invocation.inputs_of_no_failure
    (possible : ∀ message, ¬ invocation.Failure surroundings message) :
    ∃ inputs, invocation.inputs surroundings.read = .ok inputs ∧ inputs ≠ [] := by
  have known := optionsKnown_of_no_failure possible
  cases held : invocation.eval with
  | some text => exact ⟨[⟨"<eval>", text⟩], by simp only [inputs, held], List.cons_ne_nil _ _⟩
  | none =>
    obtain ⟨inputs, read, nothing⟩ := mapM_readInput_of_readable
      fun path among ⟨fault, refused⟩ => possible _ (.input known among refused)
    exact ⟨inputs, by simp only [Invocation.inputs, held, read],
      fun none => possible _ (.noInput known held (nothing none))⟩

theorem Invocation.exitCode_of_no_failure
    (possible : ∀ message, ¬ invocation.Failure surroundings message) (elapsed : String) :
    (invocation.outcome surroundings elapsed).exitCode ≠ 1 := by
  obtain ⟨logged, options, loaded⟩ := fileOptions_known (optionsKnown_of_no_failure possible)
  obtain ⟨inputs, known, some⟩ := inputs_of_no_failure possible
  cases command : invocation.command with
  | tokens =>
    rw [(outcome_tokens loaded known some command elapsed).2]
    exact Nat.zero_ne_one
  | parse =>
    rw [(outcome_parse loaded known some command elapsed).2]
    split <;> decide

/-- All that is told of a run that fails is why. -/
theorem failed_text {terminal : Bool} {logged : List LogRecord} {message text : String}
    (told : .text text ∈ (failed terminal logged message).emissions) :
    text = errorLine terminal message := by
  simpa [failed] using told

theorem failed_errors {filter : LogFilter} {elapsed : String}
    (silent : ∀ record, filter.shows elapsed record = false) (logged : List LogRecord)
    (message : String) :
    ((failed false logged message).outcome filter [] elapsed).errors =
      "error: " ++ message ++ "\n" := by
  simp only [Report.outcome, failed, List.nil_append, List.map_append, String.join_append,
    Emission.join_log silent, String.empty_append]
  simp [Emission.shown, errorLine, Color.paint]

end Run

/-- A run fails as a whole or not at all. Where the working directory, the options or an input
cannot be had, or there is no input, the exit code is 1, nothing is put out, and all that is told is
why; that is all there is on standard error if this is no terminal and nothing is logged. What is
wrong with the options is told before what is wrong with an input. In every other case the exit code
is another one. At most one of the files may be unreadable, for it is not said which of several
would be told about. -/
theorem failure_leaves_nothing {arguments : List String} {invocation : Invocation}
    (accepted : CommandLine.ofArguments arguments = .ok (.run invocation))
    {surroundings : Surroundings}
    (single : ∀ path ∈ invocation.files, ∀ other ∈ invocation.files,
      surroundings.read.Refuses path → surroundings.read.Refuses other → path = other)
    (elapsed : String) :
    let outcome := (CommandLine.run invocation).outcome surroundings elapsed
    (∀ message, invocation.Failure surroundings message →
      outcome.exitCode = 1 ∧ outcome.output = "" ∧
      (∀ text, .text text ∈ (invocation.run surroundings).emissions →
        text = errorLine surroundings.terminal message) ∧
      (surroundings.terminal = false → invocation.Unlogged surroundings elapsed →
        outcome.errors = "error: " ++ message ++ "\n")) ∧
    ((∀ message, ¬ invocation.Failure surroundings message) → outcome.exitCode ≠ 1) := by
  intro outcome
  refine ⟨fun message failure => ?_, fun possible =>
    Invocation.exitCode_of_no_failure possible elapsed⟩
  obtain ⟨logged, run⟩ :=
    Invocation.run_of_failure (CommandLine.exclusive accepted) single failure
  have same : outcome = (failed surroundings.terminal logged message).outcome
      (invocation.logFilter surroundings).1 (invocation.logFilter surroundings).2 elapsed := by
    rw [← run]
    rfl
  refine ⟨by rw [same]; rfl, by rw [same]; rfl, fun text told => ?_, fun plain unlogged => ?_⟩
  · rw [run] at told
    exact failed_text told
  · rw [same, plain, unlogged.calm]
    exact failed_errors unlogged.silent logged message

theorem failure_leaves_nothing_second_file :
    let text (path : String) : Except ReadFault String :=
      if path = "a" then .ok "1 + ;" else if path = "c" then .ok "print 1;"
      else if path = "o" then .ok "\x7b" else .error .notFound
    let read : FileReader := ⟨text, fun path => path = "a" ∨ path = "c" ∨ path = "o"⟩
    let surroundings : Surroundings := ⟨"/", read, none, false⟩
    let invocation (config : Option String) : Invocation :=
      ⟨.parse, config, ⟨⟨some .json, none⟩, none⟩, 0, none, ["a", "b", "c"]⟩
    let outcome (config : Option String) :=
      (CommandLine.run (invocation config)).outcome surroundings "0"
    CommandLine.ofArguments ["parse", "--format=json", "a", "b", "c"] =
        .ok (.run (invocation none)) ∧
      CommandLine.ofArguments ["parse", "-co", "--format=json", "a", "b", "c"] =
        .ok (.run (invocation (some "o"))) ∧
      (∀ path ∈ ["a", "b", "c"], ∀ other ∈ ["a", "b", "c"],
        read.Refuses path → read.Refuses other → path = other) ∧
      (outcome none).exitCode = 1 ∧ (outcome none).output = "" ∧
      (outcome none).errors =
        "error: failed to read 'b': No such file or directory (os error 2)\n" ∧
      (outcome (some "o")).errors = "error: invalid configuration in 'o': " ++
        "EOF while parsing an object at line 1 column 1\n" := by
  intro text read surroundings invocation outcome
  have accepted : CommandLine.ofArguments ["parse", "--format=json", "a", "b", "c"] =
      .ok (.run (invocation none)) := rfl
  have acceptedToo : CommandLine.ofArguments ["parse", "-co", "--format=json", "a", "b", "c"] =
      .ok (.run (invocation (some "o"))) := rfl
  have only : ∀ path ∈ ["a", "b", "c"], read.Refuses path → path = "b" := by
    rintro path among ⟨fault, refused⟩
    simp only [List.mem_cons, List.not_mem_nil, or_false] at among
    rcases among with rfl | rfl | rfl
    · cases refused
    · rfl
    · cases refused
  have single : ∀ path ∈ ["a", "b", "c"], ∀ other ∈ ["a", "b", "c"],
      read.Refuses path → read.Refuses other → path = other :=
    fun path among other amongToo refuses refusesToo =>
      (only path among refuses).trans (only other amongToo refusesToo).symm
  have known : (invocation none).OptionsKnown surroundings := by
    have noFile : surroundings.read.isFile (joinPath "/" optionsFileName) = false := rfl
    refine ⟨"/", rfl, ?_⟩
    rintro reason ⟨path, asked | ⟨-, isFile⟩, -⟩
    · cases asked
    · exact Bool.false_ne_true (noFile.symm.trans isFile)
  have unread : (invocation none).Failure surroundings _ :=
    .input known (by simp [invocation] : "b" ∈ _) (rfl : read "b" = .error .notFound)
  have spoiled : (invocation (some "o")).Failure surroundings _ :=
    .options rfl ⟨"o", .asked rfl, .invalid (rfl : read "o" = .ok "\x7b")
      (by decide +kernel : Options.ofText "\x7b" = .error ⟨.endInObject, 1, 1⟩)⟩
  have unlogged (config : Option String) : (invocation config).Unlogged surroundings "0" :=
    Invocation.unlogged_of_default rfl rfl "0"
  obtain ⟨exitCode, output, -, errors⟩ :=
    (@failure_leaves_nothing _ _ accepted surroundings single "0").1 _ unread
  obtain ⟨-, -, -, errorsToo⟩ :=
    (@failure_leaves_nothing _ _ acceptedToo surroundings single "0").1 _ spoiled
  exact ⟨accepted, acceptedToo, single, exitCode, output, errors rfl (unlogged none),
    errorsToo rfl (unlogged (some "o"))⟩

end ScriptFront
