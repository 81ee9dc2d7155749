import ReportLang.Proofs.CommandLine.Work

/-!
# Stages of the command line

A run that goes further does what a shorter one does and then goes on: it fails as the shorter one
does, or prints at least what that prints. A run up to the last stage ends as the interpretation of
the program text does; if nothing else is to be shown, it prints the report and nothing else.
-/

namespace ReportLang

/-- The interpretation of a program text, step by step. -/
theorem Program.interpret_eq (grammar : Grammar) (host : Host) (config : Config) (text : String) :
    interpret grammar host config text = (do
      let lexemes ← (Lexeme.scan .statement text).mapError .scan
      let statements ← (Statement.segment .statement lexemes).mapError .segment
      let commands ← (Statement.parseAll grammar statements).mapError .parse
      let program ← (Instruction.group commands).mapError .group
      (run host (Session.start config.width config.height) program).mapError .run) := by
  simp only [interpret, instructions, commands, statements, bind_assoc]

namespace CommandLine

/-- Options under which the work ends with a given stage. -/
def Options.upTo (options : Options) (last : LastStage) : Options :=
  { options with stage := some last }

/-- Whether options ask for nothing to be shown, or for the report alone. -/
def Options.ShowsReportOnly (options : Options) : Prop :=
  ∀ flag ∈ [Flag.keywords, .lexemes, .statements, .parsed, .grouped, .values],
    options.has flag = false

/-- Whether nothing but the report is to be shown can be decided. -/
instance (options : Options) : Decidable options.ShowsReportOnly :=
  inferInstanceAs (Decidable (∀ flag ∈ _, options.has flag = false))

/-- The grammar that is in a file, or the one of report programs if no file is named. -/
inductive Sources.HasGrammar (sources : Sources) : Option String → Grammar → Prop where
  /-- No file is named. -/
  | builtin : sources.HasGrammar none Grammar.builtin
  /-- The file can be read and describes a grammar. -/
  | file {path description : String} {grammar : Grammar}
    (read : sources.file path = .ok description) (loads : Grammar.load description = .ok grammar) :
    sources.HasGrammar (some path) grammar

/-- The text that is in a file, or the one of the standard input if no file is named. -/
inductive Sources.HasText (sources : Sources) : Option String → String → Prop where
  /-- No file is named. -/
  | input {text : String} (read : sources.input = .ok text) : sources.HasText none text
  /-- The file can be read. -/
  | file {path text : String} (read : sources.file path = .ok text) :
    sources.HasText (some path) text

section Extension

variable (sources : Sources) (options : Options)

/-- Running a program only adds to what is printed. -/
theorem onlyAdds_runStage (program : List Instruction) :
    (runStage sources options program).OnlyAdds :=
  (Work.onlyAdds_ofExcept _ _).bind fun _ =>
    (Work.onlyAdds_printIf _ _).bind fun _ => Work.onlyAdds_printIf _ _

/-- Arranging commands in blocks, and what follows it, only adds to what is printed. -/
theorem onlyAdds_groupStage (commands : List Command) :
    (groupStage sources options commands).OnlyAdds :=
  (Work.onlyAdds_ofExcept _ _).bind fun program =>
    (Work.onlyAdds_printIf _ _).bind fun _ =>
      (onlyAdds_runStage sources options program).unlessEnded

/-- Parsing statements, and what follows it, only adds to what is printed. -/
theorem onlyAdds_parseStage (grammar : Grammar) (statements : List Statement) :
    (parseStage sources options grammar statements).OnlyAdds :=
  (Work.onlyAdds_ofExcept _ _).bind fun commands =>
    (Work.onlyAdds_printIf _ _).bind fun _ =>
      (onlyAdds_groupStage sources options commands).unlessEnded

variable {last later : LastStage} (ordered : last.rank ≤ later.rank)
include ordered

/-- Arranging commands in blocks is carried on by doing so and going further. -/
theorem carriesOn_groupStage (commands : List Command) :
    (groupStage sources (options.upTo last) commands).CarriesOn
      (groupStage sources (options.upTo later) commands) :=
  .bind _ fun program => .bind _ fun _ =>
    .unlessEnded (Nat.lt_of_le_of_lt ordered)
      (onlyAdds_runStage sources (options.upTo later) program) (.refl _)

/-- Parsing statements is carried on by doing so and going further. -/
theorem carriesOn_parseStage (grammar : Grammar) (statements : List Statement) :
    (parseStage sources (options.upTo last) grammar statements).CarriesOn
      (parseStage sources (options.upTo later) grammar statements) :=
  .bind _ fun commands => .bind _ fun _ =>
    .unlessEnded (Nat.lt_of_le_of_lt ordered)
      (onlyAdds_groupStage sources (options.upTo later) commands)
      (carriesOn_groupStage sources options ordered commands)

/-- All the work up to a stage is carried on by the work up to a later stage. -/
theorem carriesOn_work :
    (work sources (options.upTo last)).CarriesOn (work sources (options.upTo later)) := by
  refine .bind _ fun grammar => .bind _ fun _ => .bind _ fun text => .bind _ fun lexemes =>
    .bind _ fun _ => .bind _ fun statements => .bind _ fun _ => ?_
  refine .unlessEnded (fun ended => ?_)
    (onlyAdds_parseStage sources (options.upTo later) grammar statements)
    (carriesOn_parseStage sources options ordered grammar statements)
  rw [Bool.or_eq_true, decide_eq_true_eq] at ended ⊢
  exact ended.imp_left (Nat.lt_of_le_of_lt ordered)

end Extension

section Interpretation

variable {sources : Sources} {options : Options} {grammar : Grammar} {text : String}

/-- The text of a file that can be read. -/
theorem readFile_eq {path : String} (read : sources.file path = .ok text) :
    readFile sources path = pure text := by
  rw [readFile, read]
  rfl

/-- The grammar is there without printing anything. -/
theorem loadGrammar_eq (hasGrammar : sources.HasGrammar options.grammar grammar) :
    loadGrammar sources options = pure grammar := by
  unfold loadGrammar
  generalize options.grammar = named at hasGrammar
  cases hasGrammar with
  | builtin => rfl
  | file read loads =>
    simp only [readFile_eq read, pure_bind, loads]
    rfl

/-- The program text is there without printing anything. -/
theorem readInput_eq (hasText : sources.HasText options.input text) :
    readInput sources options = pure text := by
  unfold readInput
  generalize options.input = named at hasText
  cases hasText with
  | input read =>
    simp only [read]
    rfl
  | file read => exact readFile_eq read

/-- Without the flag for grammar descriptions the input is read as a program. -/
theorem Options.mode_eq (reads : options.has .lexSyntax = false) : options.mode = .statement := by
  rw [mode, reads]
  rfl

/-- The report is shown if nothing else is. -/
theorem Options.ShowsReportOnly.showsReport (only : options.ShowsReportOnly) :
    options.showsReport = true := by
  have none : [Flag.keywords, .lexemes, .statements, .parsed, .grouped, .values].any options.has =
      false := List.any_eq_false.mpr fun flag member => by rw [only flag member]; decide
  rw [Options.showsReport, none, Bool.not_false, Bool.or_true]

/-- Whether work performs steps of the pipeline and shows the report of the execution at their
end. -/
abbrev Reports (options : Options) (work : Work Unit) (step : Except Fault Execution) : Prop :=
  work.Performs options.ShowsReportOnly
    (fun execution => reportText (options.has .json) execution.report) step

/-- Running a program shows its report. -/
theorem reports_runStage (program : List Instruction) :
    Reports options (runStage sources options program)
      ((Program.run sources.host (Session.start options.config.width options.config.height)
        program).mapError .run) := by
  -- Nothing follows the last step of the pipeline, while work still has to print.
  rw [← bind_pure (Except.mapError _ _)]
  refine .ofExcept_bind fun execution => .bind_printIf ?_ fun only => only .values (by decide)
  exact Work.performs_printIf Options.ShowsReportOnly.showsReport

section LastStage

variable (atRun : options.lastStage = .run)
include atRun

/-- Arranging commands in blocks and running them shows the report. -/
theorem reports_groupStage (commands : List Command) :
    Reports options (groupStage sources options commands) (do
      let program ← (Instruction.group commands).mapError .group
      (Program.run sources.host (Session.start options.config.width options.config.height)
        program).mapError .run) := by
  refine .ofExcept_bind fun program => .printIf_bind (fun only => only .grouped (by decide)) ?_
  rw [atRun, if_neg (Nat.lt_irrefl _)]
  exact reports_runStage program

/-- Parsing statements, and all that follows it, shows the report. -/
theorem reports_parseStage (statements : List Statement) :
    Reports options (parseStage sources options grammar statements) (do
      let commands ← (Statement.parseAll grammar statements).mapError .parse
      let program ← (Instruction.group commands).mapError .group
      (Program.run sources.host (Session.start options.config.width options.config.height)
        program).mapError .run) := by
  refine .ofExcept_bind fun commands => .printIf_bind (fun only => only .parsed (by decide)) ?_
  rw [atRun, if_neg (by decide)]
  exact reports_groupStage atRun commands

/-- All the work performs the interpretation of the program text and shows the report. -/
theorem reports_work (reads : options.has .lexSyntax = false)
    (hasGrammar : sources.HasGrammar options.grammar grammar)
    (hasText : sources.HasText options.input text) :
    Reports options (work sources options)
      (Program.interpret grammar sources.host options.config text) := by
  rw [work, loadGrammar_eq hasGrammar, readInput_eq hasText, Options.mode_eq reads,
    Program.interpret_eq]
  simp only [pure_bind]
  refine .printIf_bind (fun only => only .keywords (by decide)) ?_
  refine .ofExcept_bind fun lexemes => .printIf_bind (fun only => only .lexemes (by decide)) ?_
  refine .ofExcept_bind fun statements =>
    .printIf_bind (fun only => only .statements (by decide)) ?_
  rw [atRun, reads, if_neg (by decide)]
  exact reports_parseStage atRun statements

end LastStage

end Interpretation

section Outcomes

variable (sources : Sources) (options : Options)

/-- What a run leaves behind, by how its work ends. -/
theorem run_eq :
    run sources options =
      match work sources options "" with
      | (.ok _, output) => ⟨0, output, ""⟩
      | (.error error, output) => ⟨error.code, output, error.message options⟩ := rfl

variable {sources options} in
/-- A run succeeds if its work does. -/
theorem run_of_ok {output : String} (ended : work sources options "" = (.ok (), output)) :
    run sources options = ⟨0, output, ""⟩ := by
  rw [run_eq, ended]

variable {sources options} in
/-- A run fails if its work does. -/
theorem run_of_error {error : WorkError} {output : String}
    (ended : work sources options "" = (.error error, output)) :
    run sources options = ⟨error.code, output, error.message options⟩ := by
  rw [run_eq, ended]

/-- What a run prints is what its work prints, however that ends. -/
theorem output_run : (run sources options).output = (work sources options "").2 := by
  cases ended : work sources options "" with
  | mk result output =>
    cases result with
    | ok _ => rw [run_of_ok ended]
    | error error => rw [run_of_error ended]

/-- What is told about a failure does not depend on the stage with which the work would end. -/
theorem WorkError.message_upTo (error : WorkError) (last : LastStage) :
    error.message (options.upTo last) = error.message options := by
  cases error with
  | unreadable path error => rfl
  | pipeline fault => rfl

/-- Failed work never ends with the code of success. -/
theorem WorkError.code_ne_zero (error : WorkError) : error.code ≠ 0 := by
  unfold code crashCode
  split
  · decide
  · decide

/-- Work that fails with something to tell ends with the code of an error. -/
theorem WorkError.code_pipeline {fault : Fault} {diagnostic : Diagnostic}
    (told : fault.diagnostic? = some diagnostic) : (WorkError.pipeline fault).code = 1 := by
  unfold code
  split
  · rename_i same
    cases same
    have never : none = some diagnostic := told
    cases never
  · rfl

/-- A run that fails also fails, in the same way, if it may go further; what a run prints that
succeeds is printed first if it goes further. -/
theorem run_upTo {last later : LastStage} (ordered : last.rank ≤ later.rank) :
    ((run sources (options.upTo last)).code ≠ 0 →
        run sources (options.upTo later) = run sources (options.upTo last)) ∧
      ((run sources (options.upTo last)).code = 0 →
        ∃ added, (run sources (options.upTo later)).output =
          (run sources (options.upTo last)).output ++ added) := by
  have carries := carriesOn_work sources options ordered
  cases ended : work sources (options.upTo last) "" with
  | mk result output =>
    cases result with
    | ok _ =>
      rw [run_of_ok ended, output_run]
      exact ⟨fun failed => absurd rfl failed, fun _ => carries.ok ended⟩
    | error error =>
      rw [run_of_error ended, run_of_error (carries.error ended), error.message_upTo,
        error.message_upTo]
      exact ⟨fun _ => rfl, fun succeeded => absurd succeeded error.code_ne_zero⟩

variable {sources options} {grammar : Grammar} {text : String}
  (atRun : options.lastStage = .run) (reads : options.has .lexSyntax = false)
  (hasGrammar : sources.HasGrammar options.grammar grammar)
  (hasText : sources.HasText options.input text)
include atRun reads hasGrammar hasText

/-- A run up to the last stage succeeds if the program text can be interpreted, and prints the
report if nothing else is to be shown. -/
theorem run_of_interpret_ok {execution : Execution}
    (interpreted : Program.interpret grammar sources.host options.config text = .ok execution) :
    (run sources options).code = 0 ∧ (options.ShowsReportOnly → run sources options =
      ⟨0, reportText (options.has .json) execution.report, ""⟩) := by
  obtain ⟨succeeds, shows⟩ := (reports_work atRun reads hasGrammar hasText).ok interpreted ""
  rw [run_of_ok (Prod.ext succeeds rfl)]
  refine ⟨rfl, fun only => ?_⟩
  have shown := (shows only).trans String.empty_append
  exact congrArg (fun output => (⟨0, output, ""⟩ : Outcome)) shown

/-- A run up to the last stage fails if the program text cannot be interpreted, tells why unless it
crashes, and prints nothing if nothing but the report is to be shown. -/
theorem run_of_interpret_error {fault : Fault}
    (failed : Program.interpret grammar sources.host options.config text = .error fault) :
    (run sources options).code ≠ 0 ∧
      (∀ diagnostic, fault.diagnostic? = some diagnostic → (run sources options).code = 1 ∧
        (run sources options).errors = diagnostic.render options.inputName) ∧
      (options.ShowsReportOnly → (run sources options).output = "") := by
  obtain ⟨fails, shows⟩ := (reports_work atRun reads hasGrammar hasText).error failed ""
  rw [run_of_error (Prod.ext fails rfl)]
  refine ⟨(WorkError.pipeline fault).code_ne_zero, fun diagnostic told => ?_, shows⟩
  refine ⟨WorkError.code_pipeline told, ?_⟩
  show (fault.diagnostic?.map (·.render options.inputName)).getD "" = _
  rw [told]
  rfl

end Outcomes

/-- The stages of the command line extend each other and agree with the interpretation of a program.
A run up to a stage that fails is the same run up to every later stage; the output of one that
succeeds is a prefix of the output up to every later stage. If the input and the grammar can be
read, a run up to the last stage succeeds exactly if the program text can be interpreted, and
otherwise tells the failure of the interpretation, unless that is a crash. If nothing but the report
is to be shown, it prints the report as text unless data are asked for, or nothing if it fails. What
is told on the standard error output is meant without log lines. -/
theorem stages_extend_and_interpret (sources : Sources) (options : Options) :
    (∀ last later : LastStage, last.rank ≤ later.rank →
      ((run sources (options.upTo last)).code ≠ 0 →
        run sources (options.upTo later) = run sources (options.upTo last)) ∧
      ((run sources (options.upTo last)).code = 0 →
        ∃ added, (run sources (options.upTo later)).output =
          (run sources (options.upTo last)).output ++ added)) ∧
    (options.lastStage = .run → options.has .lexSyntax = false → ∀ grammar text,
      sources.HasGrammar options.grammar grammar → sources.HasText options.input text →
      ((run sources options).code = 0 ↔ ∃ execution,
        Program.interpret grammar sources.host options.config text = .ok execution) ∧
      (∀ execution, Program.interpret grammar sources.host options.config text = .ok execution →
        options.ShowsReportOnly → options.has .json = false →
          run sources options = ⟨0, execution.report.render, ""⟩) ∧
      (∀ fault, Program.interpret grammar sources.host options.config text = .error fault →
        (∀ diagnostic, fault.diagnostic? = some diagnostic → (run sources options).code = 1 ∧
          (run sources options).errors = diagnostic.render options.inputName) ∧
        (options.ShowsReportOnly → (run sources options).output = ""))) := by
  refine ⟨fun last later ordered => run_upTo sources options ordered, ?_⟩
  intro atRun reads grammar text hasGrammar hasText
  refine ⟨⟨fun succeeded => ?_, ?_⟩, ?_, ?_⟩
  · cases interpreted : Program.interpret grammar sources.host options.config text with
    | ok execution => exact ⟨execution, rfl⟩
    | error fault =>
      have code := (run_of_interpret_error atRun reads hasGrammar hasText interpreted).1
      exact absurd succeeded code
  · rintro ⟨execution, interpreted⟩
    exact (run_of_interpret_ok atRun reads hasGrammar hasText interpreted).1
  · intro execution interpreted only plain
    have shows := (run_of_interpret_ok atRun reads hasGrammar hasText interpreted).2 only
    rwa [plain] at shows
  · intro fault failed
    exact (run_of_interpret_error atRun reads hasGrammar hasText failed).2

/-- A program text at the standard input, without any files. -/
def Sources.ofInput (host : Host) (text : String) : Sources :=
  ⟨fun _ => .error .notFound, .ok text, host⟩

/-- A program without a failing statement is run to its report. With a value that was never declared
it fails while it runs, and what was shown of its blocks before stays shown; without its last period
it fails in the same way at every stage. -/
theorem stages_extend_and_interpret_undeclared :
    let host := Host.standard fun asked => ⟨2024, 2, 29, 12, 0, asked⟩
    (∃ execution, Program.interpret Grammar.builtin host { }
        "report r. write 'x'." = .ok execution ∧
      run (Sources.ofInput host "report r. write 'x'.") { } =
        ⟨0, execution.report.render, ""⟩) ∧
    (∃ fault diagnostic, Program.interpret Grammar.builtin host { }
        "report r. write x." = .error fault ∧ fault.diagnostic? = some diagnostic ∧
      (run (Sources.ofInput host "report r. write x.") { }).errors =
        diagnostic.render "<stdin>" ∧
      (run (Sources.ofInput host "report r. write x.") { }).output = "") ∧
    (∃ added,
      (run (Sources.ofInput host "report r. write x.")
        { stage := some .run, flags := [.grouped] }).output =
      (run (Sources.ofInput host "report r. write x.")
        { stage := some .group, flags := [.grouped] }).output ++ added) ∧
    run (Sources.ofInput host "report r. write x") { stage := some .run } =
      run (Sources.ofInput host "report r. write x") { stage := some .lex } := by
  intro host
  have interpreted : (Program.interpret Grammar.builtin host { }
      "report r. write 'x'.").isOk = true := by
    decide +kernel
  have refused : (tryCatch ((Program.interpret Grammar.builtin host { }
      "report r. write x.").map fun _ => false)
        fun fault => .ok fault.diagnostic?.isSome).toOption = some true := by
    decide +kernel
  refine ⟨?_, ?_, ?_, ?_⟩
  · cases ended : Program.interpret Grammar.builtin host { }
        "report r. write 'x'." with
    | error fault => simp [ended, Except.isOk, Except.toBool] at interpreted
    | ok execution =>
      have agrees := (stages_extend_and_interpret
        (Sources.ofInput host "report r. write 'x'.") { }).2 rfl rfl
        Grammar.builtin "report r. write 'x'." .builtin (.input rfl)
      exact ⟨execution, rfl, agrees.2.1 execution ended (by decide) rfl⟩
  · cases ended : Program.interpret Grammar.builtin host { }
        "report r. write x." with
    | ok execution =>
      rw [ended] at refused
      cases refused
    | error fault =>
      rw [ended] at refused
      have agrees := (stages_extend_and_interpret
        (Sources.ofInput host "report r. write x.") { }).2 rfl rfl
        Grammar.builtin "report r. write x." .builtin (.input rfl)
      obtain ⟨tells, output⟩ := agrees.2.2 fault ended
      have isTold : fault.diagnostic?.isSome = true := Option.some.inj refused
      obtain ⟨diagnostic, told⟩ := Option.isSome_iff_exists.mp isTold
      exact ⟨fault, diagnostic, rfl, told, (tells diagnostic told).2, output (by decide)⟩
  · exact ((stages_extend_and_interpret
      (Sources.ofInput host "report r. write x.") { flags := [.grouped] }).1
      .group .run (by decide)).2 (by decide)
  · exact ((stages_extend_and_interpret
      (Sources.ofInput host "report r. write x") { }).1
      .lex .run (by decide)).1 (by decide)

end CommandLine

end ReportLang
