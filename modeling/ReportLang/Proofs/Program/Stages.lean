import ReportLang.Program
import ReportLang.Proofs.Session.Supplied

/-!
# Stages of a failed program

Every failure of a program is told with the stage at which the work stopped, unless it is a crash of
the run, of which nothing is told. For the stages before execution this is a matter of the kinds of
failure alone; a run could only blame the grammar if a command lacked a capture, which the grammar
of report programs rules out.
-/

namespace ReportLang

/-- A failure of a run belongs to the stages of a run, unless it is one that a grammar has to
prevent. -/
theorem RunError.IsExpected.stage {failure : RunError} (expected : failure.IsExpected)
    {diagnostic : Diagnostic} (told : failure.diagnostic? = some diagnostic) :
    diagnostic.kind.stage = .typing ∨ diagnostic.kind.stage = .running := by
  cases failure with
  | value error =>
    obtain rfl := Option.some.inj told
    cases error with
    | invalidTy error =>
      cases error <;> simp [ValueError.diagnostic, TyError.diagnostic, Kind.stage]
    | _ => simp [ValueError.diagnostic, Kind.stage]
  | missingCapture name => exact expected.elim
  | missingOperand name => exact expected.elim
  | notExecutable keyword => exact expected.elim
  | crash cause => cases told
  | _ =>
    obtain rfl := Option.some.inj told
    simp [Kind.stage]

/-- Only of a crash nothing is told. -/
theorem RunError.eq_crash {failure : RunError} (untold : failure.diagnostic? = none) :
    ∃ cause, failure = .crash cause := by
  cases failure with
  | crash cause => exact ⟨cause, rfl⟩
  | _ => cases untold

/-- A command that is written out agrees with one of those that were given. -/
theorem exists_agrees {commands written : List Command}
    (agree : List.Forall₂ Command.Agrees commands written) {command : Command}
    (member : command ∈ written) : ∃ given ∈ commands, given.Agrees command := by
  induction agree with
  | nil => simp at member
  | cons agrees _ ih =>
    rcases List.mem_cons.mp member with rfl | later
    · exact ⟨_, List.mem_cons_self, agrees⟩
    · obtain ⟨given, among, own⟩ := ih later
      exact ⟨given, List.mem_cons_of_mem _ among, own⟩

/-- Commands that are parsed one by one have what they rely on, and so have the blocks they are
arranged in. -/
theorem Statement.allSupplied_of_parseAll {statements : List Statement} {commands : List Command}
    {program : List Instruction}
    (parsed : Statement.parseAll Grammar.builtin statements = .ok commands)
    (grouped : Instruction.group commands = .ok program) :
    Instruction.WellFormedAll program ∧
      Command.AllSupplied (Instruction.flattenAll program) := by
  obtain ⟨wellFormed, agree⟩ := Instruction.flatten_of_group grouped
  refine ⟨wellFormed, fun command member opens => ?_⟩
  obtain ⟨given, among, agrees⟩ := exists_agrees agree member
  rcases agrees with rfl | ⟨closes, sameRole, _⟩
  · obtain ⟨statement, _, own⟩ := Statement.exists_of_mem_parseAll parsed among
    exact Statement.supplied_of_parse own
  · rw [sameRole, opens] at closes
    simp at closes

namespace Program

/-- Where the work on a program text stops, and with which failure: the function of each stage
fails, and those of the stages before it succeed. -/
inductive StopsAt (grammar : Grammar) (host : Host) (config : Config) (text : String) :
    Fault → Stage → Prop where
  /-- The text is not cut into lexemes. -/
  | lexing {error : ScanError} (failed : Lexeme.scan .statement text = .error error) :
    StopsAt grammar host config text (.scan error) .lexing
  /-- The lexemes do not form statements. -/
  | segmenting {lexemes : List Lexeme} {error : SegmentError}
    (scanned : Lexeme.scan .statement text = .ok lexemes)
    (failed : Statement.segment .statement lexemes = .error error) :
    StopsAt grammar host config text (.segment error) .segmenting
  /-- A statement is not parsed. -/
  | parsing {lexemes : List Lexeme} {statements : List Statement} {error : ParseError}
    (scanned : Lexeme.scan .statement text = .ok lexemes)
    (segmented : Statement.segment .statement lexemes = .ok statements)
    (failed : Statement.parseAll grammar statements = .error error) :
    StopsAt grammar host config text (.parse error) .parsing
  /-- The commands are not arranged in blocks. -/
  | grouping {lexemes : List Lexeme} {statements : List Statement} {commands : List Command}
    {error : GroupError} (scanned : Lexeme.scan .statement text = .ok lexemes)
    (segmented : Statement.segment .statement lexemes = .ok statements)
    (parsed : Statement.parseAll grammar statements = .ok commands)
    (failed : Instruction.group commands = .error error) :
    StopsAt grammar host config text (.group error) .grouping
  /-- The run fails, in storing or combining values or otherwise. -/
  | running {lexemes : List Lexeme} {statements : List Statement} {commands : List Command}
    {program : List Instruction} {error : RunError} {stage : Stage}
    (scanned : Lexeme.scan .statement text = .ok lexemes)
    (segmented : Statement.segment .statement lexemes = .ok statements)
    (parsed : Statement.parseAll grammar statements = .ok commands)
    (grouped : Instruction.group commands = .ok program)
    (failed : run host (Session.start config.width config.height) program = .error error)
    (among : stage = .typing ∨ stage = .running) :
    StopsAt grammar host config text (.run error) stage

/-- A text has statements exactly when it is cut into lexemes that form them. -/
theorem statements_eq_ok {mode : Mode} {text : String} {found : List Statement} :
    statements mode text = .ok found ↔
      ∃ lexemes, Lexeme.scan mode text = .ok lexemes ∧
        Statement.segment mode lexemes = .ok found := by
  simp only [statements, Result.bind_eq_ok, Result.mapError_eq_ok]

/-- A text has commands exactly when its statements are parsed. -/
theorem commands_eq_ok {grammar : Grammar} {text : String} {found : List Command} :
    commands grammar text = .ok found ↔
      ∃ parts, statements .statement text = .ok parts ∧
        Statement.parseAll grammar parts = .ok found := by
  simp only [commands, Result.bind_eq_ok, Result.mapError_eq_ok]

/-- A text has instructions exactly when its commands are arranged in blocks. -/
theorem instructions_eq_ok {grammar : Grammar} {text : String} {found : List Instruction} :
    instructions grammar text = .ok found ↔
      ∃ parts, commands grammar text = .ok parts ∧ Instruction.group parts = .ok found := by
  simp only [instructions, Result.bind_eq_ok, Result.mapError_eq_ok]

section Outcome

variable {grammar : Grammar} {host : Host} {config : Config} {text : String}
  {program : List Instruction} {session ended : Session}

/-- A text that has instructions is interpreted by running them. -/
theorem interpret_of_instructions (found : instructions grammar text = .ok program) :
    interpret grammar host config text =
      (run host (Session.start config.width config.height) program).mapError .run := by
  rw [interpret, found]
  rfl

/-- The report of a run that ends is what the screen shows at the end. -/
theorem run_of_executeAll {signal : Signal} (starts : checkStart program = .ok ())
    (ran : Session.executeAll host program session = (.ok signal, ended)) :
    run host session program =
      .ok ⟨Report.ofScreen (ended.title.getD "") ended.screen, ended.environment⟩ := by
  rw [run, starts, ran]
  rfl

/-- A run fails as its instructions do. -/
theorem run_of_executeAll_error {failure : RunError} (starts : checkStart program = .ok ())
    (ran : Session.executeAll host program session = (.error failure, ended)) :
    run host session program = .error failure := by
  rw [run, starts, ran]
  rfl

end Outcome

/-- A run of a program that was parsed and arranged in blocks fails in none of the ways that the
grammar has to prevent, whatever the session. -/
theorem isExpected_of_executeAll {statements : List Statement} {commands : List Command}
    {program : List Instruction}
    (parsed : Statement.parseAll Grammar.builtin statements = .ok commands)
    (grouped : Instruction.group commands = .ok program) (host : Host) (session : Session)
    (failure : RunError) (failed : (Session.executeAll host program session).1 = .error failure) :
    failure.IsExpected := by
  obtain ⟨wellFormed, all⟩ := Statement.allSupplied_of_parseAll parsed grouped
  have kept := Session.isExpected_executeAll host program wellFormed all session trivial
  exact kept.2.error failure failed

/-- A run fails at its start or in one of its instructions. -/
theorem isExpected_of_run {statements : List Statement} {commands : List Command}
    {program : List Instruction}
    (parsed : Statement.parseAll Grammar.builtin statements = .ok commands)
    (grouped : Instruction.group commands = .ok program) {host : Host} {session : Session}
    {failure : RunError} (failed : run host session program = .error failure) :
    failure.IsExpected := by
  rw [run, Result.bind_eq_error] at failed
  rcases failed with start | ⟨_, _, after⟩
  · unfold checkStart at start
    split at start
    · obtain rfl := Except.error.inj start
      exact trivial
    · split at start
      · simp at start
      · obtain rfl := Except.error.inj start
        exact trivial
  · rcases Result.bind_eq_error.mp after with inside | ⟨_, _, done⟩
    · exact isExpected_of_executeAll parsed grouped host session failure inside
    · simp [pure, Except.pure] at done

/-- Before the run every failure is told with the stage at which the work stopped. -/
theorem stopsAt_of_instructions {grammar : Grammar} {host : Host} {config : Config}
    {text : String} {fault : Fault} (failed : instructions grammar text = .error fault) :
    ∃ diagnostic, fault.diagnostic? = some diagnostic ∧
      StopsAt grammar host config text fault diagnostic.kind.stage := by
  simp only [instructions, Result.bind_eq_error, Result.mapError_eq_error] at failed
  rcases failed with failed | ⟨commands, parsed, error, failed, rfl⟩
  · simp only [Program.commands, Result.bind_eq_error, Result.mapError_eq_error] at failed
    rcases failed with failed | ⟨statements, formed, error, failed, rfl⟩
    · simp only [Program.statements, Result.bind_eq_error, Result.mapError_eq_error,
        Result.mapError_eq_ok] at failed
      rcases failed with ⟨error, failed, rfl⟩ | ⟨lexemes, scanned, error, failed, rfl⟩
      · have stage : error.diagnostic.kind.stage = .lexing := by
          cases error with
          | unterminatedLiteral read line => rfl
          | unsupportedCharacter c line => rfl
        exact ⟨error.diagnostic, rfl, stage ▸ .lexing failed⟩
      · have stage : error.diagnostic.kind.stage = .segmenting := by
          cases error with
          | unexpectedChain body => rfl
          | unexpectedSeparator body => rfl
          | missingTerminator pending => rfl
        exact ⟨error.diagnostic, rfl, stage ▸ .segmenting scanned failed⟩
    · obtain ⟨lexemes, scanned, segmented⟩ := statements_eq_ok.mp formed
      have stage : error.diagnostic.kind.stage = .parsing := by
        cases error with
        | empty => rfl
        | unknownKeyword keyword statement => rfl
        | mismatch statement => rfl
        | leftover statement lexeme => rfl
      exact ⟨error.diagnostic, rfl, stage ▸ .parsing scanned segmented failed⟩
  · obtain ⟨statements, formed, parsed⟩ := commands_eq_ok.mp parsed
    obtain ⟨lexemes, scanned, segmented⟩ := statements_eq_ok.mp formed
    have stage : error.diagnostic.kind.stage = .grouping := by
      cases error with
      | cannotClose closer opened => rfl
      | afterElse keyword => rfl
      | nameMismatch ended begun => rfl
      | nothingOpen closer => rfl
      | neverClosed opened => rfl
    exact ⟨error.diagnostic, rfl, stage ▸ .grouping scanned segmented parsed failed⟩

/-- With the grammar of report programs every failure that is told is told with the stage at which
the work really stopped, and nothing is told of the crashes of a run alone. No run of a program that
was parsed and arranged in blocks, in whatever session, lacks a capture or meets a command without
an execution. -/
theorem interpret_stage_truthful (host : Host) :
    (∀ config text fault, interpret Grammar.builtin host config text = .error fault →
      (∀ diagnostic, fault.diagnostic? = some diagnostic →
        StopsAt Grammar.builtin host config text fault diagnostic.kind.stage) ∧
      (fault.diagnostic? = none → ∃ cause, fault = .run (.crash cause))) ∧
    (∀ statements commands program,
      Statement.parseAll Grammar.builtin statements = .ok commands →
      Instruction.group commands = .ok program →
      ∀ session failure, (Session.executeAll host program session).1 = .error failure →
        (∀ name, failure ≠ .missingCapture name) ∧ (∀ name, failure ≠ .missingOperand name) ∧
          ∀ keyword, failure ≠ .notExecutable keyword) := by
  constructor
  · intro config text fault failed
    simp only [interpret, Result.bind_eq_error, Result.mapError_eq_error] at failed
    rcases failed with before | ⟨program, arranged, error, failed, rfl⟩
    · obtain ⟨own, told, stops⟩ := stopsAt_of_instructions before
      refine ⟨fun diagnostic same => ?_, fun untold => ?_⟩
      · obtain rfl : own = diagnostic := Option.some.inj (told.symm.trans same)
        exact stops
      · rw [told] at untold
        cases untold
    · obtain ⟨commands, parsed, grouped⟩ := instructions_eq_ok.mp arranged
      obtain ⟨statements, formed, parsed⟩ := commands_eq_ok.mp parsed
      obtain ⟨lexemes, scanned, segmented⟩ := statements_eq_ok.mp formed
      have expected := isExpected_of_run parsed grouped failed
      refine ⟨fun diagnostic told => ?_, fun untold => ?_⟩
      · exact .running scanned segmented parsed grouped failed (expected.stage told)
      · obtain ⟨cause, rfl⟩ := RunError.eq_crash untold
        exact ⟨cause, rfl⟩
  · intro statements commands program parsed grouped session failure failed
    have expected := isExpected_of_executeAll parsed grouped host session failure failed
    refine ⟨?_, ?_, ?_⟩
    all_goals
      rintro name rfl
      exact expected.elim

/-- A value that is stored in a variable that was never declared stops the run, and is told so. -/
theorem interpret_stage_truthful_undeclared :
    let host : Host := .standard fun _ => ⟨2024, 2, 29, 12, 0, 0⟩
    ∃ fault diagnostic, interpret Grammar.builtin host { } "report r. do 2 times. x = 1. enddo." =
        .error fault ∧
      fault.diagnostic? = some diagnostic ∧ diagnostic.kind.stage = .running ∧
      StopsAt Grammar.builtin host { } "report r. do 2 times. x = 1. enddo." fault .running := by
  intro host
  have told : (match interpret Grammar.builtin host { } "report r. do 2 times. x = 1. enddo." with
      | .ok _ => none
      | .error fault => fault.diagnostic?.map (·.kind.stage)) = some .running := by
    decide +kernel
  cases ended : interpret Grammar.builtin host { } "report r. do 2 times. x = 1. enddo." with
  | ok execution =>
    rw [ended] at told
    simp at told
  | error fault =>
    rw [ended] at told
    obtain ⟨diagnostic, same, stage⟩ := Option.map_eq_some_iff.mp told
    have stops := ((interpret_stage_truthful host).1 _ _ _ ended).1 diagnostic same
    exact ⟨fault, diagnostic, rfl, same, stage, stage ▸ stops⟩

end Program

end ReportLang
