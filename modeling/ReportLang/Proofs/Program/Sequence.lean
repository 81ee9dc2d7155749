import ReportLang.Proofs.Lexeme.Scanning
import ReportLang.Proofs.Program.Stages
import ReportLang.Proofs.Statement.Segmenting

/-!
# Programs in a row

Each stage of the work on a program text treats two texts with a line break between them as the two
texts in turn: reading is back at the start of a line after the break, a statement and a block that
were begun have ended with the first text, and execution goes on from the session that the first
program leaves. So a program that is given in pieces is the program that is given as a whole.
-/

namespace ReportLang

/-- Statements in a row are parsed one after the other. -/
theorem Statement.parseAll_append {grammar : Grammar} {first second : List Statement}
    {commands others : List Command} (left : parseAll grammar first = .ok commands)
    (right : parseAll grammar second = .ok others) :
    parseAll grammar (first ++ second) = .ok (commands ++ others) := by
  rw [parseAll] at left right ⊢
  simp [left, right, bind, Except.bind, pure, Except.pure]

/-- Commands that leave no block open are arranged apart from those after them. -/
theorem Instruction.group_append {first second : List Command}
    {program later : List Instruction} (left : group first = .ok program)
    (right : group second = .ok later) : group (first ++ second) = .ok (program ++ later) := by
  obtain ⟨wellFormed, agree⟩ := flatten_of_group left
  obtain ⟨laterFormed, laterAgree⟩ := flatten_of_group right
  refine group_of_flatten ?_ ?_
  · rw [wellFormedAll_iff] at wellFormed laterFormed ⊢
    intro instruction member
    exact (List.mem_append.mp member).elim (wellFormed instruction) (laterFormed instruction)
  · rw [flattenAll_append]
    exact List.rel_append agree laterAgree

section Steps

variable {host : Host} {instruction : Instruction} {rest : List Instruction}
  {session after : Session}

/-- Instructions go on after a first one that proceeds. -/
theorem Session.executeAll_cons_of_ok
    (step : execute host instruction session = (.ok .proceed, after)) :
    executeAll host (instruction :: rest) session = executeAll host rest after := by
  rw [executeAll, Update.bind_apply, step]

/-- Instructions fail where the first one fails. -/
theorem Session.executeAll_cons_of_error {failure : RunError}
    (step : execute host instruction session = (.error failure, after)) :
    executeAll host (instruction :: rest) session = (.error failure, after) := by
  rw [executeAll, Update.bind_apply, step]

end Steps

/-- Instructions in a row are executed as the first ones and then, if these proceed, the others. -/
theorem Session.executeAll_append (host : Host) (first second : List Instruction)
    (session : Session) :
    executeAll host (first ++ second) session =
      match executeAll host first session with
      | (.ok .proceed, after) => executeAll host second after
      | ended => ended := by
  induction first generalizing session with
  | nil =>
    rw [List.nil_append, executeAll]
    rfl
  | cons instruction rest ih =>
    rw [List.cons_append, executeAll, executeAll, Update.bind_apply, Update.bind_apply]
    generalize execute host instruction session = outcome
    obtain ⟨ended, after⟩ := outcome
    cases ended with
    | error failure => rfl
    | ok signal =>
      cases signal with
      | proceed => exact ih after
      | leaveLoop => rfl
      | nextPass => rfl

namespace Program

/-- Whether a text passes every stage before execution, and what each stage yields. -/
structure Passes (grammar : Grammar) (text : String) (lexemes : List Lexeme)
    (statements : List Statement) (commands : List Command) (program : List Instruction) :
    Prop where
  /-- The text is cut into lexemes. -/
  scanned : Lexeme.scan .statement text = .ok lexemes
  /-- The lexemes form statements. -/
  segmented : Statement.segment .statement lexemes = .ok statements
  /-- The statements are commands. -/
  parsed : Statement.parseAll grammar statements = .ok commands
  /-- The commands are arranged in blocks. -/
  grouped : Instruction.group commands = .ok program

/-- A text has instructions exactly when it passes every stage. -/
theorem instructions_eq_ok_iff_passes {grammar : Grammar} {text : String}
    {program : List Instruction} :
    instructions grammar text = .ok program ↔
      ∃ lexemes statements commands, Passes grammar text lexemes statements commands program := by
  constructor
  · intro arranged
    obtain ⟨commands, found, grouped⟩ := instructions_eq_ok.mp arranged
    obtain ⟨statements, formed, parsed⟩ := commands_eq_ok.mp found
    obtain ⟨lexemes, scanned, segmented⟩ := statements_eq_ok.mp formed
    exact ⟨lexemes, statements, commands, scanned, segmented, parsed, grouped⟩
  · rintro ⟨lexemes, statements, commands, passes⟩
    have formed := statements_eq_ok.mpr ⟨lexemes, passes.scanned, passes.segmented⟩
    have found := commands_eq_ok.mpr ⟨statements, formed, passes.parsed⟩
    exact instructions_eq_ok.mpr ⟨commands, found, passes.grouped⟩

/-- The statements of two texts with a line break between them are those of the first and then those
of the second. -/
theorem statements_append_line {mode : Mode} {first second : String}
    {found later : List Statement} (left : statements mode first = .ok found)
    (right : statements mode second = .ok later) :
    statements mode (first ++ "\n" ++ second) = .ok (found ++ later) := by
  obtain ⟨lexemes, scanned, segmented⟩ := statements_eq_ok.mp left
  obtain ⟨others, laterScanned, laterSegmented⟩ := statements_eq_ok.mp right
  exact statements_eq_ok.mpr ⟨lexemes ++ others, Lexeme.scan_append_line scanned laterScanned,
    Statement.segment_append segmented laterSegmented⟩

/-- Two programs with a line break between their texts are one program. If both texts pass every
stage, the whole text does, and each stage yields what it yields for the first text followed by what
it yields for the second. In every session the whole is executed as the first program and then, if
that proceeds, the second one from the session it leaves; a failure or a signal of the first program
is that of the whole. -/
theorem passes_append_line {grammar : Grammar} {first second : String}
    {lexemes otherLexemes : List Lexeme} {statements otherStatements : List Statement}
    {commands otherCommands : List Command} {program otherProgram : List Instruction}
    (left : Passes grammar first lexemes statements commands program)
    (right : Passes grammar second otherLexemes otherStatements otherCommands otherProgram) :
    Passes grammar (first ++ "\n" ++ second) (lexemes ++ otherLexemes)
        (statements ++ otherStatements) (commands ++ otherCommands) (program ++ otherProgram) ∧
      ∀ host session, Session.executeAll host (program ++ otherProgram) session =
        match Session.executeAll host program session with
        | (.ok .proceed, after) => Session.executeAll host otherProgram after
        | ended => ended := by
  constructor
  · exact {
      scanned := Lexeme.scan_append_line left.scanned right.scanned
      segmented := Statement.segment_append left.segmented right.segmented
      parsed := Statement.parseAll_append left.parsed right.parsed
      grouped := Instruction.group_append left.grouped right.grouped }
  · exact fun host session => Session.executeAll_append host program otherProgram session

/-- A program that ends in a comment and one that starts with a comment are one program. -/
theorem passes_append_line_comments :
    ∃ program otherProgram,
      instructions Grammar.builtin "report r. write 'it''s'. \x22 ends." = .ok program ∧
      instructions Grammar.builtin "* starts.\nexit. uline." = .ok otherProgram ∧
      instructions Grammar.builtin
        ("report r. write 'it''s'. \x22 ends." ++ "\n" ++ "* starts.\nexit. uline.") =
          .ok (program ++ otherProgram) ∧
      ∀ host session, Session.executeAll host (program ++ otherProgram) session =
        match Session.executeAll host program session with
        | (.ok .proceed, after) => Session.executeAll host otherProgram after
        | ended => ended := by
  have firstPasses :
      (instructions Grammar.builtin "report r. write 'it''s'. \x22 ends.").isOk = true := by
    decide
  have secondPasses :
      (instructions Grammar.builtin "* starts.\nexit. uline.").isOk = true := by
    decide
  cases left : instructions Grammar.builtin "report r. write 'it''s'. \x22 ends." with
  | error fault => simp [left, Except.isOk, Except.toBool] at firstPasses
  | ok program =>
    cases right : instructions Grammar.builtin "* starts.\nexit. uline." with
    | error fault => simp [right, Except.isOk, Except.toBool] at secondPasses
    | ok otherProgram =>
      obtain ⟨_, _, _, passes⟩ := instructions_eq_ok_iff_passes.mp left
      obtain ⟨_, _, _, otherPasses⟩ := instructions_eq_ok_iff_passes.mp right
      obtain ⟨whole, runs⟩ := passes_append_line passes otherPasses
      exact ⟨program, otherProgram, rfl, rfl,
        instructions_eq_ok_iff_passes.mpr ⟨_, _, _, whole⟩, runs⟩

end Program

end ReportLang
