import ReportLang.Program
import ReportLang.Proofs.Session.Run

/-!
# Runs keep the screen valid

A run changes the screen by edits only. So the screen of a session that can be reached is the first
screen after some edits: it is valid, no row of it is lost, and the system record shows a cursor
within the line. A report is the screen at the end of a run.
-/

namespace ReportLang

open Result ReportLang.Action ReportLang.Update

namespace Session

variable {host : Host}

/-- Whether the screen of a session is another one after some edits. -/
def Drawn (origin : Screen) (session : Session) : Prop :=
  ∃ edits, session.screen = origin.editAll edits

/-- A run changes the screen by edits only. -/
theorem keptByRun_drawn (origin : Screen) : KeptByRun (Drawn origin) where
  loops _ _ drawn := drawn
  title _ _ drawn := drawn
  clock _ _ drawn := drawn
  environment _ _ _ drawn := drawn
  edit := by
    rintro session change ⟨edits, same⟩
    refine ⟨edits ++ [change], ?_⟩
    rw [Screen.editAll_append, ← same]
    rfl

/-- Instructions in order draw on the screen they start with. -/
theorem drawn_executeAll (host : Host) (program : List Instruction) (session : Session) :
    Drawn session.screen (executeAll host program session).2 :=
  ((keptByRun_drawn session.screen).executeAll program session ⟨[], rfl⟩).1

variable {origin session : Session}

/-- A session that can be reached has the screen of the first one after some edits. -/
theorem Reaches.drawn (reached : origin.Reaches session) : Drawn origin.screen session :=
  reached.keeps (keptByRun_drawn origin.screen) ⟨[], rfl⟩

/-- A screen that is drawn on a valid one is valid. -/
theorem Drawn.valid {before : Screen} (drawn : Drawn before session) (valid : before.Valid) :
    session.screen.Valid := by
  obtain ⟨edits, same⟩ := drawn
  rw [same]
  exact valid.editAll edits

/-- A screen that is drawn on another one has grown. -/
theorem Drawn.grows {before : Screen} (drawn : Drawn before session) :
    before.Grows session.screen := by
  obtain ⟨edits, same⟩ := drawn
  rw [same]
  exact Screen.grows_editAll before edits

/-- A name outside of the system record is read from its variable, along the fields after it, and
the clock is not asked. -/
theorem namedValue_of_ne {lexeme : Lexeme} (other : lexeme.path.1 ≠ Environment.systemName)
    (host : Host) (session : Session) :
    session.namedValue host lexeme = liftM (session.environment.get lexeme.path.1 >>= fun held =>
      (held.value.fieldAt lexeme.path.2).mapError RunError.value) := by
  simp only [namedValue, if_neg other]
  rw [lift_bind]
  cases session.environment.get lexeme.path.1 with
  | ok held => rfl
  | error failure => rfl

/-- A lexeme with the name of the system record and a field stands for what the record tells at the
instant that the clock answers. -/
theorem operand_system {lexeme : Lexeme} {field : String} {value : Value} {asked : Nat}
    (plain : lexeme.quote? = none) (word : lexeme.isInteger = false)
    (path : lexeme.path = (Environment.systemName, [field]))
    (told : (session.systemFields host (host.clock asked)).lookup field = some value) :
    session.operand host lexeme asked = (.ok value, asked + 1) := by
  have found : (session.systemAt host (host.clock asked)).fieldAt [field] = .ok value := by
    simp [systemAt, Value.fieldAt, Value.field, told]
  have read : (session.namedValue host lexeme) asked =
      (((session.systemAt host (host.clock asked)).fieldAt [field]).mapError RunError.value,
        asked + 1) := by
    simp only [namedValue, path, if_true]
    rfl
  simp only [operand, plain, word, Bool.false_eq_true, if_false]
  exact read.trans (congrArg (fun told => (Except.mapError RunError.value told, asked + 1)) found)

/-- The system record tells the column of the cursor and the width of the screen. -/
theorem operand_columns (host : Host) (session : Session) (asked : Nat) :
    session.operand host "sy-colno" asked = (.ok (.ofInteger (session.screen.x + 1)), asked + 1) ∧
      session.operand host "sy-linsz" asked =
        (.ok (.ofInteger session.screen.width), asked + 1) := by
  have column : Lexeme.path "sy-colno" = (Environment.systemName, ["colno"]) := by decide
  have size : Lexeme.path "sy-linsz" = (Environment.systemName, ["linsz"]) := by decide
  constructor
  · exact operand_system (by decide) (by decide) column (by simp [systemFields, List.lookup_cons])
  · exact operand_system (by decide) (by decide) size (by simp [systemFields])

end Session

/-- The report of a run is the screen that the instructions leave. -/
theorem Program.report_of_run {host : Host} {session : Session} {program : List Instruction}
    {execution : Execution} (ran : run host session program = .ok execution) :
    ∃ title, execution.report =
      Report.ofScreen title (Session.executeAll host program session).2.screen := by
  obtain ⟨_, _, after⟩ := Result.bind_eq_ok.mp ran
  obtain ⟨_, _, done⟩ := Result.bind_eq_ok.mp after
  rw [← Except.ok.inj done]
  exact ⟨_, rfl⟩

namespace Session

/-- On every screen that starts blank, after any edits, and in every session that can be reached
from the start, the rows have the width of the screen, which is within its limits, and the cursor is
in one of them; the cell under the cursor, the last column and the remaining cells are there; rows
are never lost and the cursor never moves up. The system record tells a column within the line. So
the report of a run has rows of its width, and no fewer than the screen had at the start. -/
theorem screen_valid_throughout (width height : Nat) :
    (∀ edits later, ((Screen.blank width height).editAll edits).Valid ∧
      ((Screen.blank width height).editAll edits).Usable ∧
      ((Screen.blank width height).editAll edits).Grows
        (((Screen.blank width height).editAll edits).editAll later)) ∧
    (∀ session, (start width height).Reaches session →
      session.screen.Valid ∧ session.screen.Usable ∧
      (∀ host asked, ∃ column size : Int,
        session.operand host "sy-colno" asked = (.ok (.ofInteger column), asked + 1) ∧
        session.operand host "sy-linsz" asked = (.ok (.ofInteger size), asked + 1) ∧
        1 ≤ column ∧ column ≤ size) ∧
      ∀ later, session.Reaches later → session.screen.Grows later.screen) ∧
    ∀ host program execution, Program.run host (start width height) program = .ok execution →
      (∀ line ∈ execution.report.lines, line.length = execution.report.width) ∧
      max 1 (min height Screen.maxHeight) ≤ execution.report.lines.length := by
  have blank := Screen.valid_blank width height
  refine ⟨fun edits later => ?_, fun session reached => ?_, fun host program execution ran => ?_⟩
  · have valid := blank.editAll edits
    exact ⟨valid, valid.usable, Screen.grows_editAll _ later⟩
  · have valid : session.screen.Valid := reached.drawn.valid blank
    refine ⟨valid, valid.usable, fun host asked => ?_, fun later reaches => reaches.drawn.grows⟩
    obtain ⟨column, size⟩ := operand_columns host session asked
    have inside := valid.x_lt
    exact ⟨_, _, column, size, by omega, by omega⟩
  · obtain ⟨title, report⟩ := Program.report_of_run ran
    have drawn := drawn_executeAll host program (start width height)
    have valid := drawn.valid blank
    rw [report]
    refine ⟨valid.length_line, ?_⟩
    have rows := drawn.grows.size_le
    rw [start, Screen.blank, Array.size_replicate] at rows
    rwa [Report.ofScreen, Screen.length_lines]

/-- A text is written on a screen of five columns, a write that fails leaves the cursor in the
fourth one, and a report of three columns moves it to the next row. A run with a report of three
columns has rows of three characters. -/
theorem screen_valid_throughout_narrowed :
    (∃ session, (start 5 0).Reaches session ∧ session.screen.lines = ["abc", "   "] ∧
      session.screen.Valid ∧ session.screen.Usable) ∧
    ∃ execution, Program.run (.standard fun _ => ⟨2024, 2, 29, 12, 0, 0⟩) (start 5 2)
        [.simple ⟨"report", [("title", .single "t"), ("width", .single "3")]⟩,
          .simple ⟨"write", [("source", .single "'abcd")]⟩] = .ok execution ∧
      execution.report.lines = ["abc", "d  "] ∧
      ∀ line ∈ execution.report.lines, line.length = execution.report.width := by
  constructor
  · have written : (start 5 0).Reaches _ := Reaches.refl.step
      (.standard fun _ => ⟨2024, 2, 29, 12, 0, 0⟩)
      (.simple ⟨"write", [("source", .single "'abc")]⟩)
    have failed := written.step (.standard fun _ => ⟨2024, 2, 29, 12, 0, 0⟩)
      (.simple ⟨"write", [("at", .single "4(1)"), ("source", .single "missing")]⟩)
    have narrowed := failed.step (.standard fun _ => ⟨2024, 2, 29, 12, 0, 0⟩)
      (.simple ⟨"report", [("title", .single "t"), ("width", .single "3")]⟩)
    obtain ⟨valid, usable, _⟩ := (screen_valid_throughout 5 0).2.1 _ narrowed
    exact ⟨_, narrowed, by decide +kernel, valid, usable⟩
  · have shown : (Program.run (.standard fun _ => ⟨2024, 2, 29, 12, 0, 0⟩) (start 5 2)
        [.simple ⟨"report", [("title", .single "t"), ("width", .single "3")]⟩,
          .simple ⟨"write", [("source", .single "'abcd")]⟩]).toOption.map (·.report.lines) =
        some ["abc", "d  "] := by decide +kernel
    generalize ran : Program.run (.standard fun _ => ⟨2024, 2, 29, 12, 0, 0⟩) (start 5 2)
      [.simple ⟨"report", [("title", .single "t"), ("width", .single "3")]⟩,
        .simple ⟨"write", [("source", .single "'abcd")]⟩] = result at shown
    cases result with
    | error failure => simp [Except.toOption] at shown
    | ok execution =>
      have lines : execution.report.lines = ["abc", "d  "] := by
        simpa [Except.toOption] using shown
      exact ⟨execution, rfl, lines, ((screen_valid_throughout 5 2).2.2 _ _ _ ran).1⟩

end Session

end ReportLang
