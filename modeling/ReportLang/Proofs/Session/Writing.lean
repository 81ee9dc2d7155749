import ReportLang.Proofs.Screen.Printing
import ReportLang.Proofs.Session.Failure

/-!
# What a command writes

A command that writes a value moves the cursor to its position, reads the value there, and prints
its text from there on. Nothing else happens: no other cell changes, rows are added only as far as
the cursor gets, and the environment, the title and the loops are as before. For a value of the
system record the clock is asked.
-/

namespace ReportLang

open ReportLang.Action ReportLang.Update

namespace Session

variable {host : Host} {session : Session} {captures : Captures} {source : Lexeme}
  {value : Value} {text : String} {screen : Screen} {asked : Nat}

section Moves

/-- The cursor is moved to a position by its moves. -/
theorem moveTo_eq (position : Position) (screen : Screen) :
    moveTo position screen = screen.editAll (position.moves.map Tape.Move.edit) := by
  obtain ⟨newLine, column, length⟩ := position
  cases newLine with
  | true => cases column <;> rfl
  | false => cases column <;> rfl

/-- The moves that print characters with a gap behind them, if any. -/
def printMoves (chars : List Char) (noGap : Bool) : List Tape.Move :=
  .write (String.ofList chars) :: if noGap then [] else [.advance]

/-- A text is cut, or filled up, to what fits from the cursor on. -/
theorem fitted_eq_fitting (valid : screen.Valid) (length : Nat) (text : String) :
    Text.fitted (min length screen.remaining) text =
      String.ofList (screen.tape.fitting screen.tape.cursor (some length) text.toList) := by
  have column : screen.tape.cursor % screen.tape.width = screen.x := Screen.cursor_mod valid.x_lt
  have cells : screen.tape.width - screen.tape.cursor % screen.tape.width = screen.remaining := by
    rw [column]
    rfl
  have blanks (size : Nat) :
      size - (text.toList.take size).length = size - text.toList.length := by
    rw [List.length_take]
    omega
  simp only [Text.fitted, Tape.fitting, cells, blanks]

/-- A text is written by the moves that print what fits. -/
theorem writeText_eq (valid : screen.Valid) (text : String) (length : Option Nat) (noGap : Bool) :
    writeText text length noGap screen =
      screen.editAll ((printMoves
        (screen.tape.fitting screen.tape.cursor length text.toList) noGap).map Tape.Move.edit) := by
  have printed (chars : List Char) :
      (if noGap then screen.write (String.ofList chars)
        else (screen.write (String.ofList chars)).advance) =
        screen.editAll ((printMoves chars noGap).map Tape.Move.edit) := by
    cases noGap with
    | true => rfl
    | false => rfl
  cases length with
  | none =>
    have whole := printed text.toList
    rwa [String.ofList_toList] at whole
  | some length =>
    simp only [writeText, fitted_eq_fitting valid length text]
    exact printed _

/-- The moves that print characters leave them in the cells from the cursor on. -/
theorem moveAll_printMoves (tape : Tape) (chars : List Char) (noGap : Bool) :
    tape.moveAll (printMoves chars noGap) =
      (tape.print chars).goTo (tape.cursor + chars.length + if noGap then 0 else 1) := by
  cases noGap with
  | true => simp [printMoves, Tape.moveAll, Tape.move, Tape.print, Tape.goTo]
  | false => simp [printMoves, Tape.moveAll, Tape.move, Tape.print, Tape.goTo]

end Moves

/-- What a command that writes a text does to a session. -/
structure Writes (captures : Captures) (text : String) (before after : Session) : Prop where
  /-- Only the screen changes, and how often the clock was asked. -/
  only : after = { before with screen := after.screen, asked := after.asked }
  /-- The rows of the screen have its width, and the cursor is in one of them. -/
  valid : after.screen.Valid
  /-- Rows are added down to the cursor and no further. -/
  rows : before.screen.ExtendsTo after.screen
  /-- The text is printed from the start of the position on, in as many cells as the position says,
  and no other cell changes; a gap follows unless it is forbidden. -/
  prints : Tape.Prints (before.screen.tape.startOf (writePosition captures))
    (before.screen.tape.fitting (before.screen.tape.startOf (writePosition captures))
      (writePosition captures).length text.toList)
    (if captures.flag "no_gap" then 0 else 1) before.screen.tape after.screen.tape
  /-- If the position has a length, only the line where it starts can change. -/
  line : (writePosition captures).length.isSome = true → ∀ k,
    k / before.screen.width ≠
      before.screen.tape.startOf (writePosition captures) / before.screen.width →
    after.screen.tape.cell k = before.screen.tape.cell k

/-- Moving the cursor matters for what a lexeme stands for only if it is part of the system
record. -/
theorem operand_screen (screen : Screen) (other : source.path.1 ≠ Environment.systemName) :
    operand host { session with screen } source = session.operand host source := by
  unfold operand
  rw [namedValue_of_ne other, namedValue_of_ne other]

/-- Moving the cursor to a position on the screen is moving it to the start of the position. -/
theorem tape_moveTo (valid : screen.Valid) (position : Position) :
    (moveTo position screen).tape = screen.tape.goTo (screen.tape.startOf position) := by
  rw [moveTo_eq, Screen.tape_moves valid]
  exact Tape.moveAll_moves valid.tape_width_pos position

/-- A text that is written at a position is printed from the start of the position on. -/
theorem writes_of_valid (valid : session.screen.Valid) (text : String) (asked : Nat) :
    Writes captures text session { session with
      screen := writeText text (writePosition captures).length (captures.flag "no_gap")
        (moveTo (writePosition captures) session.screen)
      asked } := by
  generalize placed : writePosition captures = position
  have moved : (moveTo position session.screen).Valid := by
    rw [moveTo_eq]
    exact valid.editAll _
  have starts := tape_moveTo valid position
  -- The two parts of the command are one sequence of moves.
  have edits : writeText text position.length (captures.flag "no_gap")
      (moveTo position session.screen) =
        session.screen.editAll ((position.moves ++ printMoves
          (session.screen.tape.fitting (session.screen.tape.startOf position) position.length
            text.toList) (captures.flag "no_gap")).map Tape.Move.edit) := by
    rw [writeText_eq moved, starts, List.map_append, Screen.editAll_append, ← moveTo_eq]
    rfl
  have prints : Tape.Prints (session.screen.tape.startOf position)
      (session.screen.tape.fitting (session.screen.tape.startOf position) position.length
        text.toList) (if captures.flag "no_gap" then 0 else 1) session.screen.tape
      (writeText text position.length (captures.flag "no_gap")
        (moveTo position session.screen)).tape := by
    rw [edits, Screen.tape_moves valid, Tape.moveAll, List.foldl_append]
    show Tape.Prints _ _ _ _ ((session.screen.tape.moveAll position.moves).moveAll _)
    rw [Tape.moveAll_moves valid.tape_width_pos, moveAll_printMoves]
    exact Tape.prints_print _ _ _ _
  subst placed
  refine ⟨rfl, ?_, ?_, prints, fun limited k other => ?_⟩
  · rw [edits]
    exact valid.editAll _
  · rw [edits]
    exact Screen.extendsTo_moves valid _
  · exact prints.outside_line valid.tape_width_pos limited other

/-- A command that writes a value that can be read at its position, and has a text, does so and
proceeds. -/
theorem execute_write (written : captures.single? "source" = some source)
    (reads : operand host { session with
      screen := moveTo (writePosition captures) session.screen } source session.asked =
        (.ok value, asked))
    (shown : value.toText (captures.flag "no_zero") = .ok text) :
    execute host (.simple ⟨"write", captures⟩) session =
      (.ok .proceed, { session with
        screen := writeText text (writePosition captures).length (captures.flag "no_gap")
          (moveTo (writePosition captures) session.screen)
        asked }) := by
  have done : write host captures session = (.ok (), { session with
      screen := writeText text (writePosition captures).length (captures.flag "no_gap")
        (moveTo (writePosition captures) session.screen)
      asked }) := by
    unfold write
    rw [written]
    refine bind_eq_ok.mpr ⟨(), _, rfl, ?_⟩
    refine bind_eq_ok.mpr ⟨value, _, read_eq_ok.mpr ⟨asked, reads, rfl⟩, ?_⟩
    exact bind_eq_ok.mpr ⟨text, _, lift_eq_ok.mpr ⟨by rw [shown]; rfl, rfl⟩, rfl⟩
  exact bind_eq_ok.mpr ⟨(), _, done, rfl⟩

/-- In every session that can be reached, a command that writes a value with a text does so where it
says and as much as it says, and nothing else. The value is read after the cursor has moved to the
start of the position, which matters for the system record alone. -/
theorem write_prints_at_position {width height : Nat}
    (reached : (start width height).Reaches session)
    (written : captures.single? "source" = some source)
    (reads : operand host { session with
      screen := moveTo (writePosition captures) session.screen } source session.asked =
        (.ok value, asked))
    (shown : value.toText (captures.flag "no_zero") = .ok text) :
    (moveTo (writePosition captures) session.screen).tape =
      session.screen.tape.goTo (session.screen.tape.startOf (writePosition captures)) ∧
    (source.path.1 ≠ Environment.systemName →
      session.operand host source session.asked = (.ok value, asked)) ∧
    ∃ after, execute host (.simple ⟨"write", captures⟩) session = (.ok .proceed, after) ∧
      Writes captures text session after := by
  have valid : session.screen.Valid := reached.drawn.valid (Screen.valid_blank width height)
  have moved := tape_moveTo valid (writePosition captures)
  have before (other : source.path.1 ≠ Environment.systemName) :
      session.operand host source session.asked = (.ok value, asked) := by
    rw [← operand_screen _ other, reads]
  have done := execute_write written reads shown
  exact ⟨moved, before, _, done, writes_of_valid valid text asked⟩

/-- On a screen of five columns a text of six characters is written in the second column of a new
line, with a length beyond the end of the line: it is cut there, and the gap leads to a row that is
added. -/
theorem write_prints_at_position_cut :
    let host := Host.standard fun asked => ⟨2024, 2, 29, 12, 0, asked⟩
    let captures : Captures := [("at", .single "/2(9)"), ("source", .single "'Grüße!")]
    ∃ session after, (start 5 2).Reaches session ∧ session.screen.tape.cursor = 4 ∧
      execute host (.simple ⟨"write", captures⟩) session = (.ok .proceed, after) ∧
      Writes captures "Grüße!" session after ∧
      after.screen.lines = ["abc  ", " Grüß", "     "] ∧ after.screen.tape.cursor = 11 := by
  intro host captures
  have reached : (start 5 2).Reaches _ := Reaches.refl.step host
    (.simple ⟨"write", [("source", .single "'abc")]⟩)
  obtain ⟨_, _, after, done, writes⟩ := @write_prints_at_position host _ captures "'Grüße!"
    (.ofCharacters "Grüße!") "Grüße!" 0 5 2 reached rfl rfl rfl
  have shown : (execute host (.simple ⟨"write", captures⟩)
      (execute host (.simple ⟨"write", [("source", .single "'abc")]⟩)
        (start 5 2)).2).2.screen.lines = ["abc  ", " Grüß", "     "] := by
    decide
  rw [done] at shown
  exact ⟨_, after, reached, by decide, done, writes, shown,
    writes.prints.cursor.trans (by decide)⟩

end Session

end ReportLang
