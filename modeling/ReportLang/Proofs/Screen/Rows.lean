import ReportLang.Proofs.Screen.Tape
import ReportLang.Text.Layout

/-!
# Rows read one after the other

The rows of a screen, read one after the other, are the first cells of its tape, as many as the rows
have. What is written on a blank screen is the start of what is read, wherever rows end; the rest is
blank.
-/

namespace ReportLang

namespace Screen

variable {screen : Screen}

/-- A row has the cells of its line. -/
theorem Valid.toList_row (valid : screen.Valid) {y : Nat} {cells : Array Char}
    (row : screen.rows[y]? = some cells) :
    cells.toList = (List.range screen.width).map fun x =>
      screen.tape.cell (y * screen.width + x) := by
  have width : cells.size = screen.width := valid.size_row cells (Array.mem_of_getElem? row)
  refine List.ext_getElem (by simp [width]) fun x inRow inLine => ?_
  have inside : x < screen.width := by simpa using inLine
  have line : (y * screen.width + x) / screen.width = y := @cursor_div { screen with x, y } inside
  have column : (y * screen.width + x) % screen.width = x :=
    @cursor_mod { screen with x, y } inside
  have same : screen.tape.cell (y * screen.width + x) = cells[x] := by
    show screen.cellAt ((y * screen.width + x) / screen.width)
      ((y * screen.width + x) % screen.width) = cells[x]
    simp [cellAt, line, column, row, width, inside]
  simp [same]

/-- The first rows have the cells of the first lines. -/
theorem Valid.flatMap_take (valid : screen.Valid) {count : Nat} (below : count ≤ screen.rows.size) :
    (screen.rows.toList.take count).flatMap Array.toList =
      (List.range (count * screen.width)).map screen.tape.cell := by
  induction count with
  | zero => simp
  | succ count ih =>
    have inside : count < screen.rows.size := below
    have row : screen.rows[count]? = some screen.rows[count] := Array.getElem?_eq_getElem inside
    have next : screen.rows.toList.take (count + 1) =
        screen.rows.toList.take count ++ [screen.rows[count]] := by
      simp [List.take_add_one, inside]
    rw [next, List.flatMap_append, ih (by omega), List.flatMap_singleton, valid.toList_row row,
      Nat.add_mul, Nat.one_mul, List.range_add, List.map_append, List.map_map]
    rfl

/-- The rows have the cells of as many lines. -/
theorem Valid.flatMap_lines (valid : screen.Valid) :
    screen.lines.flatMap String.toList =
      (List.range (screen.rows.size * screen.width)).map screen.tape.cell := by
  have all := valid.flatMap_take (Nat.le_refl screen.rows.size)
  rw [← Array.length_toList, List.take_length, Array.length_toList] at all
  simpa [lines, List.flatMap_map] using all

/-- Cells that hold characters and are blank behind them are read as the characters and blanks. -/
theorem map_range_getD {chars : List Char} {count : Nat} (fits : chars.length ≤ count) :
    (List.range count).map (fun k => chars[k]?.getD ' ') =
      chars ++ List.replicate (count - chars.length) ' ' := by
  refine List.ext_getElem (by simp [fits]) fun k _ _ => ?_
  rw [List.getElem_map, List.getElem_range, List.getElem_append]
  split
  · rename_i inside
    rw [List.getElem?_eq_getElem inside, Option.getD_some]
  · rename_i behind
    rw [List.getElem?_eq_none (by omega), Option.getD_none, List.getElem_replicate]

/-- A text on a blank screen is what its rows start with, and they are blank behind it. -/
theorem flatMap_lines_write (width height : Nat) (text : String) :
    ∃ blanks, ((blank width height).write text).advance.lines.flatMap String.toList =
      text.toList ++ List.replicate blanks ' ' := by
  let moves : List Tape.Move := [.write text, .advance]
  let written := ((blank width height).write text).advance
  have moved : written.tape = (blank width height).tape.moveAll moves :=
    tape_moves (valid_blank width height) moves
  have valid : written.Valid := (valid_blank width height).editAll (moves.map Tape.Move.edit)
  rw [tape_blank] at moved
  have cells : written.tape.cell = fun k => text.toList[k]?.getD ' ' := by
    rw [moved]
    funext k
    simp [moves, Tape.moveAll, Tape.move, Tape.print, Tape.goTo]
  have cursor : written.y * written.width + written.x = text.toList.length + 1 := by
    have place := congrArg Tape.cursor moved
    simpa [tape, moves, Tape.moveAll, Tape.move, Tape.print, Tape.goTo] using place
  -- The cursor is behind the text, and in one of the rows.
  have fits : text.toList.length ≤ written.rows.size * written.width := by
    have column := valid.x_lt
    have row : (written.y + 1) * written.width ≤ written.rows.size * written.width :=
      Nat.mul_le_mul_right _ valid.y_lt
    rw [Nat.add_mul, Nat.one_mul] at row
    omega
  exact ⟨_, by rw [valid.flatMap_lines, cells, map_range_getD fits]⟩

/-- Digits that are written on a blank screen up to a length have zeros in front. -/
theorem flatMap_lines_zeroPadded (width height length : Nat) (digits : String) :
    ∃ blanks, ((blank width height).write (Text.zeroPadded length digits)).advance.lines.flatMap
        String.toList =
      List.replicate (length - digits.length) '0' ++ digits.toList ++
        List.replicate blanks ' ' := by
  obtain ⟨blanks, rows⟩ := flatMap_lines_write width height (Text.zeroPadded length digits)
  refine ⟨blanks, rows.trans ?_⟩
  rw [Text.zeroPadded, String.toList_ofList]

end Screen

end ReportLang
