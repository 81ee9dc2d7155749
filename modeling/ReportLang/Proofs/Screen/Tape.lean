import ReportLang.Proofs.Screen.Valid

/-!
# Screens as a tape

Row by row, the cells of a screen are a part of an endless tape that is blank behind them, and the
cursor is at one cell of the tape. Every edit that keeps the width does on the screen what a simple
move does on the tape: characters go to the cells from the cursor on, wherever rows end, and lines
start at the multiples of the width. Rows are added as far as the cursor gets and no further.
-/

namespace ReportLang

/-- Endless cells in lines of one width, with a cursor. -/
@[ext] structure Tape where
  /-- The number of cells in a line. -/
  width : Nat
  /-- The character in each cell. -/
  cell : Nat → Char
  /-- The cell of the cursor. -/
  cursor : Nat

namespace Tape

/-- What can be done on a tape: every edit of a screen but a change of the width. -/
inductive Move where
  /-- A character is written. -/
  | put (c : Char)
  /-- A text is written. -/
  | write (text : String)
  /-- The cursor moves to the right. -/
  | advance
  /-- The cursor moves to the next line. -/
  | newLine
  /-- The cursor moves to the start of a line. -/
  | endLine
  /-- A line is filled with dashes. -/
  | underline
  /-- The cursor moves to a column. -/
  | moveTo (column : Nat)

/-- The line of the cursor. -/
def line (tape : Tape) : Nat := tape.cursor / tape.width

/-- Moves the cursor to a cell. -/
def goTo (tape : Tape) (cursor : Nat) : Tape := { tape with cursor }

/-- Writes a character into the cell of the cursor and moves to the next cell. -/
def put (tape : Tape) (c : Char) : Tape :=
  { tape with
    cell := fun k => if k = tape.cursor then c else tape.cell k
    cursor := tape.cursor + 1 }

/-- Writes characters into the cells from the cursor on and moves behind them. -/
def print (tape : Tape) (chars : List Char) : Tape :=
  { tape with
    cell := fun k =>
      if tape.cursor ≤ k then chars[k - tape.cursor]?.getD (tape.cell k) else tape.cell k
    cursor := tape.cursor + chars.length }

/-- Moves to the start of the next line. -/
def newLine (tape : Tape) : Tape := tape.goTo ((tape.cursor / tape.width + 1) * tape.width)

/-- Moves to the start of the next line, unless the cursor is at the start of a line. -/
def endLine (tape : Tape) : Tape :=
  if tape.cursor % tape.width = 0 then tape else tape.newLine

/-- The tape after a move. -/
def move (tape : Tape) : Move → Tape
  | .put c => tape.put c
  | .write text => tape.print text.toList
  | .advance => tape.goTo (tape.cursor + 1)
  | .newLine => tape.newLine
  | .endLine => tape.endLine
  | .underline => tape.endLine.print (List.replicate tape.width '-')
  | .moveTo column =>
    tape.goTo (tape.cursor / tape.width * tape.width + min column (tape.width - 1))

/-- The tape after moves in order. -/
def moveAll (tape : Tape) (moves : List Move) : Tape :=
  moves.foldl move tape

/-- The last line that the cursor is in before, between or after moves in order. -/
def furthest (tape : Tape) : List Move → Nat
  | [] => tape.line
  | first :: later => max tape.line ((tape.move first).furthest later)

/-- The edit of a screen that a move is. -/
def Move.edit : Move → Screen.Edit
  | .put c => .put c
  | .write text => .write text
  | .advance => .advance
  | .newLine => .newLine
  | .endLine => .endLine
  | .underline => .underline
  | .moveTo column => .moveTo column

/-- The line of the cursor is one of those it is in. -/
theorem line_le_furthest (tape : Tape) (moves : List Move) : tape.line ≤ tape.furthest moves := by
  cases moves with
  | nil => exact Nat.le_refl _
  | cons first later => exact Nat.le_max_left _ _

/-- No characters leave a tape as it is. -/
theorem print_nil (tape : Tape) : tape.print [] = tape := by
  simp [print]

/-- Characters are written one after the other. -/
theorem print_cons (tape : Tape) (c : Char) (chars : List Char) :
    tape.print (c :: chars) = (tape.put c).print chars := by
  obtain ⟨width, cell, cursor⟩ := tape
  refine Tape.ext rfl (funext fun k => ?_) ?_
  · show (if cursor ≤ k then (c :: chars)[k - cursor]?.getD (cell k) else cell k) =
      if cursor + 1 ≤ k then chars[k - (cursor + 1)]?.getD (if k = cursor then c else cell k)
      else if k = cursor then c else cell k
    rcases Nat.lt_trichotomy k cursor with before | rfl | behind
    · have outside : ¬ cursor ≤ k := by omega
      have later : ¬ cursor + 1 ≤ k := by omega
      have other : k ≠ cursor := by omega
      rw [if_neg outside, if_neg later, if_neg other]
    · have later : ¬ k + 1 ≤ k := by omega
      rw [if_pos (Nat.le_refl k), if_neg later, if_pos rfl, Nat.sub_self, List.getElem?_cons_zero,
        Option.getD_some]
    · have inside : cursor ≤ k := by omega
      have later : cursor + 1 ≤ k := behind
      have other : k ≠ cursor := by omega
      have next : k - cursor = k - (cursor + 1) + 1 := by omega
      rw [if_pos inside, if_pos later, if_neg other, next, List.getElem?_cons_succ]
  · show cursor + (chars.length + 1) = cursor + 1 + chars.length
    omega

end Tape

namespace Screen

/-- The character in a cell; the cells outside of the rows are blank. -/
def cellAt (screen : Screen) (row column : Nat) : Char :=
  (screen.rows[row]?.bind fun cells => cells[column]?).getD ' '

/-- The cells of a screen as a tape, row by row. -/
def tape (screen : Screen) : Tape where
  width := screen.width
  cell k := screen.cellAt (k / screen.width) (k % screen.width)
  cursor := screen.y * screen.width + screen.x

variable {screen : Screen}

section Cursor

/-- The cursor is in the line of its row. -/
theorem cursor_div (inside : screen.x < screen.width) :
    (screen.y * screen.width + screen.x) / screen.width = screen.y := by
  rw [Nat.add_comm, Nat.add_mul_div_right _ _ (by omega), Nat.div_eq_of_lt inside, Nat.zero_add]

/-- The cursor is as far in its line as in its row. -/
theorem cursor_mod (inside : screen.x < screen.width) :
    (screen.y * screen.width + screen.x) % screen.width = screen.x := by
  rw [Nat.add_comm, Nat.add_mul_mod_self_right, Nat.mod_eq_of_lt inside]

/-- A cell of the tape is that of the cursor exactly if its row and column are. -/
theorem eq_cursor_iff (inside : screen.x < screen.width) (k : Nat) :
    k / screen.width = screen.y ∧ k % screen.width = screen.x ↔
      k = screen.y * screen.width + screen.x := by
  constructor
  · rintro ⟨row, column⟩
    rw [← row, ← column, Nat.div_add_mod']
  · rintro rfl
    exact ⟨cursor_div inside, cursor_mod inside⟩

/-- The line of the cursor is its row. -/
theorem Valid.line_tape (valid : screen.Valid) : screen.tape.line = screen.y :=
  cursor_div valid.x_lt

end Cursor

section Rows

/-- A row that is added is as blank as it was before. -/
theorem cellAt_newLine {row column : Nat} (inside : column < screen.width) :
    screen.newLine.cellAt row column = screen.cellAt row column := by
  simp only [cellAt, newLine]
  split
  · rfl
  · rw [Array.getElem?_push]
    split
    · rename_i last
      subst last
      simp [blankRow, inside]
    · rfl

/-- A character is put into the cell of the cursor alone. -/
theorem cellAt_modify (valid : screen.Valid) (c : Char) (row column : Nat) :
    cellAt { screen with
        rows := screen.rows.modify screen.y fun cells => cells.setIfInBounds screen.x c }
        row column =
      if row = screen.y ∧ column = screen.x then c else screen.cellAt row column := by
  obtain ⟨cells, here, inside⟩ := valid.usable.cell
  simp only [cellAt, Array.getElem?_modify]
  by_cases same : screen.y = row
  · subst same
    rw [if_pos rfl, here]
    show ((cells.setIfInBounds screen.x c)[column]?).getD ' ' = _
    rw [Array.getElem?_setIfInBounds]
    by_cases equal : screen.x = column
    · subst equal
      simp [inside]
    · have other : column ≠ screen.x := fun found => equal found.symm
      simp [equal, other]
  · have other : row ≠ screen.y := fun found => same found.symm
    simp [same, other]

end Rows

section Moves

/-- The next row is the next line. -/
theorem tape_newLine (inside : screen.x < screen.width) :
    screen.newLine.tape = screen.tape.newLine := by
  have positive : 0 < screen.width := by omega
  refine Tape.ext rfl (funext fun k => ?_) ?_
  · exact cellAt_newLine (Nat.mod_lt k positive)
  · show (screen.y + 1) * screen.width + 0 =
      ((screen.y * screen.width + screen.x) / screen.width + 1) * screen.width
    rw [cursor_div inside, Nat.add_zero]

/-- Behind the last cell of a row comes the first one of the next. -/
theorem tape_advance (inside : screen.x < screen.width) :
    screen.advance.tape = screen.tape.goTo (screen.tape.cursor + 1) := by
  simp only [advance]
  split
  · rfl
  · rename_i edge
    have last : screen.x + 1 = screen.width := by omega
    rw [tape_newLine inside]
    refine Tape.ext rfl rfl ?_
    show ((screen.y * screen.width + screen.x) / screen.width + 1) * screen.width =
      screen.y * screen.width + screen.x + 1
    rw [cursor_div inside, Nat.add_mul, Nat.one_mul]
    omega

/-- A character is written into the cell of the cursor. -/
theorem tape_put (valid : screen.Valid) (c : Char) : (screen.put c).tape = screen.tape.put c := by
  rw [put, tape_advance (by exact valid.x_lt)]
  refine Tape.ext rfl (funext fun k => ?_) rfl
  show cellAt { screen with
      rows := screen.rows.modify screen.y fun cells => cells.setIfInBounds screen.x c }
      (k / screen.width) (k % screen.width) =
    if k = screen.y * screen.width + screen.x then c
    else screen.cellAt (k / screen.width) (k % screen.width)
  rw [cellAt_modify valid]
  simp only [eq_cursor_iff valid.x_lt]

/-- Characters are written into the cells from the cursor on, wherever rows end. -/
theorem tape_putAll (valid : screen.Valid) (chars : List Char) :
    (chars.foldl put screen).tape = screen.tape.print chars := by
  induction chars generalizing screen with
  | nil => exact (Tape.print_nil screen.tape).symm
  | cons c rest ih =>
    calc
      (rest.foldl put (screen.put c)).tape = (screen.put c).tape.print rest := ih (valid.put c)
      _ = (screen.tape.put c).print rest := by rw [tape_put valid]
      _ = screen.tape.print (c :: rest) := (Tape.print_cons _ c rest).symm

/-- The end of a row is the end of a line. -/
theorem tape_endLine (valid : screen.Valid) : screen.endLine.tape = screen.tape.endLine := by
  have column : screen.tape.cursor % screen.tape.width = screen.x := cursor_mod valid.x_lt
  rw [Tape.endLine, column, endLine]
  split
  · rfl
  · exact tape_newLine valid.x_lt

/-- Every move on the screen is the same move on the tape. -/
theorem tape_move (valid : screen.Valid) (move : Tape.Move) :
    (screen.edit move.edit).tape = screen.tape.move move := by
  cases move with
  | put c => exact tape_put valid c
  | write text => exact tape_putAll valid text.toList
  | advance => exact tape_advance valid.x_lt
  | newLine => exact tape_newLine valid.x_lt
  | endLine => exact tape_endLine valid
  | underline =>
    show ((List.replicate screen.width '-').foldl put screen.endLine).tape = _
    rw [tape_putAll valid.endLine, tape_endLine valid]
    rfl
  | moveTo column =>
    refine Tape.ext rfl rfl ?_
    show screen.y * screen.width + min column (screen.width - 1) =
      (screen.y * screen.width + screen.x) / screen.width * screen.width +
        min column (screen.width - 1)
    rw [cursor_div valid.x_lt]

/-- Moves in order on the screen are the same moves on the tape. -/
theorem tape_moves (valid : screen.Valid) (moves : List Tape.Move) :
    (screen.editAll (moves.map Tape.Move.edit)).tape = screen.tape.moveAll moves := by
  induction moves generalizing screen with
  | nil => rfl
  | cons first later ih =>
    calc
      ((screen.edit first.edit).editAll (later.map Tape.Move.edit)).tape =
          (screen.edit first.edit).tape.moveAll later := ih (valid.edit first.edit)
      _ = (screen.tape.move first).moveAll later := by rw [tape_move valid]

end Moves

section Height

/-- Whether a screen has the rows of an earlier one, and of those below only the ones down to its
cursor. -/
def ExtendsTo (before after : Screen) : Prop :=
  after.rows.size = max before.rows.size (1 + after.y)

/-- Rows are added down to the last cursor of two. -/
theorem ExtendsTo.trans {before middle after : Screen} (first : before.ExtendsTo middle)
    (second : middle.ExtendsTo after) (below : middle.y ≤ after.y) : before.ExtendsTo after := by
  unfold ExtendsTo at *
  omega

/-- No row is added where the cursor stays in its row. -/
theorem extendsTo_of_stays {after : Screen} (inside : screen.y < screen.rows.size)
    (row : after.y = screen.y) (rows : after.rows.size = screen.rows.size) :
    screen.ExtendsTo after := by
  unfold ExtendsTo
  omega

/-- A row is added when the cursor moves below the last one. -/
theorem extendsTo_newLine (inside : screen.y < screen.rows.size) :
    screen.ExtendsTo screen.newLine := by
  simp only [ExtendsTo, newLine]
  split
  · omega
  · rw [Array.size_push]
    omega

/-- A row is added when the cursor moves behind the last cell. -/
theorem extendsTo_advance (inside : screen.y < screen.rows.size) :
    screen.ExtendsTo screen.advance := by
  simp only [advance]
  split
  · exact extendsTo_of_stays inside rfl rfl
  · exact extendsTo_newLine inside

/-- A row is added when the last cell is written. -/
theorem extendsTo_put (inside : screen.y < screen.rows.size) (c : Char) :
    screen.ExtendsTo (screen.put c) := by
  have rows : (screen.rows.modify screen.y fun cells => cells.setIfInBounds screen.x c).size =
      screen.rows.size := Array.size_modify
  have written : screen.ExtendsTo { screen with
      rows := screen.rows.modify screen.y fun cells => cells.setIfInBounds screen.x c } :=
    extendsTo_of_stays inside rfl rows
  exact written.trans (extendsTo_advance (by rwa [rows])) (grows_advance _).y_le

/-- Rows are added as characters fill them. -/
theorem extendsTo_putAll (valid : screen.Valid) (chars : List Char) :
    screen.ExtendsTo (chars.foldl put screen) := by
  induction chars generalizing screen with
  | nil => exact extendsTo_of_stays valid.y_lt rfl rfl
  | cons c rest ih =>
    exact (extendsTo_put valid.y_lt c).trans (ih (valid.put c)) (grows_putAll _ rest).y_le

/-- A row is added when the last row ends. -/
theorem extendsTo_endLine (valid : screen.Valid) : screen.ExtendsTo screen.endLine := by
  unfold endLine
  split
  · exact extendsTo_of_stays valid.y_lt rfl rfl
  · exact extendsTo_newLine valid.y_lt

/-- Every move adds the rows down to the cursor and no others. -/
theorem extendsTo_move (valid : screen.Valid) (move : Tape.Move) :
    screen.ExtendsTo (screen.edit move.edit) := by
  cases move with
  | put c => exact extendsTo_put valid.y_lt c
  | write text => exact extendsTo_putAll valid text.toList
  | advance => exact extendsTo_advance valid.y_lt
  | newLine => exact extendsTo_newLine valid.y_lt
  | endLine => exact extendsTo_endLine valid
  | underline =>
    exact (extendsTo_endLine valid).trans (extendsTo_putAll valid.endLine _) (grows_putAll _ _).y_le
  | moveTo column => exact extendsTo_of_stays valid.y_lt rfl rfl

/-- Moves in order add the rows down to the last line that the cursor gets to. -/
theorem size_moves (valid : screen.Valid) (moves : List Tape.Move) :
    (screen.editAll (moves.map Tape.Move.edit)).rows.size =
      max screen.rows.size (1 + screen.tape.furthest moves) := by
  induction moves generalizing screen with
  | nil =>
    have inside := valid.y_lt
    have line := valid.line_tape
    show screen.rows.size = max screen.rows.size (1 + screen.tape.line)
    omega
  | cons first later ih =>
    have inside := valid.y_lt
    have line := valid.line_tape
    have step : (screen.edit first.edit).rows.size =
        max screen.rows.size (1 + (screen.edit first.edit).y) := extendsTo_move valid first
    have next : (screen.edit first.edit).tape.line = (screen.edit first.edit).y :=
      (valid.edit first.edit).line_tape
    have reached := Tape.line_le_furthest (screen.edit first.edit).tape later
    have rest : ((screen.edit first.edit).editAll (later.map Tape.Move.edit)).rows.size =
        max (screen.edit first.edit).rows.size
          (1 + (screen.edit first.edit).tape.furthest later) := ih (valid.edit first.edit)
    show ((screen.edit first.edit).editAll (later.map Tape.Move.edit)).rows.size =
      max screen.rows.size (1 + max screen.tape.line ((screen.tape.move first).furthest later))
    rw [← tape_move valid first]
    omega

end Height

/-- A blank screen is a blank tape with the cursor in its first cell. -/
theorem tape_blank (width height : Nat) :
    (blank width height).tape = ⟨clampWidth width, fun _ => ' ', 0⟩ := by
  refine Tape.ext rfl (funext fun k => ?_) ?_
  · have inside : k % clampWidth width < clampWidth width :=
      Nat.mod_lt k (clampWidth_bounds width).1
    show cellAt (blank width height) (k / clampWidth width) (k % clampWidth width) = ' '
    simp only [cellAt, blank, Array.getElem?_replicate]
    split
    · simp [blankRow, inside]
    · rfl
  · show 0 * clampWidth width + 0 = 0
    omega

/-- A screen that starts blank is a tape: a blank one at first, and after any edits every sequence
of edits that keep the width does what the same moves do on the tape. There are as many rows as
before the moves, or as many as it takes to have the last line that the cursor gets to. -/
theorem edits_are_moves (width height : Nat) (edits : List Edit) (moves : List Tape.Move) :
    (blank width height).tape = ⟨clampWidth width, fun _ => ' ', 0⟩ ∧
    (((blank width height).editAll edits).editAll (moves.map Tape.Move.edit)).tape =
      ((blank width height).editAll edits).tape.moveAll moves ∧
    (((blank width height).editAll edits).editAll (moves.map Tape.Move.edit)).rows.size =
      max ((blank width height).editAll edits).rows.size
        (1 + ((blank width height).editAll edits).tape.furthest moves) := by
  have valid := (valid_blank width height).editAll edits
  exact ⟨tape_blank width height, tape_moves valid moves, size_moves valid moves⟩

end Screen

end ReportLang
