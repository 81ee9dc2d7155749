import ReportLang.Position
import ReportLang.Proofs.Screen.Tape
import ReportLang.Text.Layout

/-!
# Printing at a position

Where a position leads on a tape, and what a text becomes there: a new line is the next start of a
line, a column is counted from one within the line and is never behind its end, and a length cuts
the text or fills it up, but not beyond the end of the line. What is printed is in the cells from
there on, and all other cells are as before.
-/

namespace ReportLang

namespace Tape

/-- Whether characters are in the cells from `start` on, all other cells are as before, and the
cursor is `gap` cells behind them. -/
structure Prints (start : Nat) (chars : List Char) (gap : Nat) (before after : Tape) : Prop where
  /-- The lines are as long as before. -/
  width : after.width = before.width
  /-- The characters are there, one after the other. -/
  inside : ∀ k (inside : k < chars.length), after.cell (start + k) = chars[k]
  /-- Nothing else has changed. -/
  outside : ∀ k, k < start ∨ start + chars.length ≤ k → after.cell k = before.cell k
  /-- The cursor is behind the characters. -/
  cursor : after.cursor = start + chars.length + gap

variable {tape : Tape}

/-- The cell where a position starts: at the next start of a line if a new line is asked for and the
cursor is not at the start of one, and then in the column that is asked for, if any. -/
def startOf (tape : Tape) (position : Position) : Nat :=
  let cursor :=
    if position.newLine ∧ tape.cursor % tape.width ≠ 0 then
      (tape.cursor / tape.width + 1) * tape.width
    else tape.cursor
  match position.column with
  | some column => cursor / tape.width * tape.width + (max 1 (min column tape.width) - 1)
  | none => cursor

/-- What is printed of characters from a cell on: all of them, or if there is a length, as many
cells as it says, but not more than the line has, filled with the first characters and then with
blanks. -/
def fitting (tape : Tape) (start : Nat) (length : Option Nat) (chars : List Char) : List Char :=
  match length with
  | none => chars
  | some length =>
    let cells := min length (tape.width - start % tape.width)
    chars.take cells ++ List.replicate (cells - chars.length) ' '

/-- Characters that are printed and a gap behind them. -/
theorem prints_print (tape : Tape) (start : Nat) (chars : List Char) (gap : Nat) :
    Prints start chars gap tape
      (((tape.goTo start).print chars).goTo (start + chars.length + gap)) where
  width := rfl
  inside k inside := by
    show (if start ≤ start + k then
      chars[start + k - start]?.getD (tape.cell (start + k)) else tape.cell (start + k)) = chars[k]
    have behind : start ≤ start + k := Nat.le_add_right start k
    rw [if_pos behind, Nat.add_sub_cancel_left, List.getElem?_eq_getElem inside, Option.getD_some]
  outside k apart := by
    show (if start ≤ k then chars[k - start]?.getD (tape.cell k) else tape.cell k) = tape.cell k
    split
    · rename_i behind
      have absent : chars[k - start]? = none := by
        rw [List.getElem?_eq_none_iff]
        omega
      rw [absent, Option.getD_none]
    · rfl
  cursor := rfl

/-- What has a length stays in the line where it starts. -/
theorem length_fitting_le (positive : 0 < tape.width) (start length : Nat) (chars : List Char) :
    start % tape.width + (tape.fitting start (some length) chars).length ≤ tape.width := by
  have inside := Nat.mod_lt start positive
  simp only [fitting, List.length_append, List.length_take, List.length_replicate]
  omega

/-- What is printed with a length leaves all other lines as they are. -/
theorem Prints.outside_line {after : Tape} {start gap : Nat} {length : Option Nat}
    {chars : List Char} (positive : 0 < tape.width)
    (prints : Prints start (tape.fitting start length chars) gap tape after)
    (limited : length.isSome = true) {k : Nat} (other : k / tape.width ≠ start / tape.width) :
    after.cell k = tape.cell k := by
  obtain ⟨length, rfl⟩ := Option.isSome_iff_exists.mp limited
  have short := length_fitting_le positive start length chars
  refine prints.outside k ?_
  rcases Nat.lt_or_ge k start with before | behind
  · exact .inl before
  · refine .inr (Nat.le_of_not_lt fun within => other ?_)
    -- The cells from the start to the end of its line are all in this line.
    have line := Nat.div_add_mod' start tape.width
    have low : start / tape.width ≤ k / tape.width := Nat.div_le_div_right behind
    have high : k / tape.width < start / tape.width + 1 := by
      rw [Nat.div_lt_iff_lt_mul positive, Nat.add_mul, Nat.one_mul]
      omega
    omega

end Tape

/-- The moves that lead to a position. -/
def Position.moves (position : Position) : List Tape.Move :=
  (if position.newLine then [.endLine] else []) ++
    position.column.toList.map fun column => .moveTo (column - 1)

/-- The moves to a position lead to the cell where it starts. -/
theorem Tape.moveAll_moves {tape : Tape} (positive : 0 < tape.width) (position : Position) :
    tape.moveAll position.moves = tape.goTo (tape.startOf position) := by
  have line : tape.moveAll (if position.newLine then [.endLine] else []) =
      tape.goTo (if position.newLine ∧ tape.cursor % tape.width ≠ 0 then
        (tape.cursor / tape.width + 1) * tape.width else tape.cursor) := by
    cases position.newLine with
    | false => rfl
    | true =>
      show tape.endLine = _
      by_cases start : tape.cursor % tape.width = 0
      · simp [Tape.endLine, start, Tape.goTo]
      · simp [Tape.endLine, start, Tape.newLine]
  have column (wanted : Nat) :
      min (wanted - 1) (tape.width - 1) = max 1 (min wanted tape.width) - 1 := by
    omega
  rw [Position.moves, Tape.moveAll, List.foldl_append]
  show (Option.toList _ |>.map _).foldl Tape.move (tape.moveAll _) = _
  rw [line, Tape.startOf]
  cases position.column with
  | none => rfl
  | some wanted =>
    simp only [Option.toList_some, List.map_cons, List.map_nil, List.foldl_cons, List.foldl_nil,
      Tape.move, Tape.goTo, column]

namespace Screen

/-- The lines of a valid screen have cells. -/
theorem Valid.tape_width_pos {screen : Screen} (valid : screen.Valid) : 0 < screen.tape.width :=
  valid.one_le_width

/-- Moves in order add the rows down to the cursor and no others, as none of them leads up. -/
theorem extendsTo_moves {screen : Screen} (valid : screen.Valid) (moves : List Tape.Move) :
    screen.ExtendsTo (screen.editAll (moves.map Tape.Move.edit)) := by
  induction moves generalizing screen with
  | nil => exact extendsTo_of_stays valid.y_lt rfl rfl
  | cons first later ih =>
    have next := extendsTo_move valid first
    have down := (grows_editAll (screen.edit first.edit) (later.map Tape.Move.edit)).y_le
    exact next.trans (ih (valid.edit first.edit)) down

end Screen

end ReportLang
