import ReportLang.Screen

/-!
# Screens stay valid

Every edit of a screen keeps its rows at one width and the cursor within them, loses no row and
never moves the cursor up. So a screen that starts blank is valid after any edits, and the cell
under the cursor, the last column and the cells that remain in a row are always there.
-/

namespace ReportLang.Screen

/-- Whether the rows of a screen have the width of the screen and the cursor is in one of them. -/
structure Sized (screen : Screen) : Prop where
  /-- There is a column. -/
  one_le_width : 1 ≤ screen.width
  /-- The width has a limit. -/
  width_le : screen.width ≤ maxWidth
  /-- Every row has the width of the screen. -/
  size_row : ∀ row ∈ screen.rows, row.size = screen.width
  /-- The cursor is in a row. -/
  y_lt : screen.y < screen.rows.size

/-- Whether besides the cursor is in a column. -/
structure Valid (screen : Screen) : Prop extends Sized screen where
  /-- The cursor is in a column. -/
  x_lt : screen.x < screen.width

/-- Whether what is found by the cursor is there: its cell, the last column and the cells that
remain in its row. -/
structure Usable (screen : Screen) : Prop where
  /-- The row and the column of the cursor are those of a cell. -/
  cell : ∃ row, screen.rows[screen.y]? = some row ∧ screen.x < row.size
  /-- There is a last column. -/
  last : screen.width - 1 + 1 = screen.width
  /-- The cells before the cursor and those that remain make up a row. -/
  split : screen.x + screen.remaining = screen.width
  /-- The cell of the cursor remains. -/
  one_le_remaining : 1 ≤ screen.remaining
  /-- No more than a row remains. -/
  remaining_le : screen.remaining ≤ screen.width

/-- Whether no row is lost and the cursor is not moved up. -/
structure Grows (before after : Screen) : Prop where
  /-- No row is lost. -/
  size_le : before.rows.size ≤ after.rows.size
  /-- The cursor is not moved up. -/
  y_le : before.y ≤ after.y

variable {screen before middle after : Screen}

/-- A valid screen has what is found by its cursor. -/
theorem Valid.usable (valid : screen.Valid) : screen.Usable := by
  have positive := valid.one_le_width
  have column := valid.x_lt
  have inside := valid.y_lt
  have size := valid.size_row screen.rows[screen.y] (Array.getElem_mem inside)
  exact {
    cell := ⟨screen.rows[screen.y], Array.getElem?_eq_getElem inside, by rwa [size]⟩
    last := by omega
    split := by rw [remaining]; omega
    one_le_remaining := by rw [remaining]; omega
    remaining_le := Nat.sub_le _ _ }

/-- A screen has grown by nothing. -/
@[refl] theorem Grows.refl (screen : Screen) : screen.Grows screen :=
  ⟨Nat.le_refl _, Nat.le_refl _⟩

/-- A screen that has grown twice has grown. -/
theorem Grows.trans (first : before.Grows middle) (second : middle.Grows after) :
    before.Grows after :=
  ⟨Nat.le_trans first.size_le second.size_le, Nat.le_trans first.y_le second.y_le⟩

/-- A width that a screen can have is positive and within the limit. -/
theorem clampWidth_bounds (width : Nat) : 1 ≤ clampWidth width ∧ clampWidth width ≤ maxWidth := by
  rw [clampWidth, maxWidth]
  omega

/-- A blank screen is valid. -/
theorem valid_blank (width height : Nat) : (blank width height).Valid where
  one_le_width := (clampWidth_bounds width).1
  width_le := (clampWidth_bounds width).2
  size_row row member := by
    rw [(Array.mem_replicate.mp member).2]
    exact Array.size_replicate
  y_lt := by
    have positive : 0 < max 1 (min height maxHeight) := by omega
    rwa [blank, Array.size_replicate]
  x_lt := (clampWidth_bounds width).1

/-- The next row is there, or it is added. -/
theorem Sized.newLine (sized : screen.Sized) : screen.newLine.Valid where
  one_le_width := sized.one_le_width
  width_le := sized.width_le
  size_row row member := by
    simp only [Screen.newLine] at member ⊢
    split at member
    · exact sized.size_row row member
    · rcases Array.mem_push.mp member with before | rfl
      · exact sized.size_row row before
      · exact Array.size_replicate
  y_lt := by
    have inside := sized.y_lt
    simp only [Screen.newLine]
    split
    · assumption
    · rw [Array.size_push]
      omega
  x_lt := sized.one_le_width

/-- The next row is below. -/
theorem grows_newLine (screen : Screen) : screen.Grows screen.newLine where
  size_le := by
    simp only [newLine]
    split
    · exact Nat.le_refl _
    · rw [Array.size_push]
      exact Nat.le_succ _
  y_le := Nat.le_succ _

/-- The cursor moves to the right, or to the next row. -/
theorem Sized.advance (sized : screen.Sized) : screen.advance.Valid := by
  simp only [Screen.advance]
  split
  · rename_i inside
    exact { sized with x_lt := inside }
  · exact sized.newLine

/-- The cursor does not move up at the edge. -/
theorem grows_advance (screen : Screen) : screen.Grows screen.advance := by
  simp only [advance]
  split
  · exact ⟨Nat.le_refl _, Nat.le_refl _⟩
  · exact grows_newLine screen

/-- A character takes the place of another one. -/
theorem Sized.put (sized : screen.Sized) (c : Char) : (screen.put c).Valid := by
  refine Sized.advance { sized with size_row := ?_, y_lt := ?_ }
  · -- A row is one of those before, or the row of the cursor with another character.
    intro row member
    obtain ⟨index, inside, rfl⟩ := Array.mem_iff_getElem.mp member
    rw [Array.size_modify] at inside
    have size := sized.size_row screen.rows[index] (Array.getElem_mem inside)
    rw [Array.getElem_modify]
    split
    · rwa [Array.size_setIfInBounds]
    · exact size
  · rw [Array.size_modify]
    exact sized.y_lt

/-- Writing a character loses no row. -/
theorem grows_put (screen : Screen) (c : Char) : screen.Grows (screen.put c) := by
  have written : screen.Grows
      { screen with rows := screen.rows.modify screen.y fun row => row.setIfInBounds screen.x c } :=
    ⟨Nat.le_of_eq Array.size_modify.symm, Nat.le_refl _⟩
  exact written.trans (grows_advance _)

/-- Characters are written one after the other. -/
theorem Valid.putAll (valid : screen.Valid) (chars : List Char) :
    (chars.foldl Screen.put screen).Valid := by
  induction chars generalizing screen with
  | nil => exact valid
  | cons c rest ih => exact ih (valid.put c)

/-- Writing characters loses no row. -/
theorem grows_putAll (screen : Screen) (chars : List Char) :
    screen.Grows (chars.foldl Screen.put screen) := by
  induction chars generalizing screen with
  | nil => exact Grows.refl screen
  | cons c rest ih => exact (grows_put screen c).trans (ih (screen.put c))

/-- The cursor stays, or moves to the next row. -/
theorem Valid.endLine (valid : screen.Valid) : screen.endLine.Valid := by
  unfold Screen.endLine
  split
  · exact valid
  · exact valid.newLine

/-- The end of a line is not above it. -/
theorem grows_endLine (screen : Screen) : screen.Grows screen.endLine := by
  unfold endLine
  split
  · exact Grows.refl screen
  · exact grows_newLine screen

/-- A row that is cut or filled up has the width it is brought to. -/
theorem size_fitRow (width : Nat) (row : Array Char) : (fitRow width row).size = width := by
  rw [fitRow, Array.size_append, Array.size_extract, Array.size_replicate]
  omega

/-- A width that is changed is that of every row, and the cursor leaves a column that is cut off. -/
theorem Sized.resize (sized : screen.Sized) (width : Nat) : (screen.resize width).Valid := by
  have resized : Sized { screen with
      width := clampWidth width
      rows := screen.rows.map (fitRow (clampWidth width)) } :=
    { one_le_width := (clampWidth_bounds width).1
      width_le := (clampWidth_bounds width).2
      size_row := by
        intro row member
        obtain ⟨old, _, rfl⟩ := Array.mem_map.mp member
        exact size_fitRow _ old
      y_lt := by
        rw [Array.size_map]
        exact sized.y_lt }
  simp only [Screen.resize]
  split
  · rename_i inside
    exact { resized with x_lt := inside }
  · exact resized.newLine

/-- A change of the width loses no row. -/
theorem grows_resize (screen : Screen) (width : Nat) : screen.Grows (screen.resize width) := by
  have resized : screen.Grows { screen with
      width := clampWidth width
      rows := screen.rows.map (fitRow (clampWidth width)) } :=
    ⟨Nat.le_of_eq Array.size_map.symm, Nat.le_refl _⟩
  simp only [resize]
  split
  · exact resized
  · exact resized.trans (grows_newLine _)

/-- What can be done to a screen. -/
inductive Edit where
  /-- A character is written. -/
  | put (c : Char)
  /-- A text is written. -/
  | write (text : String)
  /-- The cursor moves to the right. -/
  | advance
  /-- The cursor moves to the next row. -/
  | newLine
  /-- The cursor moves to the start of a row. -/
  | endLine
  /-- A row is filled with dashes. -/
  | underline
  /-- The cursor moves to a column. -/
  | moveTo (column : Nat)
  /-- The width is changed. -/
  | resize (width : Nat)

/-- The screen after an edit. -/
def edit (screen : Screen) : Edit → Screen
  | .put c => screen.put c
  | .write text => screen.write text
  | .advance => screen.advance
  | .newLine => screen.newLine
  | .endLine => screen.endLine
  | .underline => screen.underline
  | .moveTo column => screen.moveTo column
  | .resize width => screen.resize width

/-- The screen after edits in order. -/
def editAll (screen : Screen) (edits : List Edit) : Screen :=
  edits.foldl edit screen

/-- Later edits start from the screen that earlier ones leave. -/
theorem editAll_append (screen : Screen) (first second : List Edit) :
    screen.editAll (first ++ second) = (screen.editAll first).editAll second :=
  List.foldl_append

/-- Whether a change of the screen is made of edits. -/
def IsEdit (change : Screen → Screen) : Prop :=
  ∀ screen, ∃ edits, change screen = screen.editAll edits

/-- Every edit keeps a screen valid. -/
theorem Valid.edit (valid : screen.Valid) (change : Edit) : (screen.edit change).Valid := by
  cases change with
  | put c => exact valid.put c
  | write text => exact valid.putAll text.toList
  | advance => exact valid.advance
  | newLine => exact valid.newLine
  | endLine => exact valid.endLine
  | underline => exact valid.endLine.putAll _
  | moveTo column =>
    have positive := valid.one_le_width
    have inside : min column (screen.width - 1) < screen.width := by omega
    exact { valid with x_lt := inside }
  | resize width => exact valid.resize width

/-- No edit loses a row or moves the cursor up. -/
theorem grows_edit (screen : Screen) (change : Edit) : screen.Grows (screen.edit change) := by
  cases change with
  | put c => exact grows_put screen c
  | write text => exact grows_putAll screen text.toList
  | advance => exact grows_advance screen
  | newLine => exact grows_newLine screen
  | endLine => exact grows_endLine screen
  | underline => exact (grows_endLine screen).trans (grows_putAll _ _)
  | moveTo column => exact ⟨Nat.le_refl _, Nat.le_refl _⟩
  | resize width => exact grows_resize screen width

/-- Edits in order keep a screen valid. -/
theorem Valid.editAll (valid : screen.Valid) (edits : List Edit) :
    (screen.editAll edits).Valid := by
  induction edits generalizing screen with
  | nil => exact valid
  | cons change later ih => exact ih (valid.edit change)

/-- Edits in order lose no row and do not move the cursor up. -/
theorem grows_editAll (screen : Screen) (edits : List Edit) :
    screen.Grows (screen.editAll edits) := by
  induction edits generalizing screen with
  | nil => exact Grows.refl screen
  | cons change later ih => exact (grows_edit screen change).trans (ih (screen.edit change))

/-- The rows of a valid screen are texts of its width. -/
theorem Valid.length_line (valid : screen.Valid) :
    ∀ line ∈ screen.lines, line.length = screen.width := by
  intro line member
  obtain ⟨row, inside, rfl⟩ := List.mem_map.mp member
  rw [String.length_ofList, Array.length_toList]
  exact valid.size_row row (Array.mem_toList_iff.mp inside)

/-- There is a text for every row. -/
theorem length_lines (screen : Screen) : screen.lines.length = screen.rows.size := by
  rw [lines, List.length_map, Array.length_toList]

end ReportLang.Screen
