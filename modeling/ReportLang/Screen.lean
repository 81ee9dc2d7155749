/-!
# Screens

A grid of characters with a cursor. Writing moves the cursor to the right and, at the edge, to the
next row; a row is added whenever the cursor moves below the last one.
-/

namespace ReportLang

/-- A grid of characters, all rows of one width, and a cursor at column `x` of row `y`. -/
structure Screen where
  /-- The number of cells in each row. -/
  width : Nat
  /-- The rows from top to bottom. -/
  rows : Array (Array Char)
  /-- The column of the cursor, counted from zero. -/
  x : Nat
  /-- The row of the cursor, counted from zero. -/
  y : Nat
deriving DecidableEq

namespace Screen

/-- The widest a screen can be. -/
def maxWidth : Nat := 1023

/-- The most rows a screen can start with, and the most that can be skipped at once. -/
def maxHeight : Nat := 1000

/-- A width that a screen can have. -/
def clampWidth (width : Nat) : Nat := max 1 (min width maxWidth)

/-- A row of blanks. -/
def blankRow (width : Nat) : Array Char := Array.replicate width ' '

/-- A blank screen with the cursor in its first cell. -/
def blank (width height : Nat) : Screen :=
  let width := clampWidth width
  { width
    rows := Array.replicate (max 1 (min height maxHeight)) (blankRow width)
    x := 0
    y := 0 }

/-- Moves to the start of the next row. -/
def newLine (screen : Screen) : Screen :=
  let y := screen.y + 1
  { screen with
    x := 0
    y
    rows := if y < screen.rows.size then screen.rows else screen.rows.push (blankRow screen.width) }

/-- Moves one cell to the right, or to the next row at the edge. -/
def advance (screen : Screen) : Screen :=
  let x := screen.x + 1
  if x < screen.width then { screen with x } else screen.newLine

/-- Writes a character at the cursor and moves on. -/
def put (screen : Screen) (c : Char) : Screen :=
  let rows := screen.rows.modify screen.y fun row => row.setIfInBounds screen.x c
  { screen with rows }.advance

/-- Writes the characters of a text. -/
def write (screen : Screen) (text : String) : Screen :=
  text.toList.foldl put screen

/-- Moves to the start of the next row, unless the cursor is at the start of a row. -/
def endLine (screen : Screen) : Screen :=
  if screen.x = 0 then screen else screen.newLine

/-- Moves to a column of the current row, the last one at most. Columns count from zero. -/
def moveTo (screen : Screen) (column : Nat) : Screen :=
  { screen with x := min column (screen.width - 1) }

/-- The number of cells from the cursor to the end of its row. -/
def remaining (screen : Screen) : Nat :=
  screen.width - screen.x

/-- Fills a row of its own with dashes. -/
def underline (screen : Screen) : Screen :=
  (List.replicate screen.width '-').foldl put screen.endLine

/-- A row cut, or filled up with blanks, to a width. -/
def fitRow (width : Nat) (row : Array Char) : Array Char :=
  row.extract 0 width ++ Array.replicate (width - row.size) ' '

/-- Changes the width and keeps what is in the remaining cells. -/
def resize (screen : Screen) (width : Nat) : Screen :=
  let width := clampWidth width
  let resized := { screen with width, rows := screen.rows.map (fitRow width) }
  if resized.x < width then resized else resized.newLine

/-- The rows as texts. -/
def lines (screen : Screen) : List String :=
  screen.rows.toList.map fun row => String.ofList row.toList

end Screen

end ReportLang
