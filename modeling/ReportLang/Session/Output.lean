import ReportLang.Position
import ReportLang.Session.Action

/-!
# Output

The commands that write to the screen, and `REPORT`, which gives the report its title and may change
the width of the screen.
-/

namespace ReportLang.Session

/-- Gives the report its title, and the screen a width if one is written. -/
def giveTitle (host : Host) (captures : Captures) : Action Unit := do
  if (← get).title.isSome then
    throw .misplacedReport
  let title ← captures.required "title"
  modify fun session => { session with title := some title.content }
  match captures.single? "width" with
  | none => return
  | some lexeme =>
    let width ← Action.read (·.count host lexeme)
    if 1 ≤ width ∧ width ≤ Screen.maxWidth then
      Action.onScreen (·.resize width.toNat)
    else
      throw (.lineSizeLimit width)

/-- Moves the cursor to a position. -/
def moveTo (position : Position) (screen : Screen) : Screen :=
  let screen := if position.newLine then screen.endLine else screen
  match position.column with
  | some column => screen.moveTo (column - 1)
  | none => screen

/-- Writes a text, cut or filled up to a length if one is given, and then a gap unless `noGap`. -/
def writeText (text : String) (length : Option Nat) (noGap : Bool) (screen : Screen) : Screen :=
  let text :=
    match length with
    | some length => Text.fitted (min length screen.remaining) text
    | none => text
  let written := screen.write text
  if noGap then written else written.advance

/-- Writes a value at a position, either of which may be left out. -/
def write (host : Host) (captures : Captures) : Action Unit := do
  let position : Position :=
    match captures.single? "at" with
    | some lexeme => .ofLexeme lexeme
    | none => ⟨false, none, none⟩
  Action.onScreen (moveTo position)
  match captures.single? "source" with
  | none => return
  | some source =>
    let value ← Action.read (·.operand host source)
    let text ← (value.toText (captures.flag "no_zero")).mapError RunError.crash
    Action.onScreen (writeText text position.length (captures.flag "no_gap"))

/-- Ends the current line and leaves lines blank after it. -/
def skip (host : Host) (captures : Captures) : Action Unit := do
  if captures.flag "to_line" then
    throw .skipToLine
  let lines ←
    match captures.single? "lines" with
    | some lexeme => Action.read (·.count host lexeme)
    | none => pure 1
  if Screen.maxHeight < lines then
    throw (.skipLimit lines)
  Action.onScreen fun screen =>
    (List.replicate lines.toNat ()).foldl (fun moved _ => moved.newLine) screen.endLine

end ReportLang.Session
