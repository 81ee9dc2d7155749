import ReportLang.Diagnostic
import ReportLang.Instruction

/-!
# Grouping

Arranges a flat list of commands in blocks. Choices and loops are opened and closed by their
keywords, record declarations by the flags `begin` and `end`; the name after `end of` has to be the
one after `begin of`.
-/

namespace ReportLang

/-- The part a command plays in the block structure. -/
inductive Command.Role where
  /-- Starts a choice with its first branch. -/
  | opensChoice
  /-- Starts the next branch of a choice. -/
  | continuesChoice
  /-- Ends a choice. -/
  | closesChoice
  /-- Starts a loop. -/
  | opensLoop
  /-- Closes a loop with the given keyword. -/
  | closesLoop (opener : String)
  /-- Starts a record declaration. -/
  | opensRecord
  /-- Ends a record declaration. -/
  | closesRecord
  /-- Stands on its own. -/
  | plain
deriving DecidableEq

/-- The part a command plays in the block structure. -/
def Command.role (command : Command) : Command.Role :=
  if command.keyword = "if" then .opensChoice
  else if command.keyword = "elseif" ∨ command.keyword = "else" then .continuesChoice
  else if command.keyword = "endif" then .closesChoice
  else if command.keyword = "while" ∨ command.keyword = "do" then .opensLoop
  else if command.keyword = "endwhile" then .closesLoop "while"
  else if command.keyword = "enddo" then .closesLoop "do"
  else if command.captures.flag "begin" then .opensRecord
  else if command.captures.flag "end" then .closesRecord
  else .plain

/-- The name of the record that a command declares. -/
def Command.recordName? (command : Command) : Option Lexeme :=
  command.captures.single? "struc"

/-- What an open block is, for a message. -/
inductive Opened where
  /-- A choice. -/
  | choice
  /-- A loop with its keyword. -/
  | loop (keyword : String)
  /-- A record declaration with its keyword and the name of the record. -/
  | record (keyword : String) (name : Option Lexeme)
deriving DecidableEq

/-- A name in a message. -/
def Opened.nameText (name : Option Lexeme) : String :=
  name.getD "?"

/-- An open block in a message. -/
def Opened.text : Opened → String
  | .choice => "if"
  | .loop keyword => keyword
  | .record keyword name => keyword ++ " begin of " ++ nameText name

/-- Why commands cannot be arranged in blocks. -/
inductive GroupError where
  /-- A command cannot close the block that is open. -/
  | cannotClose (closer : String) (opened : Opened)
  /-- A branch follows the one that is taken otherwise. -/
  | afterElse (keyword : String)
  /-- A record is closed under another name. -/
  | nameMismatch (ended begun : Option Lexeme)
  /-- A closing command stands where nothing is open. -/
  | nothingOpen (closer : String)
  /-- A block is still open at the end. -/
  | neverClosed (opened : Opened)
deriving DecidableEq

/-- What is told about the failure. -/
def GroupError.diagnostic : GroupError → Diagnostic
  | .cannotClose closer opened =>
    { kind := .mismatchedBlockKind
      message := "'" ++ closer ++ "' cannot close '" ++ opened.text ++ "'" }
  | .afterElse keyword =>
    { kind := .mismatchedBlockKind, message := "'" ++ keyword ++ "' after 'else'" }
  | .nameMismatch ended begun =>
    { kind := .mismatchedBlockName
      message := "'end of " ++ Opened.nameText ended ++ "' closes 'begin of " ++
        Opened.nameText begun ++ "'" }
  | .nothingOpen closer =>
    { kind := .unbalancedBlock, message := "'" ++ closer ++ "' without an open block" }
  | .neverClosed opened =>
    { kind := .unbalancedBlock, message := "'" ++ opened.text ++ "' is never closed" }

namespace Group

/-- A block whose instructions are still being collected. -/
inductive Pending where
  /-- A choice: its finished branches, last first, and the command of the branch being collected. -/
  | choice (finished : List (Command × List Instruction)) (current : Command)
  /-- A loop. -/
  | loop (opener : Command)
  /-- A record declaration. -/
  | record (opener : Command)

/-- What a pending block is, for a message. -/
def Pending.opened : Pending → Opened
  | .choice .. => .choice
  | .loop opener => .loop opener.keyword
  | .record opener => .record opener.keyword opener.recordName?

/-- A pending block, and the instructions before it, last first. -/
structure Frame where
  /-- The block that is open. -/
  pending : Pending
  /-- The instructions before it in the block around it, last first. -/
  before : List Instruction

/-- The instructions of the innermost block, last first, and the blocks around it. -/
structure Progress where
  /-- The instructions of the innermost block, last first. -/
  collected : List Instruction
  /-- The open blocks, innermost first. -/
  frames : List Frame

/-- The beginning of a program. -/
def Progress.start : Progress := ⟨[], []⟩

/-- Opens a block. -/
def Progress.push (progress : Progress) (pending : Pending) : Progress :=
  ⟨[], ⟨pending, progress.collected⟩ :: progress.frames⟩

/-- Adds an instruction to the innermost block. -/
def Progress.add (progress : Progress) (instruction : Instruction) : Progress :=
  { progress with collected := instruction :: progress.collected }

/-- The instructions of the innermost block, in order. -/
def Progress.body (progress : Progress) : List Instruction :=
  progress.collected.reverse

/-- Starts the next branch of the innermost block, or closes it. -/
def branch (progress : Progress) (command : Command) (closes : Bool) :
    Except GroupError Progress :=
  match progress.frames with
  | [] => .error (.nothingOpen command.keyword)
  | ⟨.choice finished current, before⟩ :: frames =>
    if current.keyword = "else" && !closes then
      .error (.afterElse command.keyword)
    else
      let branches := (current, progress.body) :: finished
      if closes then .ok ⟨.choice branches.reverse :: before, frames⟩
      else .ok ⟨[], ⟨.choice branches command, before⟩ :: frames⟩
  | ⟨pending, _⟩ :: _ => .error (.cannotClose command.keyword pending.opened)

/-- Closes a loop with the given keyword. -/
def closeLoop (progress : Progress) (command : Command) (keyword : String) :
    Except GroupError Progress :=
  match progress.frames with
  | [] => .error (.nothingOpen command.keyword)
  | ⟨pending, before⟩ :: frames =>
    match pending with
    | .loop opener =>
      if opener.keyword = keyword then .ok ⟨.block opener progress.body :: before, frames⟩
      else .error (.cannotClose command.keyword pending.opened)
    | _ => .error (.cannotClose command.keyword pending.opened)

/-- Closes a record declaration. -/
def closeRecord (progress : Progress) (command : Command) : Except GroupError Progress :=
  match progress.frames with
  | [] => .error (.nothingOpen command.keyword)
  | ⟨pending, before⟩ :: frames =>
    match pending with
    | .record opener =>
      if opener.keyword ≠ command.keyword then
        .error (.cannotClose command.keyword pending.opened)
      else if opener.recordName? ≠ command.recordName? then
        .error (.nameMismatch command.recordName? opener.recordName?)
      else
        .ok ⟨.block opener progress.body :: before, frames⟩
    | _ => .error (.cannotClose command.keyword pending.opened)

/-- Takes one command into the block structure. -/
def step (progress : Progress) (command : Command) : Except GroupError Progress :=
  match command.role with
  | .opensChoice => .ok (progress.push (.choice [] command))
  | .continuesChoice => branch progress command false
  | .closesChoice => branch progress command true
  | .opensLoop => .ok (progress.push (.loop command))
  | .closesLoop keyword => closeLoop progress command keyword
  | .opensRecord => .ok (progress.push (.record command))
  | .closesRecord => closeRecord progress command
  | .plain => .ok (progress.add (.simple command))

/-- Ends a program. -/
def finish (progress : Progress) : Except GroupError (List Instruction) :=
  match progress.frames with
  | frame :: _ => .error (.neverClosed frame.pending.opened)
  | [] => .ok progress.body

end Group

/-- Arranges commands in blocks. -/
def Instruction.group (commands : List Command) : Except GroupError (List Instruction) := do
  Group.finish (← commands.foldlM Group.step Group.Progress.start)

end ReportLang
