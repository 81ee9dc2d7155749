import ReportLang.Command.Parse
import ReportLang.Grammar.Builtin
import ReportLang.Instruction.Group
import ReportLang.Report
import ReportLang.Session.Execute

/-!
# Programs

The whole way from a program text to a report: lexemes, statements, commands, instructions, and
their execution. The first failure on the way is the result.
-/

namespace ReportLang

/-- Why there is no report. -/
inductive Fault where
  /-- The text cannot be cut into lexemes. -/
  | scan (error : ScanError)
  /-- The lexemes do not form statements. -/
  | segment (error : SegmentError)
  /-- There is no grammar to match the statements against. -/
  | grammar (error : GrammarError)
  /-- A statement is no command. -/
  | parse (error : ParseError)
  /-- The commands cannot be arranged in blocks. -/
  | group (error : GroupError)
  /-- An instruction cannot be executed. -/
  | run (error : RunError)

/-- What is told about the failure; nothing about a crash. -/
def Fault.diagnostic? : Fault → Option Diagnostic
  | .scan error => error.diagnostic
  | .segment error => error.diagnostic
  | .grammar error => error.diagnostic
  | .parse error => error.diagnostic
  | .group error => error.diagnostic
  | .run error => error.diagnostic?

/-- The result of a run. -/
structure Execution where
  /-- What was written. -/
  report : Report
  /-- The variables and types as the run left them. -/
  environment : Environment

namespace Program

/-- The statements of a program text. -/
def statements (mode : Mode) (text : String) : Except Fault (List Statement) := do
  let lexemes ← (Lexeme.scan mode text).mapError .scan
  (Statement.segment mode lexemes).mapError .segment

/-- The commands of a program text. -/
def commands (grammar : Grammar) (text : String) : Except Fault (List Command) := do
  let found ← statements .statement text
  (Statement.parseAll grammar found).mapError .parse

/-- The instructions of a program text. -/
def instructions (grammar : Grammar) (text : String) : Except Fault (List Instruction) := do
  let found ← commands grammar text
  (Instruction.group found).mapError .group

/-- The first instruction of a program has to be `REPORT`. -/
def checkStart (program : List Instruction) : Except RunError Unit :=
  match program with
  | [] => .error .emptyProgram
  | first :: _ =>
    if first.keyword = "report" then .ok () else .error (.missingReport first.keyword)

/-- Runs a program in a session. A program may end early by a signal that no loop takes. -/
def run (host : Host) (session : Session) (program : List Instruction) :
    Except RunError Execution := do
  checkStart program
  let (result, ended) := Session.executeAll host program session
  let _ ← result
  return ⟨Report.ofScreen (ended.title.getD "") ended.screen, ended.environment⟩

/-- The size of the screen in which a program runs. -/
structure Config where
  /-- The number of cells in a row. -/
  width : Nat := 40
  /-- The number of rows at the start. -/
  height : Nat := 20
deriving DecidableEq

/-- Runs a program text. -/
def interpret (grammar : Grammar) (host : Host) (config : Config) (text : String) :
    Except Fault Execution := do
  let program ← instructions grammar text
  (run host (Session.start config.width config.height) program).mapError .run

end Program

end ReportLang
