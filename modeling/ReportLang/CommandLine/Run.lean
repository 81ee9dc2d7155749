import ReportLang.CommandLine.FileTree
import ReportLang.CommandLine.Options

/-!
# The command line

The whole behaviour of the program as a function of its arguments, its standard input, the files it
can read and the host of its runs. Everything that is printed before a failure stays printed.
-/

namespace ReportLang.CommandLine

/-- What a run of the program leaves behind. -/
structure Outcome where
  /-- The exit code, zero for success. -/
  code : Nat
  /-- What is printed to the standard output. -/
  output : String
  /-- What is printed to the standard error output, apart from log lines and from what the runtime
  tells about a crash. -/
  errors : String
deriving DecidableEq

/-- Where the program reads from. -/
structure Sources where
  /-- The text of the file at a path. -/
  file : String → Except ReadError String
  /-- The text of the standard input. -/
  input : Except ReadError String
  /-- What a run takes from outside. -/
  host : Host

/-- Why the work fails. -/
inductive WorkError where
  /-- A file cannot be read. -/
  | unreadable (path : String) (error : ReadError)
  /-- The program cannot be carried as far as asked. -/
  | pipeline (fault : Fault)

/-- Work that prints to the standard output and may fail. -/
abbrev Work := ExceptT WorkError (StateM String)

namespace Work

/-- Prints a text. -/
def print (text : String) : Work Unit :=
  modify (· ++ text)

/-- Prints a text if it is asked for. -/
def printIf (asked : Bool) (text : String) : Work Unit :=
  if asked then print text else return

/-- A step of the pipeline as work. -/
def ofExcept {ε α : Type} (fault : ε → Fault) (result : Except ε α) : Work α :=
  result.mapError (WorkError.pipeline ∘ fault)

end Work

/-- Reads a file. -/
def readFile (sources : Sources) (path : String) : Work String :=
  (sources.file path).mapError (WorkError.unreadable path)

/-- The grammar of a file, or the one of report programs. -/
def loadGrammar (sources : Sources) (options : Options) : Work Grammar := do
  match options.grammar with
  | some path => Work.ofExcept .grammar (Grammar.load (← readFile sources path))
  | none => return Grammar.builtin

/-- The program text. -/
def readInput (sources : Sources) (options : Options) : Work String :=
  match options.input with
  | some path => readFile sources path
  | none => sources.input.mapError (WorkError.unreadable "<stdin>")

/-- A line for each text. -/
def unlines (texts : List String) : String :=
  String.join (texts.map (· ++ "\n"))

/-- Data on lines of its own. -/
def dataLines (value : Json) : String :=
  value.pretty ++ "\n"

/-- The text of statements. -/
def statementsText (json : Bool) (statements : List Statement) : String :=
  if json then
    dataLines (.list (statements.map fun statement => .list (statement.lexemes.map .text)))
  else
    unlines (statements.map Statement.source)

/-- The text of commands. -/
def commandsText (json : Bool) (commands : List Command) : String :=
  if json then dataLines (.list (commands.map Command.toJson))
  else "PARSED STATEMENTS:\n" ++ unlines (commands.map Command.line)

/-- The text of instructions. -/
def instructionsText (json : Bool) (instructions : List Instruction) : String :=
  if json then dataLines (.list (Instruction.listToJson instructions))
  else "GROUPED STATEMENTS:\n" ++ Instruction.treeOfAll 1 instructions

/-- The text of a report. -/
def reportText (json : Bool) (report : Report) : String :=
  if json then dataLines report.toJson else report.render

/-- The text of variables. -/
def variablesText (json : Bool) (environment : Environment) : String :=
  if json then dataLines environment.toJson else environment.dump

/-- Runs a program and prints what is asked for. -/
def runStage (sources : Sources) (options : Options) (program : List Instruction) : Work Unit := do
  let json := options.has .json
  let session := Session.start options.config.width options.config.height
  let execution ← Work.ofExcept .run (Program.run sources.host session program)
  Work.printIf options.showsReport (reportText json execution.report)
  Work.printIf (options.has .values) (variablesText json execution.environment)

/-- Arranges commands in blocks, and goes on if that is asked for. -/
def groupStage (sources : Sources) (options : Options) (commands : List Command) : Work Unit := do
  let program ← Work.ofExcept .group (Instruction.group commands)
  Work.printIf (options.has .grouped) (instructionsText (options.has .json) program)
  if options.lastStage.rank < LastStage.run.rank then
    return
  runStage sources options program

/-- Parses statements, and goes on if that is asked for. -/
def parseStage (sources : Sources) (options : Options) (grammar : Grammar)
    (statements : List Statement) : Work Unit := do
  let commands ← Work.ofExcept .parse (Statement.parseAll grammar statements)
  Work.printIf (options.has .parsed) (commandsText (options.has .json) commands)
  if options.lastStage.rank < LastStage.group.rank then
    return
  groupStage sources options commands

/-- Does all the work that is asked for. -/
def work (sources : Sources) (options : Options) : Work Unit := do
  let grammar ← loadGrammar sources options
  Work.printIf (options.has .keywords) grammar.describe
  let text ← readInput sources options
  let lexemes ← Work.ofExcept .scan (Lexeme.scan options.mode text)
  Work.printIf (options.has .lexemes) (unlines lexemes)
  let statements ← Work.ofExcept .segment (Statement.segment options.mode lexemes)
  Work.printIf (options.has .statements) (statementsText (options.has .json) statements)
  if options.lastStage.rank < LastStage.parse.rank || options.has .lexSyntax then
    return
  parseStage sources options grammar statements

/-- What is told about failed work; nothing about a crash. -/
def WorkError.message (options : Options) : WorkError → String
  | .unreadable path error => "error: cannot read " ++ path ++ ": " ++ error.message ++ "\n"
  | .pipeline fault => (fault.diagnostic?.map (·.render options.inputName)).getD ""

/-- The exit code of the program after a crash. -/
def crashCode : Nat := 101

/-- The exit code of the program after failed work. -/
def WorkError.code : WorkError → Nat
  | .pipeline (.run (.crash _)) => crashCode
  | _ => 1

/-- Does the work that options ask for. -/
def run (sources : Sources) (options : Options) : Outcome :=
  match (work sources options).run.run "" with
  | (.ok _, output) => ⟨0, output, ""⟩
  | (.error error, output) => ⟨error.code, output, error.message options⟩

/-- The line that tells the version. -/
def versionText : String := "abapx 0.1.0\n"

/-- The line that tells how the program is called. -/
def usageText : String := "Usage: abapx [OPTIONS] [FILE]\n"

/-- What the program does when it is called with arguments. -/
def call (sources : Sources) (arguments : List String) : Outcome :=
  match readArguments arguments with
  | .ok options => run sources options
  | .error .version => ⟨0, versionText, ""⟩
  | .error .help => ⟨0, usageText, ""⟩
  | .error .misuse => ⟨2, "", usageText⟩

end ReportLang.CommandLine
