import ReportLang.Program
import ReportLang.Text.Numeral
import ReportLang.Text.Split

/-!
# Options

The arguments of the command line. Options with a value are written `--name value` or
`--name=value`; only the option for more messages may be given more than once; after `--` every
argument is a file. At most one file is the program.
-/

namespace ReportLang.CommandLine

/-- The last piece of work that is done; each includes the ones before it. -/
inductive LastStage where
  /-- Cutting the text into lexemes and statements. -/
  | lex
  /-- Matching statements against the grammar. -/
  | parse
  /-- Arranging commands in blocks. -/
  | group
  /-- Executing the program. -/
  | run
deriving DecidableEq

namespace LastStage

/-- The place of a stage in the order of work. -/
def rank : LastStage → Nat
  | .lex => 0
  | .parse => 1
  | .group => 2
  | .run => 3

/-- The stage of a name. -/
def ofName? : String → Option LastStage
  | "lex" => some .lex
  | "parse" => some .parse
  | "group" => some .group
  | "run" => some .run
  | _ => none

end LastStage

/-- Options without a value. -/
inductive Flag where
  /-- Show the rules of the grammar. -/
  | keywords
  /-- Read the input as a grammar description. -/
  | lexSyntax
  /-- Show the lexemes. -/
  | lexemes
  /-- Show the statements. -/
  | statements
  /-- Show the commands. -/
  | parsed
  /-- Show the commands in blocks. -/
  | grouped
  /-- Show the report. -/
  | report
  /-- Show the variables. -/
  | values
  /-- Show results as data. -/
  | json
deriving DecidableEq

/-- The flag of a name. -/
def Flag.ofName? : String → Option Flag
  | "keywords" => some .keywords
  | "lex-syntax" => some .lexSyntax
  | "lexemes" => some .lexemes
  | "stmts" => some .statements
  | "parsed-stmts" => some .parsed
  | "grouped-stmts" => some .grouped
  | "report" => some .report
  | "vars" => some .values
  | "json" => some .json
  | _ => none

/-- Options with a value. -/
inductive Setting where
  /-- The last piece of work. -/
  | stage
  /-- The file of the grammar. -/
  | grammar
  /-- The width of the screen. -/
  | width
  /-- The height of the screen. -/
  | height
deriving DecidableEq

/-- The setting of a name. -/
def Setting.ofName? : String → Option Setting
  | "stage" => some .stage
  | "grammar" => some .grammar
  | "width" => some .width
  | "height" => some .height
  | _ => none

/-- What the arguments ask for. -/
structure Options where
  /-- The file of the program; the standard input if there is none. -/
  input : Option String := none
  /-- The last piece of work, if it is given. -/
  stage : Option LastStage := none
  /-- The file of the grammar, if it is given. -/
  grammar : Option String := none
  /-- The width of the screen, if it is given. -/
  width : Option Nat := none
  /-- The height of the screen, if it is given. -/
  height : Option Nat := none
  /-- The flags in the order in which they are given. -/
  flags : List Flag := []
  /-- How often more log lines are asked for. They are not part of what a run prints here, so that
  nothing depends on the number. -/
  verbosity : Nat := 0
deriving DecidableEq

namespace Options

/-- Whether a flag is given. -/
def has (options : Options) (flag : Flag) : Bool :=
  options.flags.contains flag

/-- The last piece of work that is done. -/
def lastStage (options : Options) : LastStage :=
  options.stage.getD .run

/-- The size of the screen. -/
def config (options : Options) : Program.Config :=
  { width := options.width.getD 40, height := options.height.getD 20 }

/-- How the input is read. -/
def mode (options : Options) : Mode :=
  if options.has .lexSyntax then .grammar else .statement

/-- Whether the report is shown: if it is asked for, or nothing else is. -/
def showsReport (options : Options) : Bool :=
  options.has .report ||
    !([Flag.keywords, .lexemes, .statements, .parsed, .grouped, .values].any options.has)

/-- The name of the program in a diagnostic. -/
def inputName (options : Options) : String :=
  options.input.getD "<stdin>"

end Options

/-- Why arguments do not lead to any work. -/
inductive Stop where
  /-- The arguments are wrong. -/
  | misuse
  /-- The arguments ask for an explanation of the options. -/
  | help
  /-- The arguments ask for the version of the program. -/
  | version
deriving DecidableEq

/-- The arguments read so far: a setting that still waits for its value, and whether only files may
follow. -/
structure Progress where
  /-- What the arguments ask for so far. -/
  options : Options := {}
  /-- A setting that waits for its value. -/
  pending : Option Setting := none
  /-- Whether only files may follow. -/
  onlyFiles : Bool := false

/-- Takes a value for something that may be given once. -/
def once {α : Type} (given : Option α) (value : Option α) : Except Stop (Option α) :=
  if given.isSome || value.isNone then .error .misuse else .ok value

/-- A path, which cannot be empty. -/
def path? (text : String) : Option String :=
  if text.isEmpty then none else some text

/-- Takes the value of a setting. -/
def setValue (options : Options) (setting : Setting) (text : String) : Except Stop Options := do
  match setting with
  | .stage => return { options with stage := ← once options.stage (LastStage.ofName? text) }
  | .grammar => return { options with grammar := ← once options.grammar (path? text) }
  | .width => return { options with width := ← once options.width (Text.natural? text) }
  | .height => return { options with height := ← once options.height (Text.natural? text) }

/-- Takes a file. -/
def setInput (options : Options) (text : String) : Except Stop Options := do
  return { options with input := ← once options.input (path? text) }

/-- Takes a flag. -/
def setFlag (options : Options) (flag : Flag) : Except Stop Options :=
  if options.has flag then .error .misuse
  else .ok { options with flags := options.flags ++ [flag] }

/-- Takes an option without a value that has a name of several letters. -/
def readLong (progress : Progress) (name : String) : Except Stop Progress :=
  match name with
  | "help" => .error .help
  | "version" => .error .version
  | "verbose" =>
    .ok { progress with
      options := { progress.options with verbosity := progress.options.verbosity + 1 } }
  | _ =>
    match Setting.ofName? name, Flag.ofName? name with
    | some setting, _ => .ok { progress with pending := some setting }
    | none, some flag => do return { progress with options := ← setFlag progress.options flag }
    | none, none => .error .misuse

/-- Takes an option written as `--name` or `--name=value`. -/
def readLongArgument (progress : Progress) (text : List Char) : Except Stop Progress :=
  match Text.splitFirst? '=' text with
  | none => readLong progress (String.ofList text)
  | some (name, value) =>
    match Setting.ofName? (String.ofList name) with
    | some setting => do
      return { progress with options := ← setValue progress.options setting (String.ofList value) }
    | none => .error .misuse

/-- Takes options of one letter each. -/
def readShort (progress : Progress) : List Char → Except Stop Progress
  | [] => .ok progress
  | c :: rest =>
    match c with
    | 'v' =>
      readShort { progress with
        options := { progress.options with verbosity := progress.options.verbosity + 1 } } rest
    | 'V' => .error .version
    | 'h' => .error .help
    | _ => .error .misuse

/-- Takes an argument that is no option. -/
def readPlain (progress : Progress) (argument : String) : Except Stop Progress := do
  match progress.pending with
  | some setting =>
    return { progress with
      options := ← setValue progress.options setting argument, pending := none }
  | none => return { progress with options := ← setInput progress.options argument }

/-- Takes one argument. A setting that waits for its value does not take an option for it. -/
def readArgument (progress : Progress) (argument : String) : Except Stop Progress :=
  if progress.onlyFiles then
    do return { progress with options := ← setInput progress.options argument }
  else
    match argument.toList with
    | ['-'] => readPlain progress argument
    | '-' :: text =>
      if progress.pending.isSome then .error .misuse
      else
        match text with
        | ['-'] => .ok { progress with onlyFiles := true }
        | '-' :: name => readLongArgument progress name
        | letters => readShort progress letters
    | _ => readPlain progress argument

/-- What the arguments ask for. -/
def readArguments (arguments : List String) : Except Stop Options := do
  let progress ← arguments.foldlM readArgument {}
  if progress.pending.isSome then
    throw .misuse
  return progress.options

end ReportLang.CommandLine
