import ReportLang.CommandLine.Run
import Std.Time.Zoned

/-!
# The program

Reads the arguments, the files they name and the standard input, and prints what
`ReportLang.CommandLine.call` says.
-/

namespace ReportLang.Main

/-- The failure to read that an error of the operating system stands for. -/
def readError (error : IO.Error) : CommandLine.ReadError :=
  match error with
  | .noFileOrDirectory .. => .notFound
  | .permissionDenied .. => .denied
  | .inappropriateType _ code details | .unsupportedOperation code details
  | .invalidArgument _ code details =>
    if code = 21 then .isADirectory
    else if code = 20 then .notADirectory
    else if code = 36 then .nameTooLong
    else .other (details ++ " (os error " ++ toString code.toNat ++ ")")
  | .userError _ => .notText
  | other => .other (toString other)

/-- Runs an action and keeps the reason of its failure. -/
def attempt (action : IO String) : IO (Except CommandLine.ReadError String) := do
  try
    return .ok (← action)
  catch error =>
    return .error (readError error)

/-- The current date and time of the day. -/
def now : IO Instant := do
  let time ← Std.Time.PlainDateTime.now
  return {
    year := time.year.toInt
    month := time.month.val.toNat
    day := time.day.val.toNat
    hour := time.hour.val.toNat
    minute := time.minute.val.toNat
    second := time.second.val.toNat }

/-- Reads the files that options name. -/
def readNamed (paths : List String) :
    IO (List (String × Except CommandLine.ReadError String)) :=
  paths.mapM fun (path : String) => do return (path, ← attempt (IO.FS.readFile path))

/-- What the program reads, for its arguments. Its clock stands still while it runs. -/
def sources (arguments : List String) : IO CommandLine.Sources := do
  let (paths, readsInput) :=
    match CommandLine.readArguments arguments with
    | .ok options => (options.grammar.toList ++ options.input.toList, options.input.isNone)
    | .error _ => ([], false)
  let contents ← readNamed paths
  let started ← now
  let input ←
    if readsInput then attempt (do (← IO.getStdin).readToEnd) else pure (.ok "")
  return {
    file := fun path => (contents.lookup path).getD (.error .notFound)
    input
    host := .standard fun _ => started }

end ReportLang.Main

/-- Runs the program. -/
def main (arguments : List String) : IO UInt32 := do
  let outcome := ReportLang.CommandLine.call (← ReportLang.Main.sources arguments) arguments
  (← IO.getStdout).putStr outcome.output
  (← IO.getStderr).putStr outcome.errors
  return outcome.code.toUInt32
