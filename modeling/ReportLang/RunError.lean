import ReportLang.Captures
import ReportLang.Crash
import ReportLang.Screen
import ReportLang.Value.Error

/-!
# Failures of a run

Why an instruction, or a whole program, cannot be executed. A crash ends the program without a
diagnostic.
-/

namespace ReportLang

/-- Why an instruction cannot be executed. -/
inductive RunError where
  /-- An operation on values fails. -/
  | value (error : ValueError)
  /-- A name is declared twice, or is the name of the system record. -/
  | duplicateVariable (name : String)
  /-- The name of a type is declared twice. -/
  | duplicateType (name : String)
  /-- A variable is not declared. -/
  | undefinedVariable (name : String)
  /-- A constant is to be changed. -/
  | constant (name : String)
  /-- A literal is to be changed. -/
  | literalTarget (lexeme : Lexeme)
  /-- A system field is to be changed. -/
  | systemTarget (lexeme : Lexeme)
  /-- A sign or word is no arithmetic operation. -/
  | unknownOperation (symbol : Lexeme)
  /-- A sign or word is no comparison. -/
  | unknownComparison (operator : String)
  /-- The expression of a pattern cannot be built. -/
  | badPattern (pattern problem : String)
  /-- A number in a program is out of range. -/
  | numberOutOfRange (lexeme : Lexeme)
  /-- A text spells no length. -/
  | invalidLength (text : String)
  /-- A name is the name of no type. -/
  | unknownType (name : Lexeme)
  /-- A length is given to a named type. -/
  | lengthOfNamedType (name : Lexeme)
  /-- An instruction stands in a record declaration where only fields may. -/
  | notAField (keyword : String)
  /-- A command lacks a capture. -/
  | missingCapture (name : String)
  /-- A condition lacks an operand. -/
  | missingOperand (name : String)
  /-- A second `REPORT`. -/
  | misplacedReport
  /-- A program that starts with something else than `REPORT`. -/
  | missingReport (keyword : String)
  /-- A program without instructions. -/
  | emptyProgram
  /-- An asserted condition does not hold. -/
  | assertionFailed (captures : Captures)
  /-- A command for which no execution is defined. -/
  | notExecutable (keyword : String)
  /-- A line number is given to `SKIP`. -/
  | skipToLine
  /-- A width that no screen can have. -/
  | lineSizeLimit (width : Int)
  /-- More lines are skipped than can be at once. -/
  | skipLimit (lines : Int)
  /-- The program ends at once. -/
  | crash (cause : Crash)

/-- What is told about the failure; nothing about a crash. -/
def RunError.diagnostic? : RunError → Option Diagnostic
  | .value error => error.diagnostic
  | .duplicateVariable name =>
    some { kind := .duplicateDeclaration, message := "'" ++ name ++ "' is already declared" }
  | .duplicateType name =>
    some { kind := .duplicateDeclaration, message := "type '" ++ name ++ "' is already declared" }
  | .undefinedVariable name =>
    some { kind := .undefinedVariable, message := "'" ++ name ++ "' is not declared" }
  | .constant name =>
    some { kind := .readOnlyVariable, message := "'" ++ name ++ "' is a constant" }
  | .literalTarget lexeme =>
    some { kind := .readOnlyVariable, message := "cannot assign to literal " ++ lexeme }
  | .systemTarget lexeme =>
    some { kind := .readOnlyVariable, message := "cannot assign to system field " ++ lexeme }
  | .unknownOperation symbol =>
    some { kind := .invalidOperator, message := "unknown arithmetic operator '" ++ symbol ++ "'" }
  | .unknownComparison operator =>
    some { kind := .invalidOperator, message := "unknown comparison operator '" ++ operator ++ "'" }
  | .badPattern pattern problem =>
    some {
      kind := .invalidOperator
      message := "bad pattern '" ++ pattern ++ "': " ++ problem }
  | .numberOutOfRange lexeme =>
    some { kind := .arithmetic, message := "number " ++ lexeme ++ " is out of range" }
  | .invalidLength text =>
    some { kind := .invalidType, message := "'" ++ text ++ "' is not a valid length" }
  | .unknownType name => some { kind := .invalidType, message := "unknown type '" ++ name ++ "'" }
  | .lengthOfNamedType name =>
    some { kind := .invalidType, message := "type '" ++ name ++ "' cannot be given a length" }
  | .notAField keyword =>
    some {
      kind := .invalidType
      message := "'" ++ keyword ++ "' is not allowed inside BEGIN OF ... END OF" }
  | .missingCapture name =>
    some { kind := .grammarMismatch, message := "statement is missing '" ++ name ++ "'" }
  | .missingOperand name =>
    some { kind := .grammarMismatch, message := "condition is missing its " ++ name ++ " operand" }
  | .misplacedReport =>
    some {
      kind := .misplacedReport
      message := "REPORT must be the first statement, and appear only once" }
  | .missingReport keyword =>
    some {
      kind := .missingReport
      message := "program starts with '" ++ keyword ++ "' instead of REPORT"
      help := some "Start the program with a statement like: REPORT zdemo." }
  | .emptyProgram => some { kind := .emptyProgram, message := "there are no statements to run" }
  | .assertionFailed captures =>
    some {
      kind := .assertionFailure
      message := "assertion failed: " ++ captures.toJson.compact }
  | .notExecutable keyword =>
    some {
      kind := .unimplementedFeature
      message := "statement '" ++ keyword ++ "' cannot be executed here" }
  | .skipToLine =>
    some { kind := .unimplementedFeature, message := "SKIP TO LINE is not supported" }
  | .lineSizeLimit width =>
    some {
      kind := .screenLimit
      message := "LINE-SIZE " ++ toString width ++ " is outside 1 to " ++
        toString Screen.maxWidth }
  | .skipLimit lines =>
    some {
      kind := .screenLimit
      message := "SKIP " ++ toString lines ++ " is more than " ++ toString Screen.maxHeight ++
        " lines" }
  | .crash _ => none

end ReportLang
