import ReportLang.Command
import ReportLang.Command.Match
import ReportLang.Diagnostic

/-!
# Parsing

A statement is parsed by the rule of its keyword, which has to match all of its lexemes. A statement
with an equals sign after its first lexeme is an assignment whose keyword is left out.
-/

namespace ReportLang

/-- Why a statement is no command. -/
inductive ParseError where
  /-- The statement has no lexemes. -/
  | empty
  /-- No rule for statements has the keyword. -/
  | unknownKeyword (keyword : String) (statement : Statement)
  /-- The rule of the keyword does not match. -/
  | mismatch (statement : Statement)
  /-- The rule of the keyword leaves lexemes over, the first of which is given. -/
  | leftover (statement : Statement) (lexeme : Lexeme)
deriving DecidableEq

/-- What is told about the failure. -/
def ParseError.diagnostic : ParseError → Diagnostic
  | .empty => { kind := .invalidKeyword, message := "empty statement" }
  | .unknownKeyword keyword statement =>
    { kind := .invalidKeyword
      message := "invalid keyword '" ++ keyword ++ "' in statement: " ++ statement.source }
  | .mismatch statement =>
    { kind := .grammarMismatch, message := "couldn't parse statement: " ++ statement.source }
  | .leftover statement lexeme =>
    { kind := .grammarMismatch
      message := "couldn't parse entire statement: " ++ statement.source ++
        " (stopped at '" ++ lexeme ++ "')" }

namespace Statement

/-- The keyword that an assignment may leave out. -/
def assignmentKeyword : String := "compute"

/-- The lexemes of a statement with the keyword of an assignment put back. -/
def fullLexemes (statement : Statement) : List Lexeme :=
  match statement.lexemes with
  | first :: "=" :: rest => assignmentKeyword :: first :: "=" :: rest
  | lexemes => lexemes

/-- The command that a statement spells. -/
def parse (grammar : Grammar) (statement : Statement) : Except ParseError Command :=
  let lexemes := statement.fullLexemes
  match lexemes.head? with
  | none => .error .empty
  | some first =>
    let keyword := Text.lower first
    match grammar.statementRule? keyword with
    | none => .error (.unknownKeyword keyword statement)
    | some rule =>
      match grammar.matches? rule lexemes with
      | none => .error (.mismatch statement)
      | some found =>
        match found.rest with
        | [] => .ok ⟨keyword, found.captures⟩
        | lexeme :: _ => .error (.leftover statement lexeme)

/-- The commands that statements spell; the first failure ends the work. -/
def parseAll (grammar : Grammar) (statements : List Statement) :
    Except ParseError (List Command) :=
  statements.mapM (parse grammar)

end Statement

end ReportLang
