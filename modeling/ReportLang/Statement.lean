import ReportLang.Diagnostic
import ReportLang.Lexeme
import ReportLang.Text.Case

/-!
# Statements

Lexemes up to a period form a statement. A colon makes a chain of statements: what stands before it
is put in front of each of the comma-separated bodies after it. In a program every lexeme but a
literal is lower-cased.
-/

namespace ReportLang

/-- One complete command, without its period. -/
structure Statement where
  /-- The lexemes in order, the keyword first. -/
  lexemes : List Lexeme
deriving DecidableEq

namespace Statement

/-- The first lexeme. -/
def keyword? (statement : Statement) : Option Lexeme :=
  statement.lexemes.head?

/-- The statement as source text: its lexemes and a period, one blank between them. -/
def source (statement : Statement) : String :=
  String.join (statement.lexemes.map fun lexeme => lexeme.source ++ " ") ++ "."

end Statement

/-- Why lexemes do not form statements. -/
inductive SegmentError where
  /-- A second colon in one statement. -/
  | unexpectedChain (body : List Lexeme)
  /-- A comma outside a chain. -/
  | unexpectedSeparator (body : List Lexeme)
  /-- The lexemes end inside a statement. -/
  | missingTerminator (pending : List Lexeme)
deriving DecidableEq

namespace SegmentError

/-- Lexemes in a message. -/
def listing (lexemes : List Lexeme) : String :=
  String.intercalate " " lexemes

/-- What is told about the failure. -/
def diagnostic : SegmentError → Diagnostic
  | .unexpectedChain body =>
    { kind := .unexpectedChain
      message := "unexpected ':' after '" ++ listing body ++
        "' (only one is allowed per statement)" }
  | .unexpectedSeparator body =>
    { kind := .unexpectedSeparator
      message := "unexpected ',' after '" ++ listing body ++ "'"
      help := some "start a chained statement with ':' before using ','" }
  | .missingTerminator pending =>
    { kind := .missingTerminator
      message := "missing '.' at end of statement '" ++ listing pending ++ "'" }

end SegmentError

namespace Statement

/-- A lexeme as a statement holds it: lower case in a program, unless it is a literal. -/
def normal (mode : Mode) (lexeme : Lexeme) : Lexeme :=
  if mode = .statement && !lexeme.isLiteral then Text.lower lexeme else lexeme

/-- Puts a statement before others, unless it has no lexemes. -/
def cons (lexemes : List Lexeme) (rest : List Statement) : List Statement :=
  if lexemes.isEmpty then rest else ⟨lexemes⟩ :: rest

/-- Forms statements from lexemes, within a chain that starts with `chain` if there is one, and
after the lexemes `body` of the current statement. -/
def segmentFrom (mode : Mode) (chain : Option (List Lexeme)) (body : List Lexeme) :
    List Lexeme → Except SegmentError (List Statement)
  | [] =>
    if chain.isSome || !body.isEmpty then
      .error (.missingTerminator (chain.getD [] ++ body))
    else
      .ok []
  | lexeme :: rest =>
    if lexeme = ":" then
      if chain.isSome then .error (.unexpectedChain body)
      else segmentFrom mode (some body) [] rest
    else if lexeme = "," then
      if chain.isNone then .error (.unexpectedSeparator body)
      else (segmentFrom mode chain [] rest).map (cons (chain.getD [] ++ body))
    else if lexeme = "." then
      (segmentFrom mode none [] rest).map (cons (chain.getD [] ++ body))
    else
      segmentFrom mode chain (body ++ [normal mode lexeme]) rest

/-- The statements that lexemes form. -/
def segment (mode : Mode) (lexemes : List Lexeme) : Except SegmentError (List Statement) :=
  segmentFrom mode none [] lexemes

end Statement

end ReportLang
