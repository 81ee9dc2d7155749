/-!
# Diagnostics

What is told about a failure: a kind with a stable code, the stage of the work it belongs to, a
message, and sometimes a hint. The kinds are fixed; causes of failure live beside the operations
that raise them, each with its diagnostic.
-/

namespace ReportLang

/-- The stage of the work a failure belongs to. -/
inductive Stage where
  /-- Cutting a text into lexemes. -/
  | lexing
  /-- Forming statements from lexemes. -/
  | segmenting
  /-- Reading a description of a grammar. -/
  | grammar
  /-- Matching statements against rules. -/
  | parsing
  /-- Arranging commands in blocks. -/
  | grouping
  /-- Storing and combining values. -/
  | typing
  /-- Executing instructions. -/
  | running
deriving DecidableEq

/-- The name of a stage in a diagnostic. -/
def Stage.name : Stage → String
  | .lexing => "lexer"
  | .segmenting => "segmenter"
  | .grammar => "grammar"
  | .parsing => "parser"
  | .grouping => "grouper"
  | .typing => "types"
  | .running => "runtime"

/-- The kinds of failure. -/
inductive Kind where
  | unterminatedLiteral
  | unsupportedCharacter
  | unexpectedChain
  | unexpectedSeparator
  | missingTerminator
  | unbalancedGroup
  | unresolvedRuleReference
  | invalidKeyword
  | grammarMismatch
  | mismatchedBlockKind
  | mismatchedBlockName
  | unbalancedBlock
  | lengthOverflow
  | incompatibleTypes
  | structConversionNotAllowed
  | duplicateField
  | unknownField
  | invalidType
  | duplicateDeclaration
  | undefinedVariable
  | readOnlyVariable
  | invalidOperator
  | arithmetic
  | misplacedReport
  | missingReport
  | emptyProgram
  | assertionFailure
  | unimplementedFeature
  | screenLimit
deriving DecidableEq

namespace Kind

/-- What a kind of failure is called. -/
def text : Kind → String
  | .unterminatedLiteral => "unterminated literal"
  | .unsupportedCharacter => "unsupported character"
  | .unexpectedChain => "unexpected chain"
  | .unexpectedSeparator => "unexpected separator"
  | .missingTerminator => "missing terminator"
  | .unbalancedGroup => "unbalanced group"
  | .unresolvedRuleReference => "unresolved rule reference"
  | .invalidKeyword => "invalid keyword"
  | .grammarMismatch => "grammar mismatch"
  | .mismatchedBlockKind => "mismatched block kind"
  | .mismatchedBlockName => "mismatched block name"
  | .unbalancedBlock => "unbalanced block"
  | .lengthOverflow => "length overflow"
  | .incompatibleTypes => "incompatible types"
  | .structConversionNotAllowed => "struct conversion not allowed"
  | .duplicateField => "duplicate field"
  | .unknownField => "unknown field"
  | .invalidType => "invalid type"
  | .duplicateDeclaration => "duplicate declaration"
  | .undefinedVariable => "undefined variable"
  | .readOnlyVariable => "read-only variable"
  | .invalidOperator => "invalid operator"
  | .arithmetic => "arithmetic error"
  | .misplacedReport => "misplaced report"
  | .missingReport => "missing report"
  | .emptyProgram => "empty program"
  | .assertionFailure => "assertion failure"
  | .unimplementedFeature => "unimplemented feature"
  | .screenLimit => "screen limit exceeded"

/-- The stable code of a kind of failure. -/
def code : Kind → String
  | .unterminatedLiteral => "E_LEX_UNTERMINATED"
  | .unsupportedCharacter => "E_LEX_CHARACTER"
  | .unexpectedChain => "E_SEG_CHAIN"
  | .unexpectedSeparator => "E_SEG_SEPARATOR"
  | .missingTerminator => "E_SEG_TERMINATOR"
  | .unbalancedGroup => "E_GRAMMAR_GROUP"
  | .unresolvedRuleReference => "E_GRAMMAR_REFERENCE"
  | .invalidKeyword => "E_PARSE_KEYWORD"
  | .grammarMismatch => "E_PARSE_MISMATCH"
  | .mismatchedBlockKind => "E_GROUP_KIND"
  | .mismatchedBlockName => "E_GROUP_NAME"
  | .unbalancedBlock => "E_GROUP_UNBALANCED"
  | .lengthOverflow => "E_TYPE_LENGTH"
  | .incompatibleTypes => "E_TYPE_INCOMPATIBLE"
  | .structConversionNotAllowed => "E_TYPE_STRUCT"
  | .duplicateField => "E_TYPE_DUPLICATE_FIELD"
  | .unknownField => "E_TYPE_UNKNOWN_FIELD"
  | .invalidType => "E_TYPE_INVALID"
  | .duplicateDeclaration => "E_RUN_DUPLICATE"
  | .undefinedVariable => "E_RUN_UNDEFINED"
  | .readOnlyVariable => "E_RUN_READ_ONLY"
  | .invalidOperator => "E_RUN_OPERATOR"
  | .arithmetic => "E_RUN_ARITHMETIC"
  | .misplacedReport => "E_RUN_MISPLACED_REPORT"
  | .missingReport => "E_RUN_MISSING_REPORT"
  | .emptyProgram => "E_RUN_EMPTY"
  | .assertionFailure => "E_RUN_ASSERT"
  | .unimplementedFeature => "E_RUN_UNIMPLEMENTED"
  | .screenLimit => "E_RUN_SCREEN_LIMIT"

/-- The stage a kind of failure belongs to. -/
def stage : Kind → Stage
  | .unterminatedLiteral | .unsupportedCharacter => .lexing
  | .unexpectedChain | .unexpectedSeparator | .missingTerminator => .segmenting
  | .unbalancedGroup | .unresolvedRuleReference => .grammar
  | .invalidKeyword | .grammarMismatch => .parsing
  | .mismatchedBlockKind | .mismatchedBlockName | .unbalancedBlock => .grouping
  | .lengthOverflow | .incompatibleTypes | .structConversionNotAllowed | .duplicateField
  | .unknownField | .invalidType => .typing
  | .duplicateDeclaration | .undefinedVariable | .readOnlyVariable | .invalidOperator
  | .arithmetic | .misplacedReport | .missingReport | .emptyProgram | .assertionFailure
  | .unimplementedFeature | .screenLimit => .running

end Kind

/-- What is told about a failure. -/
structure Diagnostic where
  /-- The kind of failure. -/
  kind : Kind
  /-- What failed, with the lexeme, statement or value at fault. -/
  message : String
  /-- How to mend it. -/
  help : Option String := none
deriving DecidableEq

namespace Diagnostic

/-- The failure in one line. -/
def summary (d : Diagnostic) : String :=
  d.kind.text ++ ": " ++ d.message

/-- The failure as shown to a user, with the name of the program it is about. -/
def render (program : String) (d : Diagnostic) : String :=
  "error[" ++ d.kind.code ++ "]: " ++ d.summary ++ "\n  --> " ++ program ++
    " (" ++ d.kind.stage.name ++ ")\n" ++
    match d.help with
    | some help => "\nhelp: " ++ help ++ "\n"
    | none => ""

end Diagnostic

end ReportLang
