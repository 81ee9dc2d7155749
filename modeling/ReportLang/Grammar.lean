import ReportLang.Grammar.Definition
import ReportLang.Lexeme.Scan

/-!
# Grammars

The rules by which statements are recognised, each under its lower-cased name, with a list of the
names in the order in which they were first defined. A name that is defined more than once keeps all
its definitions as alternatives, earlier ones first.
-/

namespace ReportLang

/-- The rules of a language, with a list of their names. -/
structure Grammar where
  /-- The rule of each name in lower case, in no particular order. -/
  table : List (String × Rule)
  /-- The names of the rules in lower case, first defined first. -/
  names : List String

/-- Why a description is no grammar. -/
inductive GrammarError where
  /-- The description cannot be cut into lexemes. -/
  | scan (error : ScanError)
  /-- The lexemes of the description do not form statements. -/
  | segment (error : SegmentError)
  /-- A statement of the description defines no rule. -/
  | definition (error : DefinitionError)
  /-- A rule refers to a rule that is nowhere defined. -/
  | unresolved (keyword : String) (reference : String)
deriving DecidableEq

/-- What is told about the failure. -/
def GrammarError.diagnostic : GrammarError → Diagnostic
  | .scan error => error.diagnostic
  | .segment error => error.diagnostic
  | .definition error => error.diagnostic
  | .unresolved keyword reference =>
    { kind := .unresolvedRuleReference
      message := keyword ++ " refers to undefined rule in '" ++ reference ++ "'" }

/-- A rule with another as its alternative. -/
def Rule.orElse (first second : Rule) : Rule :=
  ⟨.alternation first.node second.node, first.isStatement || second.isStatement⟩

namespace Grammar

/-- The grammar without rules. -/
def empty : Grammar := ⟨[], []⟩

/-- The grammar of rules with different names in lower case. -/
def ofRules (rules : List (String × Rule)) : Grammar := ⟨rules, rules.map Prod.fst⟩

/-- The rules with their names, first defined first. -/
def rules (grammar : Grammar) : List (String × Rule) :=
  grammar.names.filterMap fun name => (grammar.table.lookup name).map fun rule => (name, rule)

/-- Adds a definition under its keyword in lower case. A rule that is defined already is taken out
and put back with the definition as its last alternative; its place among the names stays. -/
def define (grammar : Grammar) (keyword : Lexeme) (rule : Rule) : Grammar :=
  let name := Text.lower keyword
  match grammar.table.lookup name with
  | some held =>
    let others := grammar.table.filter fun entry => entry.1 ≠ name
    { grammar with table := (name, held.orElse rule) :: others }
  | none => ⟨(name, rule) :: grammar.table, grammar.names ++ [name]⟩

/-- The rule of a name, in either case. -/
def find? (grammar : Grammar) (name : String) : Option Rule :=
  grammar.table.lookup (Text.lower name)

/-- The body of a rule. -/
def rule? (grammar : Grammar) (name : String) : Option Node :=
  (grammar.find? name).map Rule.node

/-- The body of a rule that may start a statement. -/
def statementRule? (grammar : Grammar) (keyword : String) : Option Node :=
  ((grammar.find? keyword).filter Rule.isStatement).map Rule.node

/-- The first reference of a rule that the grammar does not resolve. -/
def unresolved? (grammar : Grammar) (rule : Rule) : Option Terminal :=
  rule.node.terminals.find? fun terminal =>
    terminal.isReference && (grammar.find? terminal.target).isNone

/-- The first rule with an unresolved reference, as an error. -/
def checkReferences (grammar : Grammar) : Except GrammarError Unit :=
  match grammar.rules.findSome? fun entry =>
      (grammar.unresolved? entry.2).map fun terminal => (entry.1, terminal) with
  | some (keyword, terminal) => .error (.unresolved keyword terminal.spelling)
  | none => .ok ()

/-- Adds the definition that a statement makes. -/
def defineStatement (grammar : Grammar) (statement : Statement) : Except GrammarError Grammar :=
  match Definition.ofStatement statement with
  | .ok (keyword, rule) => .ok (grammar.define keyword rule)
  | .error error => .error (.definition error)

/-- The grammar that a description spells. -/
def load (text : String) : Except GrammarError Grammar := do
  let lexemes ← (Lexeme.scan .grammar text).mapError .scan
  let statements ← (Statement.segment .grammar lexemes).mapError .segment
  let grammar ← statements.foldlM defineStatement empty
  grammar.checkReferences
  return grammar

/-- Every rule as an indented tree. -/
def describe (grammar : Grammar) : String :=
  "KEYWORDS:\n" ++ String.join (grammar.rules.map fun (keyword, rule) =>
    "\n" ++ keyword ++ ":\n" ++ rule.node.tree 1)

end Grammar

end ReportLang
