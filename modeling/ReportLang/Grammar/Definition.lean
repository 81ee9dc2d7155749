import ReportLang.Diagnostic
import ReportLang.Grammar.Node
import ReportLang.Statement

/-!
# Definitions

One statement of a grammar description defines one rule. Braces group a sequence, brackets an
optional part, and a bar joins its two neighbours into alternatives. A keyword written in upper case
may start a statement, and it is itself the first word of its rule; any other keyword only names a
rule for use by others.
-/

namespace ReportLang

/-- One rule of a grammar. -/
structure Rule where
  /-- The body of the rule. -/
  node : Node
  /-- Whether the rule may start a statement. -/
  isStatement : Bool

/-- What an open bracket turns into when it is closed. -/
inductive Bracket where
  /-- Braces around a sequence. -/
  | sequence
  /-- Brackets around what may be left out. -/
  | optional
deriving DecidableEq

namespace Bracket

/-- The closing mark of a bracket. -/
def closer : Bracket → String
  | .sequence => "\x7d"
  | .optional => "]"

/-- The part of a rule that a bracket around other parts makes. -/
def close (bracket : Bracket) (nodes : List Node) : Node :=
  match bracket with
  | .sequence => .sequence nodes
  | .optional => .optional (.sequence nodes)

end Bracket

/-- What is wrong with the brackets or bars of a definition. -/
inductive Imbalance where
  /-- A closing mark stands where nothing is open. -/
  | unopened (closer : String)
  /-- A closing mark belongs to another bracket than the one that is open. -/
  | mismatched (expected : String) (found : String)
  /-- A bracket is still open at the end. -/
  | unclosed (closer : String)
  /-- A bar has nothing before it. -/
  | nothingLeft
  /-- A bar has nothing after it. -/
  | nothingRight
deriving DecidableEq

/-- The wording of an imbalance. -/
def Imbalance.message : Imbalance → String
  | .unopened closer => "'" ++ closer ++ "' without a matching opener"
  | .mismatched expected found => "expected '" ++ expected ++ "' but found '" ++ found ++ "'"
  | .unclosed closer => "'" ++ closer ++ "' is never closed"
  | .nothingLeft => "'|' has nothing on its left"
  | .nothingRight => "'|' has nothing on its right"

/-- Why a statement defines no rule. -/
inductive DefinitionError where
  /-- The statement has no keyword. -/
  | empty
  /-- The brackets or bars in the definition of a keyword do not fit together. -/
  | unbalanced (keyword : Lexeme) (imbalance : Imbalance)
deriving DecidableEq

/-- What is told about the failure. -/
def DefinitionError.diagnostic : DefinitionError → Diagnostic
  | .empty => { kind := .unbalancedGroup, message := "empty grammar definition" }
  | .unbalanced keyword imbalance =>
    { kind := .unbalancedGroup
      message := "in definition of " ++ keyword ++ ": " ++ imbalance.message }

namespace Definition

/-- A part of a level, or a bar that waits for the part on its right. -/
inductive Item where
  /-- A part. -/
  | node (node : Node)
  /-- A bar that has no part on its right yet. -/
  | bar

/-- The parts of the innermost open bracket, and for each open bracket the parts before it. Parts
are held last first. -/
structure Progress where
  /-- The parts read inside the innermost open bracket. -/
  level : List Item
  /-- The open brackets, innermost first, each with the parts before it. -/
  outer : List (Bracket × List Item)

/-- Adds a part to a level; a bar before it makes it an alternative to the part before the bar. -/
def append (node : Node) : List Item → Except Imbalance (List Item)
  | .bar :: .node previous :: rest => append (.alternation previous node) rest
  | .bar :: _ => .error .nothingLeft
  | level => .ok (.node node :: level)

/-- The parts of a finished level, in order. -/
def close (level : List Item) : Except Imbalance (List Node) :=
  level.reverse.mapM fun item =>
    match item with
    | .node node => .ok node
    | .bar => .error .nothingRight

/-- The part that a word stands for. -/
def wordNode (word : Lexeme) : Node :=
  match word.literalText? with
  | some text => .literal text
  | none => .terminal (Terminal.ofWord word)

/-- Closes the innermost open bracket with the given mark. -/
def closeBracket (closer : String) (progress : Progress) : Except Imbalance Progress :=
  match progress.outer with
  | [] => .error (.unopened closer)
  | (bracket, level) :: outer =>
    if bracket.closer ≠ closer then
      .error (.mismatched bracket.closer closer)
    else do
      let nodes ← close progress.level
      return ⟨← append (bracket.close nodes) level, outer⟩

/-- Reads one lexeme of a rule. -/
def step (progress : Progress) (lexeme : Lexeme) : Except Imbalance Progress :=
  if lexeme = "\x7b" then
    .ok ⟨[], (.sequence, progress.level) :: progress.outer⟩
  else if lexeme = "[" then
    .ok ⟨[], (.optional, progress.level) :: progress.outer⟩
  else if lexeme = "\x7d" ∨ lexeme = "]" then
    closeBracket lexeme progress
  else if lexeme = "|" then
    .ok { progress with level := .bar :: progress.level }
  else do
    return { progress with level := ← append (wordNode lexeme) progress.level }

/-- Ends a rule. -/
def finish (progress : Progress) : Except Imbalance Node :=
  match progress.outer with
  | (bracket, _) :: _ => .error (.unclosed bracket.closer)
  | [] => (close progress.level).map Node.sequence

/-- The rule body that lexemes spell. -/
def body (lexemes : List Lexeme) : Except Imbalance Node := do
  finish (← lexemes.foldlM step ⟨[], []⟩)

/-- Whether a keyword may start a statement. -/
def startsStatement (keyword : Lexeme) : Bool :=
  Text.upper keyword = keyword

/-- The keyword and the rule that a statement defines. -/
def ofStatement (statement : Statement) : Except DefinitionError (Lexeme × Rule) :=
  match statement.lexemes with
  | [] => .error .empty
  | keyword :: rest =>
    let isStatement := startsStatement keyword
    match body (if isStatement then keyword :: rest else rest) with
    | .ok node => .ok (keyword, ⟨node, isStatement⟩)
    | .error imbalance => .error (.unbalanced keyword imbalance)

end Definition

end ReportLang
