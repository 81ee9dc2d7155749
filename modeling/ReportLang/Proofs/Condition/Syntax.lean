import ReportLang.Session.Condition
import ReportLang.Text.Case

/-!
# Written conditions

Conditions as they are written: an optional negation, a clause, and optionally a connective with a
further condition. Keywords may be spelled in either case. A condition is evaluated clause by clause
from the left, and the first clause that fails decides; no clause is passed over. The truth tables
stand here as well, apart from how captured conditions are evaluated.
-/

namespace ReportLang

/-- A lexeme that spells a keyword, in either case. -/
structure Spelled (keyword : String) where
  /-- The lexeme as written. -/
  lexeme : Lexeme
  /-- It is the keyword in upper case. -/
  spells : Text.upper lexeme = keyword

/-- A lexeme on the left of a clause. It cannot be taken for a negation, for a parenthesis or for
the sign of an assignment. -/
structure LeftOperand where
  /-- The lexeme as written. -/
  lexeme : Lexeme
  /-- It does not negate. -/
  notNegation : Text.upper lexeme ≠ "NOT"
  /-- It opens no parenthesis. -/
  notOpening : Text.upper lexeme ≠ "("
  /-- It makes no assignment. -/
  notAssignment : Text.upper lexeme ≠ "="

/-- A lexeme between two operands. -/
structure Operator where
  /-- The lexeme as written. -/
  lexeme : Lexeme
  /-- It does not ask for the initial value. -/
  notIs : Text.upper lexeme ≠ "IS"

/-- The keyword of a connective. -/
def Connective.keyword : Connective → String
  | .and => "AND"
  | .or => "OR"
  | .equivalent => "EQUIV"

mutual

/-- A condition as written. -/
inductive Condition where
  /-- A clause alone. -/
  | alone (negation : Option (Spelled "NOT")) (clause : Clause)
  /-- A clause that is joined with a further condition. -/
  | joined (negation : Option (Spelled "NOT")) (clause : Clause) (connective : Connective)
    (word : Spelled connective.keyword) (next : Condition)

/-- A clause as written. -/
inductive Clause where
  /-- A condition in parentheses. -/
  | enclosed (opening : Spelled "(") (inner : Condition) (closing : Spelled ")")
  /-- A question for the initial value. -/
  | initial (left : LeftOperand) (is : Spelled "IS") (negation : Option (Spelled "NOT"))
    (word : Spelled "INITIAL")
  /-- A comparison of two operands. -/
  | comparison (left : LeftOperand) (operator : Operator) (right : Lexeme)

end

/-- The lexemes of an optional keyword. -/
def Spelled.lexemes {keyword : String} (word : Option (Spelled keyword)) : List Lexeme :=
  word.toList.map Spelled.lexeme

mutual

/-- The lexemes of a condition in order. -/
def Condition.lexemes : Condition → List Lexeme
  | .alone negation clause => Spelled.lexemes negation ++ clause.lexemes
  | .joined negation clause _ word next =>
    Spelled.lexemes negation ++ clause.lexemes ++ word.lexeme :: next.lexemes

/-- The lexemes of a clause in order. -/
def Clause.lexemes : Clause → List Lexeme
  | .enclosed opening inner closing => opening.lexeme :: (inner.lexemes ++ [closing.lexeme])
  | .initial left is negation word =>
    left.lexeme :: is.lexeme :: (Spelled.lexemes negation ++ [word.lexeme])
  | .comparison left operator right => [left.lexeme, operator.lexeme, right]

end

/-- A truth value under an optional negation. -/
def Spelled.negated (negation : Option (Spelled "NOT")) (value : Bool) : Bool :=
  if negation.isSome then !value else value

/-- The truth table of a connective. -/
def Connective.table : Connective → Bool → Bool → Bool
  | .and, true, true => true
  | .and, _, _ => false
  | .or, false, false => false
  | .or, _, _ => true
  | .equivalent, true, true => true
  | .equivalent, false, false => true
  | .equivalent, _, _ => false

mutual

/-- The truth value of a condition. A negation applies to its clause alone, and both sides of a
connective are evaluated, the left one first. -/
def Condition.evaluate (host : Host) (session : Session) : Condition → Reading Bool
  | .alone negation clause => do
    let value ← clause.evaluate host session
    return Spelled.negated negation value
  | .joined negation clause connective _ next => do
    let value ← clause.evaluate host session
    let rest ← next.evaluate host session
    return connective.table (Spelled.negated negation value) rest

/-- The truth value of a clause. -/
def Clause.evaluate (host : Host) (session : Session) : Clause → Reading Bool
  | .enclosed _ inner _ => inner.evaluate host session
  | .initial left _ negation _ => do
    let value ← session.operand host left.lexeme
    let isInitial ← value.isInitial.mapError RunError.crash
    return Spelled.negated negation isInitial
  | .comparison left operator right => do
    let first ← session.operand host left.lexeme
    let second ← session.operand host right
    first.test host.engine operator.lexeme second

end

mutual

/-- The clauses of a condition that are not in parentheses themselves, from left to right. -/
def Condition.leaves : Condition → List Clause
  | .alone _ clause => clause.leaves
  | .joined _ clause _ _ next => clause.leaves ++ next.leaves

/-- The clauses of a clause that are not in parentheses themselves, from left to right. -/
def Clause.leaves : Clause → List Clause
  | .enclosed _ inner _ => inner.leaves
  | .initial left is negation word => [.initial left is negation word]
  | .comparison left operator right => [.comparison left operator right]

end

/-- Whether several clauses have truth values, one after the other, where the clock has been asked
some number of times before the first of them and some number of times after the last one. -/
inductive Clause.Evaluated (host : Host) (session : Session) : List Clause → Nat → Nat → Prop where
  /-- There are no clauses. -/
  | nil {asked : Nat} : Evaluated host session [] asked asked
  /-- The first one has a truth value, and so have the others after it. -/
  | cons {clause : Clause} {rest : List Clause} {value : Bool} {asked between after : Nat}
    (first : clause.evaluate host session asked = (.ok value, between))
    (others : Evaluated host session rest between after) :
    Evaluated host session (clause :: rest) asked after

/-- Whether a failure is that of the first of several clauses to fail. -/
inductive Clause.FailsFirst (host : Host) (session : Session) (failure : RunError) :
    List Clause → Nat → Nat → Prop where
  /-- The first one fails. -/
  | here {clause : Clause} {rest : List Clause} {asked after : Nat}
    (failed : clause.evaluate host session asked = (.error failure, after)) :
    FailsFirst host session failure (clause :: rest) asked after
  /-- The first one has a truth value, and of those after it a first one fails. -/
  | later {clause : Clause} {rest : List Clause} {value : Bool} {asked between after : Nat}
    (first : clause.evaluate host session asked = (.ok value, between))
    (others : FailsFirst host session failure rest between after) :
    FailsFirst host session failure (clause :: rest) asked after

end ReportLang
