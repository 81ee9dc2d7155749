import ReportLang.RunError
import ReportLang.Text.Engine
import ReportLang.Text.Split
import ReportLang.Value.Compare

/-!
# Comparison operators

The relations between two values that a condition can ask for. Relations of order and equality are
those of values; the others compare the texts that would be written to a report.
-/

namespace ReportLang

/-- What can be asked of two texts. -/
inductive TextRelation where
  /-- Every character of the left text occurs in the right one. -/
  | containsOnly
  /-- Some character of the left text occurs in the right one. -/
  | containsAny
  /-- The right text occurs in the left one, case apart. -/
  | containsString
  /-- The right text is a pattern that covers the left one. -/
  | coversPattern
deriving DecidableEq

/-- Whether a relation holds between two texts. The expression of a pattern may be refused. -/
def TextRelation.holds (engine : Text.Engine) (relation : TextRelation) (left right : String) :
    Except RunError Bool :=
  match relation with
  | .containsOnly => .ok (left.toList.all right.toList.contains)
  | .containsAny => .ok (left.toList.any right.toList.contains)
  | .containsString => .ok (Text.occursIn (Text.lower right).toList (Text.lower left).toList)
  | .coversPattern => (engine.covers right left).mapError (.badPattern right)

/-- What can be asked of two values. -/
inductive Comparison where
  /-- Equality, or inequality if `negated`. -/
  | equality (negated : Bool)
  /-- One of the given orders. -/
  | order (accepted : List Ordering)
  /-- A relation of texts, or its opposite if `negated`. -/
  | texts (relation : TextRelation) (negated : Bool)
deriving DecidableEq

namespace Comparison

/-- The comparison of an operator in lower case. -/
def ofOperator? (operator : String) : Option Comparison :=
  match operator with
  | "=" | "eq" => some (.equality false)
  | "<>" | "ne" => some (.equality true)
  | "<" | "lt" => some (.order [.lt])
  | ">" | "gt" => some (.order [.gt])
  | "<=" | "le" => some (.order [.lt, .eq])
  | ">=" | "ge" => some (.order [.gt, .eq])
  | "co" => some (.texts .containsOnly false)
  | "cn" => some (.texts .containsOnly true)
  | "ca" => some (.texts .containsAny false)
  | "na" => some (.texts .containsAny true)
  | "cs" => some (.texts .containsString false)
  | "ns" => some (.texts .containsString true)
  | "cp" => some (.texts .coversPattern false)
  | "np" => some (.texts .coversPattern true)
  | _ => none

/-- The text of a value that is no record. -/
def textOf (value : Value) : Except RunError String :=
  if value.isRecord then .error (.value (.recordAsText value))
  else (value.toText false).mapError .crash

/-- Whether a comparison holds between two values. -/
def holds (engine : Text.Engine) (comparison : Comparison) (left right : Value) :
    Except RunError Bool :=
  match comparison with
  | .equality negated => ((left.equals right).map (· != negated)).mapError .value
  | .order accepted => ((left.compare right).map accepted.contains).mapError .value
  | .texts relation negated => do
    let leftText ← textOf left
    let rightText ← textOf right
    return (← relation.holds engine leftText rightText) != negated

end Comparison

/-- Whether an operator, in either case, holds between two values. -/
def Value.test (engine : Text.Engine) (operator : String) (left right : Value) :
    Except RunError Bool :=
  let operator := Text.lower operator
  match Comparison.ofOperator? operator with
  | some comparison => comparison.holds engine left right
  | none => .error (.unknownComparison operator)

end ReportLang
