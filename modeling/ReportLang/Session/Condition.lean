import ReportLang.Comparison
import ReportLang.Session.Operand

/-!
# Conditions

A condition is given by its captures: an optional negation, one clause, and optionally a connective
with a further condition. The negation applies to the clause alone, and connectives associate to the
right. Both sides of a connective are always evaluated. A condition without a clause is true.
-/

namespace ReportLang

namespace Captures

/-- A capture found by name is smaller than the captures around it. -/
theorem sizeOf_get? {captures : Captures} {name : String} {capture : Capture}
    (found : captures.get? name = some capture) : sizeOf capture < sizeOf captures := by
  induction captures with
  | nil => simp [get?] at found
  | cons entry rest ih =>
    obtain ⟨other, held⟩ := entry
    simp only [get?, List.lookup_cons] at found
    split at found
    · simp only [Option.some.injEq] at found
      subst found
      simp only [List.cons.sizeOf_spec, Prod.mk.sizeOf_spec]
      omega
    · have := ih found
      simp only [List.cons.sizeOf_spec]
      omega

/-- Nested captures are smaller than the captures around them. -/
theorem sizeOf_nested? {captures inner : Captures} {name : String}
    (found : captures.nested? name = some inner) : sizeOf inner < sizeOf captures := by
  unfold nested? at found
  split at found
  · rename_i entries held
    simp only [Option.some.injEq] at found
    subst found
    have := sizeOf_get? held
    simp only [Capture.nested.sizeOf_spec] at this
    omega
  · simp at found

end Captures

/-- How two conditions are joined. -/
inductive Connective where
  /-- Both hold. -/
  | and
  /-- At least one holds. -/
  | or
  /-- Both hold or neither does. -/
  | equivalent
deriving DecidableEq

namespace Connective

/-- The connective that captures call for. -/
def ofCaptures (captures : Captures) : Connective :=
  if captures.flag "and" then .and else if captures.flag "or" then .or else .equivalent

/-- The truth value of two joined conditions. -/
def apply : Connective → Bool → Bool → Bool
  | .and, left, right => left && right
  | .or, left, right => left || right
  | .equivalent, left, right => left == right

end Connective

namespace Session

/-- The value of an operand of a condition. -/
def conditionOperand (host : Host) (session : Session) (captures : Captures) (name : String) :
    Reading Value :=
  match captures.single? name with
  | some lexeme => session.operand host lexeme
  | none => throw (.missingOperand name)

/-- The truth value of a clause that is not in parentheses. -/
def simpleClause (host : Host) (session : Session) (captures : Captures) : Reading Bool :=
  if captures.flag "initial" then do
    let value ← session.conditionOperand host captures "left"
    let isInitial ← value.isInitial.mapError RunError.crash
    return isInitial != captures.flag "not_initial"
  else
    match captures.single? "op" with
    | some operator => do
      let left ← session.conditionOperand host captures "left"
      let right ← session.conditionOperand host captures "right"
      left.test host.engine operator right
    | none => return true

/-- The truth value of a condition. -/
def condition (host : Host) (session : Session) (captures : Captures) : Reading Bool := do
  let clause ←
    match _inner : captures.nested? "sub" with
    | some sub => session.condition host sub
    | none => session.simpleClause host captures
  let first := clause != captures.flag "negate"
  match _later : captures.nested? "next" with
  | some next =>
    let rest ← session.condition host next
    return (Connective.ofCaptures captures).apply first rest
  | none => return first
termination_by sizeOf captures
decreasing_by all_goals exact Captures.sizeOf_nested? (by assumption)

end Session

end ReportLang
