import ReportLang.Session.Condition

/-!
# Evaluation of conditions

The truth value of a condition in terms of what is found under its names: that of the clause first,
then that of the condition after the connective, if there is one.
-/

namespace ReportLang.Session

/-- The truth value of the clause of a condition. -/
def clause (host : Host) (session : Session) (captures : Captures) : Reading Bool :=
  match captures.nested? "sub" with
  | some sub => session.condition host sub
  | none => session.simpleClause host captures

/-- A condition is its clause, negated if that is called for, joined with the condition after it. -/
theorem condition_eq (host : Host) (session : Session) (captures : Captures) :
    session.condition host captures =
      session.clause host captures >>= fun clause =>
        match captures.nested? "next" with
        | some next =>
          (Connective.ofCaptures captures).apply (clause != captures.flag "negate") <$>
            session.condition host next
        | none => pure (clause != captures.flag "negate") := by
  rw [condition, Session.clause]
  cases captures.nested? "sub" with
  | some sub =>
    cases captures.nested? "next" with
    | some next => rfl
    | none => rfl
  | none =>
    cases captures.nested? "next" with
    | some next => rfl
    | none => rfl

end ReportLang.Session
