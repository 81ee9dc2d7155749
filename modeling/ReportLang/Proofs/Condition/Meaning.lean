import ReportLang.Proofs.Captures
import ReportLang.Proofs.Condition.Syntax
import ReportLang.Proofs.Session.Condition
import ReportLang.Proofs.Update

/-!
# The meaning of captured conditions

What the grammar captures of a written condition, and that the captures are evaluated as the
condition is. A condition and its clause share one set of captures, so each name has to be traced to
the part it comes from. Evaluation goes through the clauses in turn, down to the first that fails.
-/

namespace ReportLang

open Update (bind_eq_ok bind_eq_error)

/-- The flag of an optional negation. -/
def Spelled.captures (word : Option (Spelled "NOT")) (name : String) : Captures :=
  if word.isSome then .singleton name (.flag true) else .empty

/-- The flag of a connective. -/
def Connective.flagName : Connective → String
  | .and => "and"
  | .or => "or"
  | .equivalent => "equiv"

mutual

/-- What is captured of a condition. -/
def Condition.captures : Condition → Captures
  | .alone negation clause => (Spelled.captures negation "negate").merge clause.captures
  | .joined negation clause connective _ next =>
    ((Spelled.captures negation "negate").merge clause.captures).merge
      ((Captures.singleton connective.flagName (.flag true)).merge
        (.singleton "next" (.nested next.captures)))

/-- What is captured of a clause. -/
def Clause.captures : Clause → Captures
  | .enclosed _ inner _ => .singleton "sub" (.nested inner.captures)
  | .initial left _ negation _ =>
    ((Captures.singleton "left" (.single left.lexeme)).merge
      (Spelled.captures negation "not_initial")).merge (.singleton "initial" (.flag true))
  | .comparison left operator right =>
    ((Captures.singleton "left" (.single left.lexeme)).merge
      (.singleton "op" (.single operator.lexeme))).merge (.singleton "right" (.single right))

end

/-- An optional negation changes what is found under the name of its flag alone. -/
theorem Spelled.get?_merge_captures (word : Option (Spelled "NOT")) (captures : Captures)
    (name other : String) :
    (captures.merge (Spelled.captures word name)).get? other =
      if other = name ∧ word.isSome = true then some (.flag true) else captures.get? other := by
  cases word with
  | none => simp [Spelled.captures, Captures.merge, Captures.empty]
  | some spelled => simp [Spelled.captures, Captures.get?_merge_singleton]

/-- The flag of a negation is found under its name alone. -/
theorem Spelled.get?_captures (word : Option (Spelled "NOT")) (name other : String) :
    (Spelled.captures word name).get? other =
      if other = name ∧ word.isSome = true then some (.flag true) else none := by
  cases word with
  | none => simp [Spelled.captures, Captures.get?_empty]
  | some spelled => simp [Spelled.captures, Captures.get?_singleton]

/-- The flag of a negation is in order. -/
theorem Spelled.ordered_captures (word : Option (Spelled "NOT")) (name : String) :
    (Spelled.captures word name).Ordered := by
  cases word with
  | none => exact Captures.ordered_empty
  | some spelled => exact Captures.ordered_singleton _ _

/-- The names of a clause are in order. -/
theorem Clause.ordered_captures (clause : Clause) : clause.captures.Ordered := by
  cases clause with
  | enclosed opening inner closing => exact Captures.ordered_singleton _ _
  | initial left is negation word => exact ((Captures.ordered_singleton _ _).merge _).merge _
  | comparison left operator right => exact ((Captures.ordered_singleton _ _).merge _).merge _

/-- What is found in a question for the initial value. -/
theorem Clause.get?_initial (left : LeftOperand) (is : Spelled "IS")
    (negation : Option (Spelled "NOT")) (word : Spelled "INITIAL") (name : String) :
    (Clause.initial left is negation word).captures.get? name =
      if name = "initial" then some (.flag true)
      else if name = "not_initial" ∧ negation.isSome = true then some (.flag true)
      else if name = "left" then some (.single left.lexeme)
      else none := by
  rw [Clause.captures, Captures.get?_merge_singleton, Spelled.get?_merge_captures,
    Captures.get?_singleton]

/-- What is found in a comparison. -/
theorem Clause.get?_comparison (left : LeftOperand) (operator : Operator) (right : Lexeme)
    (name : String) :
    (Clause.comparison left operator right).captures.get? name =
      if name = "right" then some (.single right)
      else if name = "op" then some (.single operator.lexeme)
      else if name = "left" then some (.single left.lexeme)
      else none := by
  rw [Clause.captures, Captures.get?_merge_singleton, Captures.get?_merge_singleton,
    Captures.get?_singleton]

/-- What is found in a clause in parentheses. -/
theorem Clause.get?_enclosed (opening : Spelled "(") (inner : Condition) (closing : Spelled ")")
    (name : String) :
    (Clause.enclosed opening inner closing).captures.get? name =
      if name = "sub" then some (.nested inner.captures) else none := by
  rw [Clause.captures, Captures.get?_singleton]

/-- The names that belong to clauses. -/
def Clause.names : List String :=
  ["sub", "initial", "not_initial", "left", "op", "right"]

/-- A clause captures nothing under other names. -/
theorem Clause.get?_eq_none (clause : Clause) {name : String} (foreign : name ∉ Clause.names) :
    clause.captures.get? name = none := by
  simp only [Clause.names, List.mem_cons, List.not_mem_nil, or_false, not_or] at foreign
  obtain ⟨sub, initial, notInitial, left, op, right⟩ := foreign
  cases clause with
  | enclosed opening inner closing => rw [Clause.get?_enclosed, if_neg sub]
  | initial operand is negation word =>
    rw [Clause.get?_initial, if_neg initial, if_neg (fun both => notInitial both.1), if_neg left]
  | comparison operand operator other =>
    rw [Clause.get?_comparison, if_neg right, if_neg op, if_neg left]

namespace Condition

/-- The names of a condition are in order. -/
theorem ordered_captures (condition : Condition) : condition.captures.Ordered := by
  cases condition with
  | alone negation clause => exact (Spelled.ordered_captures negation "negate").merge _
  | joined negation clause connective word next =>
    exact ((Spelled.ordered_captures negation "negate").merge _).merge _

/-- The negation of a condition. -/
def negation : Condition → Option (Spelled "NOT")
  | .alone negation _ => negation
  | .joined negation _ _ _ _ => negation

/-- The clause of a condition. -/
def clause : Condition → Clause
  | .alone _ clause => clause
  | .joined _ clause _ _ _ => clause

/-- What is found in a joined condition: what belongs to the connective, or else what is found in
the condition without it. -/
theorem get?_joined (negation : Option (Spelled "NOT")) (clause : Clause) (connective : Connective)
    (word : Spelled connective.keyword) (next : Condition) (name : String) :
    (Condition.joined negation clause connective word next).captures.get? name =
      if name = "next" then some (.nested next.captures)
      else if name = connective.flagName then some (.flag true)
      else (Condition.alone negation clause).captures.get? name := by
  rw [Condition.captures, Condition.captures,
    Captures.get?_merge ((Captures.ordered_singleton _ _).merge _),
    Captures.get?_merge_singleton, Captures.get?_singleton]
  by_cases isNext : name = "next"
  · rw [if_pos isNext, if_pos isNext]
    rfl
  · rw [if_neg isNext, if_neg isNext]
    by_cases isFlag : name = connective.flagName
    · rw [if_pos isFlag, if_pos isFlag]
      rfl
    · rw [if_neg isFlag, if_neg isFlag]
      rfl

/-- What is found in a condition without a connective: what belongs to its clause, or else its
negation. -/
theorem get?_alone (negation : Option (Spelled "NOT")) (clause : Clause) (name : String) :
    (Condition.alone negation clause).captures.get? name =
      (clause.captures.get? name).or
        (if name = "negate" ∧ negation.isSome = true then some (.flag true) else none) := by
  rw [Condition.captures, Captures.get?_merge clause.ordered_captures, Spelled.get?_captures]

/-- The names of its clause are found in a condition as they are in the clause. -/
theorem get?_of_clause (condition : Condition) {name : String} (own : name ∈ Clause.names) :
    condition.captures.get? name = condition.clause.captures.get? name := by
  have alone (negation : Option (Spelled "NOT")) (clause : Clause) :
      (Condition.alone negation clause).captures.get? name = clause.captures.get? name := by
    have differ : name ≠ "negate" := by
      rintro rfl
      revert own
      decide
    rw [get?_alone, if_neg (fun both => differ both.1), Option.or_none]
  cases condition with
  | alone negation clause => exact alone negation clause
  | joined negation clause connective word next =>
    have notNext : name ≠ "next" := by
      rintro rfl
      revert own
      decide
    have notFlag : name ≠ connective.flagName := by
      rintro rfl
      revert own
      cases connective <;> decide
    rw [get?_joined, if_neg notNext, if_neg notFlag, alone]
    rfl

/-- A condition is negated exactly when a negation is written. -/
theorem flag_negate (condition : Condition) :
    condition.captures.flag "negate" = condition.negation.isSome := by
  have alone (negation : Option (Spelled "NOT")) (clause : Clause) :
      (Condition.alone negation clause).captures.get? "negate" =
        if negation.isSome = true then some (.flag true) else none := by
    rw [get?_alone, clause.get?_eq_none (by decide)]
    simp
  have found : condition.captures.get? "negate" =
      if condition.negation.isSome = true then some (.flag true) else none := by
    cases condition with
    | alone negation clause => exact alone negation clause
    | joined negation clause connective word next =>
      have notFlag : "negate" ≠ connective.flagName := by cases connective <;> decide
      rw [get?_joined, if_neg (by decide), if_neg notFlag, alone]
      rfl
  rw [Captures.flag, found]
  cases condition.negation.isSome with
  | true => rfl
  | false => rfl

/-- A connective is found by its flag. -/
theorem ofCaptures_joined (negation : Option (Spelled "NOT")) (clause : Clause)
    (connective : Connective) (word : Spelled connective.keyword) (next : Condition) :
    Connective.ofCaptures (Condition.joined negation clause connective word next).captures =
      connective := by
  have foreign (name : String) (among : name ∈ ["and", "or"]) :
      (Condition.alone negation clause).captures.get? name = none := by
    have outside : name ∉ Clause.names ∧ name ≠ "negate" := by
      revert name
      decide
    rw [get?_alone, clause.get?_eq_none outside.1, if_neg (fun both => outside.2 both.1)]
    rfl
  have andFlag := get?_joined negation clause connective word next "and"
  have orFlag := get?_joined negation clause connective word next "or"
  rw [foreign "and" (by decide), if_neg (by decide)] at andFlag
  rw [foreign "or" (by decide), if_neg (by decide)] at orFlag
  cases connective with
  | and => simp [Connective.ofCaptures, Captures.flag, andFlag, Connective.flagName]
  | or => simp [Connective.ofCaptures, Captures.flag, andFlag, orFlag, Connective.flagName]
  | equivalent => simp [Connective.ofCaptures, Captures.flag, andFlag, orFlag, Connective.flagName]

end Condition

/-- A flag negates as it is written. -/
theorem Spelled.bne_eq_negated (negation : Option (Spelled "NOT")) (value : Bool) :
    (value != negation.isSome) = Spelled.negated negation value := by
  cases negation with
  | none => exact Bool.bne_false value
  | some spelled => exact Bool.bne_true value

/-- Connectives are applied as their truth tables say. -/
theorem Connective.apply_eq_table (connective : Connective) :
    connective.apply = connective.table := by
  funext left right
  cases connective with
  | and => cases left <;> cases right <;> rfl
  | or => cases left <;> cases right <;> rfl
  | equivalent => cases left <;> cases right <;> rfl

mutual

/-- The captures of a condition are evaluated as the condition is. -/
theorem Condition.condition_captures (host : Host) (session : Session) (condition : Condition) :
    session.condition host condition.captures = condition.evaluate host session := by
  cases condition with
  | alone negation clause =>
    have own := Clause.clause_of_agree host session clause
      fun _ among => (Condition.alone negation clause).get?_of_clause among
    have noNext : (Condition.alone negation clause).captures.nested? "next" = none := by
      rw [Captures.nested?, Condition.get?_alone, clause.get?_eq_none (by decide)]
      rfl
    rw [Session.condition_eq, own, noNext, Condition.flag_negate]
    simp only [Spelled.bne_eq_negated]
    rfl
  | joined negation clause connective word next =>
    have own := Clause.clause_of_agree host session clause
      fun _ among => (Condition.joined negation clause connective word next).get?_of_clause among
    have later : (Condition.joined negation clause connective word next).captures.nested? "next" =
        some next.captures := by
      rw [Captures.nested?, Condition.get?_joined, if_pos rfl]
    rw [Session.condition_eq, own, later, Condition.ofCaptures_joined, Condition.flag_negate]
    simp only [Condition.condition_captures host session next, Spelled.bne_eq_negated,
      Connective.apply_eq_table]
    rfl

/-- Captures that agree with those of a clause are evaluated as the clause is. -/
theorem Clause.clause_of_agree (host : Host) (session : Session) (clause : Clause)
    {captures : Captures}
    (agree : ∀ name ∈ Clause.names, captures.get? name = clause.captures.get? name) :
    session.clause host captures = clause.evaluate host session := by
  have sub := agree "sub" (by decide)
  have initial := agree "initial" (by decide)
  have notInitial := agree "not_initial" (by decide)
  have left := agree "left" (by decide)
  have op := agree "op" (by decide)
  have right := agree "right" (by decide)
  cases clause with
  | enclosed opening inner closing =>
    rw [Clause.get?_enclosed, if_pos rfl] at sub
    rw [Session.clause, Captures.nested?, sub, Clause.evaluate]
    exact Condition.condition_captures host session inner
  | initial operand is negation word =>
    rw [Clause.get?_initial, if_neg (by decide), if_neg (by simp), if_neg (by decide)] at sub
    rw [Clause.get?_initial, if_pos rfl] at initial
    rw [Clause.get?_initial, if_neg (by decide)] at notInitial
    rw [Clause.get?_initial, if_neg (by decide), if_neg (by simp), if_pos rfl] at left
    have negated : captures.flag "not_initial" = negation.isSome := by
      rw [Captures.flag, notInitial]
      cases negation with
      | none => rfl
      | some spelled => rfl
    rw [Session.clause, Captures.nested?, sub, Clause.evaluate]
    simp [Session.simpleClause, Captures.flag, initial, Session.conditionOperand,
      Captures.single?, left, ← Spelled.bne_eq_negated, ← negated]
  | comparison operand operator other =>
    rw [Clause.get?_comparison, if_neg (by decide), if_neg (by decide), if_neg (by decide)] at sub
    rw [Clause.get?_comparison, if_neg (by decide), if_neg (by decide), if_neg (by decide)]
      at initial
    rw [Clause.get?_comparison, if_neg (by decide), if_neg (by decide), if_pos rfl] at left
    rw [Clause.get?_comparison, if_neg (by decide), if_pos rfl] at op
    rw [Clause.get?_comparison, if_pos rfl] at right
    rw [Session.clause, Captures.nested?, sub, Clause.evaluate]
    simp [Session.simpleClause, Captures.flag, initial, Session.conditionOperand,
      Captures.single?, left, op, right]

end

section Turns

variable {host : Host} {session : Session} {first later : List Clause} {failure : RunError}
  {asked after : Nat}

/-- Two groups of clauses have truth values if the first one has, and after it the second one. -/
theorem Clause.evaluated_append :
    Clause.Evaluated host session (first ++ later) asked after ↔
      ∃ between, Clause.Evaluated host session first asked between ∧
        Clause.Evaluated host session later between after := by
  induction first generalizing asked with
  | nil =>
    constructor
    · intro all
      exact ⟨asked, .nil, all⟩
    · rintro ⟨_, ⟨⟩, all⟩
      exact all
  | cons clause rest ih =>
    constructor
    · rintro @⟨⟩
      rename_i value middle own all
      obtain ⟨between, left, right⟩ := ih.mp all
      exact ⟨between, .cons own left, right⟩
    · rintro ⟨between, @⟨⟩, right⟩
      rename_i value middle own left
      exact .cons own (ih.mpr ⟨between, left, right⟩)

/-- The first of two groups of clauses fails first, or it has truth values and the second one
fails. -/
theorem Clause.failsFirst_append :
    Clause.FailsFirst host session failure (first ++ later) asked after ↔
      Clause.FailsFirst host session failure first asked after ∨
        ∃ between, Clause.Evaluated host session first asked between ∧
          Clause.FailsFirst host session failure later between after := by
  induction first generalizing asked with
  | nil =>
    constructor
    · intro fails
      exact .inr ⟨asked, .nil, fails⟩
    · rintro (⟨⟨⟩⟩ | ⟨_, ⟨⟩, fails⟩)
      exact fails
  | cons clause rest ih =>
    constructor
    · intro fails
      cases fails with
      | here failed => exact .inl (.here failed)
      | later own others =>
        rcases ih.mp others with left | ⟨between, all, right⟩
        · exact .inl (.later own left)
        · exact .inr ⟨between, .cons own all, right⟩
    · rintro (fails | ⟨between, all, right⟩)
      · cases fails with
        | here failed => exact .here failed
        | later own others => exact .later own (ih.mpr (.inl others))
      · cases all with
        | cons own others => exact .later own (ih.mpr (.inr ⟨between, others, right⟩))

/-- Whether a reading goes through clauses in turn: it succeeds exactly when all of them have truth
values, and fails exactly as the first of them that does. -/
structure Clause.InTurn (host : Host) (session : Session) (clauses : List Clause)
    (reading : Reading Bool) : Prop where
  /-- It succeeds when all clauses have truth values. -/
  succeeds : ∀ asked after, (∃ value, reading asked = (.ok value, after)) ↔
    Clause.Evaluated host session clauses asked after
  /-- It fails when a first clause does. -/
  fails : ∀ failure asked after, reading asked = (.error failure, after) ↔
    Clause.FailsFirst host session failure clauses asked after

/-- A clause goes through itself. -/
theorem Clause.inTurn_singleton (clause : Clause) :
    Clause.InTurn host session [clause] (clause.evaluate host session) where
  succeeds asked after := by
    constructor
    · rintro ⟨value, read⟩
      exact .cons read .nil
    · rintro @⟨⟩
      rename_i value middle own none
      cases none
      exact ⟨value, own⟩
  fails failure asked after := by
    constructor
    · exact .here
    · intro fails
      cases fails with
      | here failed => exact failed
      | later _ none => cases none

/-- What is made of a truth value does not matter. -/
theorem Clause.InTurn.map {clauses : List Clause} {reading : Reading Bool}
    (turns : Clause.InTurn host session clauses reading) (change : Bool → Bool) :
    Clause.InTurn host session clauses (reading >>= fun value => pure (change value)) where
  succeeds asked after := by
    rw [← turns.succeeds]
    constructor
    · rintro ⟨_, read⟩
      obtain ⟨value, _, first, last⟩ := bind_eq_ok.mp read
      obtain ⟨_, rfl⟩ := Prod.mk.inj last
      exact ⟨value, first⟩
    · rintro ⟨value, read⟩
      exact ⟨change value, bind_eq_ok.mpr ⟨value, after, read, rfl⟩⟩
  fails failure asked after := by
    rw [← turns.fails, bind_eq_error]
    constructor
    · rintro (failed | ⟨_, _, _, never⟩)
      · exact failed
      · cases (Prod.mk.inj never).1
    · exact .inl

/-- Readings in sequence go through the clauses of both. -/
theorem Clause.InTurn.bind {reading : Reading Bool} {next : Bool → Reading Bool}
    (turns : Clause.InTurn host session first reading)
    (others : ∀ value, Clause.InTurn host session later (next value)) :
    Clause.InTurn host session (first ++ later) (reading >>= next) where
  succeeds asked after := by
    rw [Clause.evaluated_append]
    constructor
    · rintro ⟨ended, read⟩
      obtain ⟨value, between, left, right⟩ := bind_eq_ok.mp read
      exact ⟨between, (turns.succeeds asked between).mp ⟨value, left⟩,
        ((others value).succeeds between after).mp ⟨ended, right⟩⟩
    · rintro ⟨between, left, right⟩
      obtain ⟨value, read⟩ := (turns.succeeds asked between).mpr left
      obtain ⟨ended, last⟩ := ((others value).succeeds between after).mpr right
      exact ⟨ended, bind_eq_ok.mpr ⟨value, between, read, last⟩⟩
  fails failure asked after := by
    rw [Clause.failsFirst_append, bind_eq_error]
    refine or_congr (turns.fails failure asked after) ?_
    constructor
    · rintro ⟨value, between, left, right⟩
      exact ⟨between, (turns.succeeds asked between).mp ⟨value, left⟩,
        ((others value).fails failure between after).mp right⟩
    · rintro ⟨between, left, right⟩
      obtain ⟨value, read⟩ := (turns.succeeds asked between).mpr left
      exact ⟨value, between, read, ((others value).fails failure between after).mpr right⟩

mutual

/-- A condition is evaluated by going through its clauses in turn. -/
theorem Condition.inTurn_evaluate (condition : Condition) :
    Clause.InTurn host session condition.leaves (condition.evaluate host session) := by
  cases condition with
  | alone negation clause =>
    rw [Condition.leaves, Condition.evaluate]
    exact (Clause.inTurn_evaluate clause).map _
  | joined negation clause connective word next =>
    rw [Condition.leaves, Condition.evaluate]
    exact (Clause.inTurn_evaluate clause).bind fun _ => (Condition.inTurn_evaluate next).map _

/-- A clause is evaluated by going through the clauses inside it in turn. -/
theorem Clause.inTurn_evaluate (clause : Clause) :
    Clause.InTurn host session clause.leaves (clause.evaluate host session) := by
  cases clause with
  | enclosed opening inner closing =>
    rw [Clause.leaves, Clause.evaluate]
    exact Condition.inTurn_evaluate inner
  | initial left is negation word => exact Clause.inTurn_singleton _
  | comparison left operator right => exact Clause.inTurn_singleton _

end

end Turns

end ReportLang
