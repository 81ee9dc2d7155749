import ReportLang.Grammar.Builtin
import ReportLang.Proofs.Command.Matching
import ReportLang.Proofs.Condition.Meaning

/-!
# Reading written conditions

The grammar of report programs reads every written condition as what it is: of the alternatives for
a clause only the right one matches, a negation and a connective are read whenever they are written,
and what follows the condition is left over.
-/

namespace ReportLang

namespace Node

variable {rule? : String → Option Matcher} {captures added : Captures} {node : Node}
  {nodes : List Node} {input middle : List Lexeme}

/-- A part that is read adds what it captures. -/
theorem matchesAll?_of_some (read : node.matches? rule? input = some ⟨added, middle⟩) :
    matchesAll? rule? (node :: nodes) captures input =
      matchesAll? rule? nodes (captures.merge added) middle := by
  rw [matchesAll?, read]

/-- Where a part is not read, nothing is. -/
theorem matchesAll?_of_none (missed : node.matches? rule? input = none) :
    matchesAll? rule? (node :: nodes) captures input = none := by
  rw [matchesAll?, missed]

/-- A keyword is read where it is spelled. -/
theorem matches?_keyword {keyword : String} (upper : Text.upper keyword = keyword)
    (lexeme : Lexeme) (spells : Text.upper lexeme = keyword) (rest : List Lexeme) :
    (Grammar.word keyword).matches? rule? (lexeme :: rest) = some ⟨.empty, rest⟩ := by
  simp [Grammar.word, matches?, Terminal.matches?, Terminal.isKeyword, upper, Match.expect, spells]

/-- A keyword is not read where something else stands. -/
theorem matches?_keyword_of_ne {keyword : String} (upper : Text.upper keyword = keyword)
    (differ : ∀ lexeme, input.head? = some lexeme → Text.upper lexeme ≠ keyword) :
    (Grammar.word keyword).matches? rule? input = none := by
  cases input with
  | nil => simp [Grammar.word, matches?, Terminal.matches?, Terminal.isKeyword, upper, Match.expect]
  | cons lexeme rest =>
    have other := differ lexeme rfl
    simp [Grammar.word, matches?, Terminal.matches?, Terminal.isKeyword, upper, Match.expect, other]

/-- A sign is read where it is written. -/
theorem matches?_literal {text : String} (lexeme : Lexeme)
    (spells : Text.upper lexeme = Text.upper text) (rest : List Lexeme) :
    (Node.literal text).matches? rule? (lexeme :: rest) = some ⟨.empty, rest⟩ := by
  simp [matches?, Match.expect, spells]

/-- A sign is not read where something else stands. -/
theorem matches?_literal_of_ne {text : String} (lexeme : Lexeme)
    (differ : Text.upper lexeme ≠ Text.upper text) (rest : List Lexeme) :
    (Node.literal text).matches? rule? (lexeme :: rest) = none := by
  simp [matches?, Match.expect, differ]

/-- A flag is noted without reading anything. -/
theorem matches?_flag (name : String) :
    (Grammar.flag name).matches? rule? input = some ⟨.singleton name (.flag true), input⟩ := by
  simp [Grammar.flag, matches?, Terminal.matches?]

/-- A name that is neither a keyword nor a rule captures any lexeme. -/
theorem matches?_lexeme {name : String} (lower : Text.upper name ≠ name)
    (unknown : rule? name = none) (lexeme : Lexeme) (rest : List Lexeme) :
    (Grammar.word name).matches? rule? (lexeme :: rest) =
      some ⟨.singleton name (.single lexeme), rest⟩ := by
  simp [Grammar.word, matches?, Terminal.matches?, Terminal.isKeyword, lower, unknown,
    Match.capture]

/-- The name of a rule is read as the rule is. -/
theorem matches?_rule {name : String} (lower : Text.upper name ≠ name) {matcher : Matcher}
    (known : rule? name = some matcher) :
    (Grammar.word name).matches? rule? input = matcher input := by
  simp [Grammar.word, matches?, Terminal.matches?, Terminal.isKeyword, lower, known]

/-- The captures of a rule are kept under the name that is given to them. -/
theorem matches?_under {name rule : String} (lower : Text.upper rule ≠ rule) {matcher : Matcher}
    (known : rule? rule = some matcher) (read : matcher input = some ⟨added, middle⟩) :
    (Grammar.under name rule).matches? rule? input =
      some ⟨.singleton name (.nested added), middle⟩ := by
  simp [Grammar.under, matches?, Terminal.matches?, Terminal.isKeyword, lower, known, read]

/-- A part that may be left out is read where it is written. -/
theorem matches?_maybe (read : matchesAll? rule? nodes .empty input = some ⟨added, middle⟩) :
    (Grammar.maybe nodes).matches? rule? input = some ⟨added, middle⟩ := by
  simp [Grammar.maybe, matches?, read]

/-- A part that may be left out and is not read is left out. -/
theorem matches?_maybe_of_none (missed : matchesAll? rule? nodes .empty input = none) :
    (Grammar.maybe nodes).matches? rule? input = some ⟨.empty, input⟩ := by
  simp [Grammar.maybe, matches?, missed, Match.nothing]

/-- The first alternative is taken where it is read. -/
theorem matches?_alternation {left right : Node} {found : Match}
    (read : left.matches? rule? input = some found) :
    (Node.alternation left right).matches? rule? input = some found := by
  simp [matches?, read]

/-- The second alternative is taken where the first is not read. -/
theorem matches?_alternation_of_none {left right : Node}
    (missed : left.matches? rule? input = none) :
    (Node.alternation left right).matches? rule? input = right.matches? rule? input := by
  simp [matches?, missed]

/-- An optional negation is read where it is written, and left out where something else stands. -/
theorem matches?_negation (word : Option (Spelled "NOT")) (name : String)
    (differ : word = none → ∀ lexeme, input.head? = some lexeme → Text.upper lexeme ≠ "NOT") :
    (Grammar.maybe [Grammar.word "NOT", Grammar.flag name]).matches? rule?
        (Spelled.lexemes word ++ input) = some ⟨Spelled.captures word name, input⟩ := by
  have upper : Text.upper "NOT" = "NOT" := by decide
  cases word with
  | none =>
    have missed : (Grammar.word "NOT").matches? rule? input = none :=
      matches?_keyword_of_ne upper (differ rfl)
    exact matches?_maybe_of_none (matchesAll?_of_none missed)
  | some spelled =>
    refine matches?_maybe ?_
    rw [Spelled.lexemes, Option.toList_some, List.map_singleton, List.singleton_append,
      matchesAll?_of_some (matches?_keyword upper _ spelled.spells _),
      matchesAll?_of_some (matches?_flag name)]
    rfl

end Node

namespace Grammar

/-- The rule for conditions. -/
theorem rule?_cond : builtin.rule? "cond" = some cond.2.node := by
  rfl

/-- The rule for clauses. -/
theorem rule?_clause : builtin.rule? "clause" = some clause.2.node := by
  rfl

/-- The rule for connectives. -/
theorem rule?_logic : builtin.rule? "logic" = some logic.2.node := by
  rfl

/-- The names of operands are those of no rule. -/
theorem rule?_operand : ∀ name ∈ ["left", "op", "right"], builtin.rule? name = none := by
  decide

end Grammar

/-- Whether lexemes do not go on with a connective. -/
def EndsCondition (rest : List Lexeme) : Prop :=
  ∀ lexeme, rest.head? = some lexeme → Text.upper lexeme ∉ ["AND", "OR", "EQUIV"]

/-- A closing parenthesis is no connective. -/
theorem endsCondition_closing (closing : Spelled ")") (rest : List Lexeme) :
    EndsCondition (closing.lexeme :: rest) := by
  intro lexeme head
  obtain rfl : closing.lexeme = lexeme := Option.some.inj head
  rw [closing.spells]
  decide

/-- The first lexeme of a clause is no negation. -/
theorem Clause.head_ne_not (clause : Clause) (rest : List Lexeme) (lexeme : Lexeme)
    (head : (clause.lexemes ++ rest).head? = some lexeme) : Text.upper lexeme ≠ "NOT" := by
  cases clause with
  | enclosed opening inner closing =>
    obtain rfl : opening.lexeme = lexeme := Option.some.inj head
    rw [opening.spells]
    decide
  | initial left is negation word =>
    obtain rfl : left.lexeme = lexeme := Option.some.inj head
    exact left.notNegation
  | comparison left operator right =>
    obtain rfl : left.lexeme = lexeme := Option.some.inj head
    exact left.notNegation

/-- A clause has lexemes. -/
theorem Clause.length_pos (clause : Clause) : 0 < clause.lexemes.length := by
  cases clause <;> simp [Clause.lexemes]

namespace Grammar

/-- The alternatives for a clause: a condition in parentheses, a question for the initial value, and
a comparison. -/
theorem node_clause : clause.2.node =
    .alternation (.alternation
      (.sequence [.literal "(", under "sub" "cond", .literal ")"])
      (.sequence [word "left", word "IS", maybe [word "NOT", flag "not_initial"], word "INITIAL",
        flag "initial"]))
      (.sequence [word "left", word "op", word "right"]) := rfl

/-- The alternatives for a connective. -/
theorem node_logic : logic.2.node =
    .alternation (.alternation
      (.sequence [word "AND", flag "and", under "next" "cond"])
      (.sequence [word "OR", flag "or", under "next" "cond"]))
      (.sequence [word "EQUIV", flag "equiv", under "next" "cond"]) := rfl

/-- The parts of a condition. -/
theorem node_cond : cond.2.node =
    .sequence [maybe [word "NOT", flag "negate"], word "clause", maybe [word "logic"]] := rfl

end Grammar

section Clauses

open Grammar (word flag under maybe)

variable {rule? : String → Option Matcher} {rest : List Lexeme}

/-- A clause that starts with an operand is not read as one in parentheses. -/
theorem LeftOperand.not_enclosed (left : LeftOperand) :
    (Node.sequence [.literal "(", under "sub" "cond", .literal ")"]).matches? rule?
      (left.lexeme :: rest) = none := by
  have upper : Text.upper "(" = "(" := by decide
  have differ : Text.upper left.lexeme ≠ Text.upper "(" := by
    rw [upper]
    exact left.notOpening
  rw [Node.matches?]
  exact Node.matchesAll?_of_none (Node.matches?_literal_of_ne _ differ _)

/-- A question for the initial value is read as such. -/
theorem Clause.matches?_initial (unknown : rule? "left" = none) (left : LeftOperand)
    (is : Spelled "IS") (negation : Option (Spelled "NOT")) (initial : Spelled "INITIAL") :
    Grammar.clause.2.node.matches? rule?
        ((Clause.initial left is negation initial).lexemes ++ rest) =
      some ⟨(Clause.initial left is negation initial).captures, rest⟩ := by
  have operand : Text.upper "left" ≠ "left" := by decide
  have isUpper : Text.upper "IS" = "IS" := by decide
  have initialUpper : Text.upper "INITIAL" = "INITIAL" := by decide
  have differ : negation = none → ∀ lexeme, (initial.lexeme :: rest).head? = some lexeme →
      Text.upper lexeme ≠ "NOT" := by
    intro _ lexeme head
    obtain rfl : initial.lexeme = lexeme := Option.some.inj head
    rw [initial.spells]
    decide
  have lexemes : (Clause.initial left is negation initial).lexemes ++ rest =
      left.lexeme :: is.lexeme :: (Spelled.lexemes negation ++ initial.lexeme :: rest) := by
    simp [Clause.lexemes]
  rw [Grammar.node_clause, lexemes]
  refine Node.matches?_alternation ?_
  rw [Node.matches?_alternation_of_none left.not_enclosed, Node.matches?,
    Node.matchesAll?_of_some (Node.matches?_lexeme operand unknown _ _),
    Node.matchesAll?_of_some (Node.matches?_keyword isUpper _ is.spells _),
    Node.matchesAll?_of_some (Node.matches?_negation negation _ differ),
    Node.matchesAll?_of_some (Node.matches?_keyword initialUpper _ initial.spells _),
    Node.matchesAll?_of_some (Node.matches?_flag _)]
  rfl

/-- A comparison is read as such. -/
theorem Clause.matches?_comparison
    (unknown : ∀ name ∈ ["left", "op", "right"], rule? name = none) (left : LeftOperand)
    (operator : Operator) (right : Lexeme) :
    Grammar.clause.2.node.matches? rule?
        ((Clause.comparison left operator right).lexemes ++ rest) =
      some ⟨(Clause.comparison left operator right).captures, rest⟩ := by
  have lower : ∀ name ∈ ["left", "op", "right"], Text.upper name ≠ name := by decide
  have isUpper : Text.upper "IS" = "IS" := by decide
  have notIs : ∀ lexeme, (operator.lexeme :: right :: rest).head? = some lexeme →
      Text.upper lexeme ≠ "IS" := by
    intro lexeme head
    obtain rfl : operator.lexeme = lexeme := Option.some.inj head
    exact operator.notIs
  have noQuestion : (Node.sequence [word "left", word "IS",
      maybe [word "NOT", flag "not_initial"], word "INITIAL", flag "initial"]).matches? rule?
        (left.lexeme :: operator.lexeme :: right :: rest) = none := by
    rw [Node.matches?, Node.matchesAll?_of_some
      (Node.matches?_lexeme (lower _ (by decide)) (unknown _ (by decide)) _ _)]
    exact Node.matchesAll?_of_none (Node.matches?_keyword_of_ne isUpper notIs)
  have neither := (Node.matches?_alternation_of_none left.not_enclosed).trans noQuestion
  have lexemes : (Clause.comparison left operator right).lexemes ++ rest =
      left.lexeme :: operator.lexeme :: right :: rest := by
    simp [Clause.lexemes]
  rw [Grammar.node_clause, lexemes, Node.matches?_alternation_of_none neither, Node.matches?,
    Node.matchesAll?_of_some
      (Node.matches?_lexeme (lower _ (by decide)) (unknown _ (by decide)) _ _),
    Node.matchesAll?_of_some
      (Node.matches?_lexeme (lower _ (by decide)) (unknown _ (by decide)) _ _),
    Node.matchesAll?_of_some
      (Node.matches?_lexeme (lower _ (by decide)) (unknown _ (by decide)) _ _)]
  rfl

/-- A condition in parentheses is read as such, if the condition is. -/
theorem Clause.matches?_enclosed {matcher : Matcher} (known : rule? "cond" = some matcher)
    (opening : Spelled "(") (inner : Condition) (closing : Spelled ")")
    (read : matcher (inner.lexemes ++ closing.lexeme :: rest) =
      some ⟨inner.captures, closing.lexeme :: rest⟩) :
    Grammar.clause.2.node.matches? rule?
        ((Clause.enclosed opening inner closing).lexemes ++ rest) =
      some ⟨(Clause.enclosed opening inner closing).captures, rest⟩ := by
  have lower : Text.upper "cond" ≠ "cond" := by decide
  have opens : Text.upper opening.lexeme = Text.upper "(" := by
    rw [opening.spells]
    decide
  have closes : Text.upper closing.lexeme = Text.upper ")" := by
    rw [closing.spells]
    decide
  have lexemes : (Clause.enclosed opening inner closing).lexemes ++ rest =
      opening.lexeme :: (inner.lexemes ++ closing.lexeme :: rest) := by
    simp [Clause.lexemes]
  rw [Grammar.node_clause, lexemes]
  refine Node.matches?_alternation (Node.matches?_alternation ?_)
  rw [Node.matches?, Node.matchesAll?_of_some (Node.matches?_literal _ opens _),
    Node.matchesAll?_of_some (Node.matches?_under lower known read),
    Node.matchesAll?_of_some (Node.matches?_literal _ closes _)]
  rfl

end Clauses

section Connectives

open Grammar (word flag under)

variable {rule? : String → Option Matcher} {rest : List Lexeme}

/-- One alternative for a connective is not read where another word stands. -/
theorem Connective.not_read (rule? : String → Option Matcher) (connective : Connective)
    (name : String)
    (differ : ∀ lexeme, rest.head? = some lexeme → Text.upper lexeme ≠ connective.keyword) :
    (Node.sequence [word connective.keyword, flag name, under "next" "cond"]).matches? rule?
      rest = none := by
  have upper : Text.upper connective.keyword = connective.keyword := by
    cases connective <;> decide
  rw [Node.matches?]
  exact Node.matchesAll?_of_none (Node.matches?_keyword_of_ne upper differ)

/-- A connective is read with the condition after it. -/
theorem Connective.read (connective : Connective) (spelled : Spelled connective.keyword)
    {matcher : Matcher} (known : rule? "cond" = some matcher) (next : Condition)
    (read : matcher (next.lexemes ++ rest) = some ⟨next.captures, rest⟩) :
    (Node.sequence [word connective.keyword, flag connective.flagName,
        under "next" "cond"]).matches? rule? (spelled.lexeme :: (next.lexemes ++ rest)) =
      some ⟨(Captures.singleton connective.flagName (.flag true)).merge
        (.singleton "next" (.nested next.captures)), rest⟩ := by
  have lower : Text.upper "cond" ≠ "cond" := by decide
  have upper : Text.upper connective.keyword = connective.keyword := by
    cases connective <;> decide
  rw [Node.matches?, Node.matchesAll?_of_some (Node.matches?_keyword upper _ spelled.spells _),
    Node.matchesAll?_of_some (Node.matches?_flag _),
    Node.matchesAll?_of_some (Node.matches?_under lower known read)]
  rfl

/-- Of the alternatives for a connective the one that is written is read. -/
theorem Connective.matches?_logic (connective : Connective) (spelled : Spelled connective.keyword)
    {matcher : Matcher} (known : rule? "cond" = some matcher) (next : Condition)
    (read : matcher (next.lexemes ++ rest) = some ⟨next.captures, rest⟩) :
    Grammar.logic.2.node.matches? rule? (spelled.lexeme :: (next.lexemes ++ rest)) =
      some ⟨(Captures.singleton connective.flagName (.flag true)).merge
        (.singleton "next" (.nested next.captures)), rest⟩ := by
  have taken := connective.read spelled known next read
  have differ (other : Connective) (apart : connective.keyword ≠ other.keyword) :
      ∀ lexeme, (spelled.lexeme :: (next.lexemes ++ rest)).head? = some lexeme →
        Text.upper lexeme ≠ other.keyword := by
    intro lexeme head
    obtain rfl : spelled.lexeme = lexeme := Option.some.inj head
    rw [spelled.spells]
    exact apart
  rw [Grammar.node_logic]
  cases connective with
  | and => exact Node.matches?_alternation (Node.matches?_alternation taken)
  | or =>
    have noAnd := Connective.not_read rule? .and "and" (differ .and (by decide))
    exact Node.matches?_alternation ((Node.matches?_alternation_of_none noAnd).trans taken)
  | equivalent =>
    have noAnd := Connective.not_read rule? .and "and" (differ .and (by decide))
    have noOr := Connective.not_read rule? .or "or" (differ .or (by decide))
    have neither := (Node.matches?_alternation_of_none noAnd).trans noOr
    exact (Node.matches?_alternation_of_none neither).trans taken

/-- Where no connective stands, none is read. -/
theorem EndsCondition.matches?_logic (ends : EndsCondition rest) :
    Grammar.logic.2.node.matches? rule? rest = none := by
  have differ (connective : Connective) (lexeme : Lexeme) (head : rest.head? = some lexeme) :
      Text.upper lexeme ≠ connective.keyword := by
    intro same
    refine ends lexeme head ?_
    rw [same]
    cases connective <;> decide
  have noAnd := Connective.not_read rule? .and "and" (differ .and)
  have noOr := Connective.not_read rule? .or "or" (differ .or)
  have noEquiv := Connective.not_read rule? .equivalent "equiv" (differ .equivalent)
  have neither := (Node.matches?_alternation_of_none noAnd).trans noOr
  exact (Node.matches?_alternation_of_none neither).trans noEquiv

end Connectives

section Conditions

variable {rule? : String → Option Matcher} {clauses connectives : Matcher}
  {rest after : List Lexeme} {added : Captures}

/-- A condition is read part by part: its negation, its clause, and what `connectives` reads. -/
theorem Condition.matches?_cond (knownClause : rule? "clause" = some clauses)
    (knownLogic : rule? "logic" = some connectives) (negation : Option (Spelled "NOT"))
    (clause : Clause) (inner : clauses (clause.lexemes ++ rest) = some ⟨clause.captures, rest⟩)
    (outer : (connectives rest).getD ⟨.empty, rest⟩ = ⟨added, after⟩) (ordered : added.Ordered) :
    Grammar.cond.2.node.matches? rule? (Spelled.lexemes negation ++ (clause.lexemes ++ rest)) =
      some ⟨((Spelled.captures negation "negate").merge clause.captures).merge added, after⟩ := by
  have clauseLower : Text.upper "clause" ≠ "clause" := by decide
  have logicLower : Text.upper "logic" ≠ "logic" := by decide
  have clauseRead := (Node.matches?_rule clauseLower knownClause).trans inner
  have joined : (Grammar.maybe [Grammar.word "logic"]).matches? rule? rest =
      some ⟨added, after⟩ := by
    have whole : (Grammar.word "logic").matches? rule? rest = connectives rest :=
      Node.matches?_rule logicLower knownLogic
    cases taken : connectives rest with
    | none =>
      rw [taken] at outer whole
      obtain ⟨rfl, rfl⟩ := Match.mk.inj outer
      exact Node.matches?_maybe_of_none (Node.matchesAll?_of_none whole)
    | some found =>
      rw [taken] at outer whole
      obtain rfl : found = ⟨added, after⟩ := outer
      refine Node.matches?_maybe ?_
      rw [Node.matchesAll?_of_some whole, Captures.merge_empty_left ordered]
      rfl
  rw [Grammar.node_cond, Node.matches?,
    Node.matchesAll?_of_some
      (Node.matches?_negation negation "negate" fun _ => clause.head_ne_not rest),
    Captures.merge_empty_left (Spelled.ordered_captures negation "negate"),
    Node.matchesAll?_of_some clauseRead, Node.matchesAll?_of_some joined]
  rfl

end Conditions

mutual

/-- The rule for conditions reads a written condition and nothing after it. -/
theorem Condition.matchesWithin?_lexemes (condition : Condition) (depth : Nat)
    (rest : List Lexeme) (enough : 2 * condition.lexemes.length ≤ depth)
    (ends : EndsCondition rest) :
    Grammar.builtin.matchesWithin? depth Grammar.cond.2.node (condition.lexemes ++ rest) =
      some ⟨condition.captures, rest⟩ := by
  have knownClause (smaller : Nat) :
      (Grammar.builtin.rule? "clause").map (Grammar.builtin.matchesWithin? smaller) =
        some (Grammar.builtin.matchesWithin? smaller Grammar.clause.2.node) := by
    rw [Grammar.rule?_clause, Option.map_some]
  have knownLogic (smaller : Nat) :
      (Grammar.builtin.rule? "logic").map (Grammar.builtin.matchesWithin? smaller) =
        some (Grammar.builtin.matchesWithin? smaller Grammar.logic.2.node) := by
    rw [Grammar.rule?_logic, Option.map_some]
  cases condition with
  | alone negation clause =>
    have positive := clause.length_pos
    simp only [Condition.lexemes, List.length_append] at enough
    obtain ⟨depth, rfl⟩ : ∃ smaller, depth = smaller + 1 := ⟨depth - 1, by omega⟩
    have inner := Clause.matchesWithin?_lexemes clause depth rest (by omega)
    have outer : (Grammar.builtin.matchesWithin? depth Grammar.logic.2.node rest).getD
        ⟨.empty, rest⟩ = ⟨.empty, rest⟩ := by
      obtain ⟨depth, rfl⟩ : ∃ smaller, depth = smaller + 1 := ⟨depth - 1, by omega⟩
      rw [Grammar.matchesWithin?, ends.matches?_logic]
      rfl
    rw [Grammar.matchesWithin?, Condition.lexemes, List.append_assoc]
    exact Condition.matches?_cond (knownClause depth) (knownLogic depth) negation clause inner outer
      Captures.ordered_empty
  | joined negation clause connective word next =>
    have positive := clause.length_pos
    simp only [Condition.lexemes, List.length_append, List.length_cons] at enough
    obtain ⟨depth, rfl⟩ : ∃ smaller, depth = smaller + 2 := ⟨depth - 2, by omega⟩
    have inner := Clause.matchesWithin?_lexemes clause (depth + 1)
      (word.lexeme :: (next.lexemes ++ rest)) (by omega)
    have later := Condition.matchesWithin?_lexemes next depth rest (by omega) ends
    have known : (Grammar.builtin.rule? "cond").map (Grammar.builtin.matchesWithin? depth) =
        some (Grammar.builtin.matchesWithin? depth Grammar.cond.2.node) := by
      rw [Grammar.rule?_cond, Option.map_some]
    have outer : (Grammar.builtin.matchesWithin? (depth + 1) Grammar.logic.2.node
        (word.lexeme :: (next.lexemes ++ rest))).getD
          ⟨.empty, word.lexeme :: (next.lexemes ++ rest)⟩ =
        ⟨(Captures.singleton connective.flagName (.flag true)).merge
          (.singleton "next" (.nested next.captures)), rest⟩ := by
      rw [Grammar.matchesWithin?, connective.matches?_logic word known next later]
      rfl
    rw [Grammar.matchesWithin?, Condition.lexemes, List.append_assoc, List.append_assoc,
      List.cons_append]
    exact Condition.matches?_cond (knownClause (depth + 1)) (knownLogic (depth + 1)) negation clause
      inner outer ((Captures.ordered_singleton _ _).merge _)

/-- The rule for clauses reads a written clause and nothing after it. -/
theorem Clause.matchesWithin?_lexemes (clause : Clause) (depth : Nat) (rest : List Lexeme)
    (enough : 2 * clause.lexemes.length ≤ depth + 1) :
    Grammar.builtin.matchesWithin? depth Grammar.clause.2.node (clause.lexemes ++ rest) =
      some ⟨clause.captures, rest⟩ := by
  have positive := clause.length_pos
  obtain ⟨depth, rfl⟩ : ∃ smaller, depth = smaller + 1 := ⟨depth - 1, by omega⟩
  have unknown : ∀ name ∈ ["left", "op", "right"],
      (Grammar.builtin.rule? name).map (Grammar.builtin.matchesWithin? depth) = none := by
    intro name among
    rw [Grammar.rule?_operand name among, Option.map_none]
  rw [Grammar.matchesWithin?]
  cases clause with
  | enclosed opening inner closing =>
    have known : (Grammar.builtin.rule? "cond").map (Grammar.builtin.matchesWithin? depth) =
        some (Grammar.builtin.matchesWithin? depth Grammar.cond.2.node) := by
      rw [Grammar.rule?_cond, Option.map_some]
    simp only [Clause.lexemes, List.length_cons, List.length_append] at enough
    have read := Condition.matchesWithin?_lexemes inner depth (closing.lexeme :: rest) (by omega)
      (endsCondition_closing closing rest)
    exact Clause.matches?_enclosed known opening inner closing read
  | initial left is negation word =>
    exact Clause.matches?_initial (unknown _ (by decide)) left is negation word
  | comparison left operator right => exact Clause.matches?_comparison unknown left operator right

end

/-- A condition does not start with the sign of an assignment. -/
theorem Condition.head_ne_assignment (condition : Condition) (lexeme : Lexeme)
    (head : condition.lexemes.head? = some lexeme) : lexeme ≠ "=" := by
  have sign : Text.upper "=" = "=" := by decide
  have first (negation : Option (Spelled "NOT")) (clause : Clause) (after : List Lexeme)
      (starts : (Spelled.lexemes negation ++ (clause.lexemes ++ after)).head? = some lexeme) :
      Text.upper lexeme ≠ "=" := by
    cases negation with
    | some spelled =>
      obtain rfl : spelled.lexeme = lexeme := Option.some.inj starts
      rw [spelled.spells]
      decide
    | none =>
      cases clause with
      | enclosed opening inner closing =>
        obtain rfl : opening.lexeme = lexeme := Option.some.inj starts
        rw [opening.spells]
        decide
      | initial left is negation word =>
        obtain rfl : left.lexeme = lexeme := Option.some.inj starts
        exact left.notAssignment
      | comparison left operator right =>
        obtain rfl : left.lexeme = lexeme := Option.some.inj starts
        exact left.notAssignment
  rintro rfl
  cases condition with
  | alone negation clause => exact first negation clause [] (by simpa [lexemes] using head) sign
  | joined negation clause connective word next =>
    exact first negation clause (word.lexeme :: next.lexemes) (by simpa [lexemes] using head) sign

/-- The rule of `if` reads its keyword and a written condition, and leaves nothing over. -/
theorem Condition.matches?_if (condition : Condition) :
    Grammar.builtin.matches? (Grammar.conditional "if" "IF").2.node ("if" :: condition.lexemes) =
      some ⟨condition.captures, []⟩ := by
  have keyword : Text.upper "IF" = "IF" := by decide
  have spells : Text.upper "if" = "IF" := by decide
  have lower : Text.upper "cond" ≠ "cond" := by decide
  have node : (Grammar.conditional "if" "IF").2.node =
      .sequence [Grammar.word "IF", Grammar.word "cond"] := rfl
  obtain ⟨depth, bound, enough⟩ : ∃ depth,
      Grammar.builtin.depthBound ("if" :: condition.lexemes).length = depth + 1 ∧
        2 * condition.lexemes.length ≤ depth := by
    refine ⟨_, rfl, ?_⟩
    have many : 2 ≤ Grammar.builtin.table.length + 1 := by decide
    have scaled := Nat.mul_le_mul_left (("if" :: condition.lexemes).length + 1) many
    rw [List.length_cons] at scaled ⊢
    omega
  have known : (Grammar.builtin.rule? "cond").map (Grammar.builtin.matchesWithin? depth) =
      some (Grammar.builtin.matchesWithin? depth Grammar.cond.2.node) := by
    rw [Grammar.rule?_cond, Option.map_some]
  have read := condition.matchesWithin?_lexemes depth [] enough (by simp [EndsCondition])
  rw [List.append_nil] at read
  rw [Grammar.matches?, bound, Grammar.matchesWithin?, node, Node.matches?,
    Node.matchesAll?_of_some (Node.matches?_keyword keyword _ spells _),
    Node.matchesAll?_of_some ((Node.matches?_rule lower known).trans read)]
  exact congrArg (fun captures => some (Match.mk captures []))
    (Captures.merge_empty_left condition.ordered_captures)

/-- A written condition is parsed whole after its keyword, and what is captured is evaluated as the
condition is: a negation applies to the clause after it alone, connectives associate to the right
and have their truth tables, both sides of them are evaluated, and if a clause fails, the failure is
that of the first of them from the left. -/
theorem Condition.parse_if (condition : Condition) :
    Statement.parse Grammar.builtin ⟨"if" :: condition.lexemes⟩ =
        .ok ⟨"if", condition.captures⟩ ∧
      ∀ host session,
        Session.condition host session condition.captures = condition.evaluate host session ∧
        (∀ asked after, (∃ value, condition.evaluate host session asked = (.ok value, after)) ↔
          Clause.Evaluated host session condition.leaves asked after) ∧
        ∀ failure asked after, condition.evaluate host session asked = (.error failure, after) ↔
          Clause.FailsFirst host session failure condition.leaves asked after := by
  constructor
  · have keyword : Text.lower "if" = "if" := by decide
    have full : Statement.fullLexemes ⟨"if" :: condition.lexemes⟩ = "if" :: condition.lexemes := by
      unfold Statement.fullLexemes
      split
      · rename_i first rest same
        obtain ⟨_, tail⟩ := List.cons.inj same
        exact absurd rfl (condition.head_ne_assignment "=" (by rw [tail, List.head?_cons]))
      · rfl
    have found : Grammar.builtin.find? "if" = some (Grammar.conditional "if" "IF").2 := by
      rfl
    refine Statement.parse_eq_ok_iff.mpr
      ⟨"if", (Grammar.conditional "if" "IF").2, condition.captures, ?_, ?_, rfl, ?_, ?_⟩
    · rw [full, List.head?_cons]
    · rw [keyword, found]
    · rw [full, condition.matches?_if]
    · rw [keyword]
  · intro host session
    have turns : Clause.InTurn host session condition.leaves (condition.evaluate host session) :=
      condition.inTurn_evaluate
    exact ⟨condition.condition_captures host session, turns.succeeds, turns.fails⟩

end ReportLang
