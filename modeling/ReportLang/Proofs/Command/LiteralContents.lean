import Mathlib.Data.List.Forall2
import ReportLang.Proofs.Captures.Shape
import ReportLang.Proofs.Condition.Reading
import ReportLang.Proofs.Lexeme.Spelling

/-!
# Literals are parsed alike

Statements that agree apart from what their literals say are parsed alike. The statements that are
compared are given together: `read copy position` is the lexeme that one of them has at a position.
A matcher is blind if what it finds, as positions, is the same for all of them. Matching compares
lexemes with keywords and signs, none of which is spelled with a quote, and with the form of a write
position, which no literal has; so it is blind for the grammar of report programs.
-/

namespace ReportLang

/-- Whether two lexemes are the same or are both literals. -/
def Lexeme.AgreesOutsideLiterals (first second : Lexeme) : Prop :=
  first = second ∨ (first.isLiteral = true ∧ second.isLiteral = true)

namespace Lexeme

/-- A literal is a quote with a text after it. -/
theorem exists_literal {lexeme : Lexeme} (isLiteral : lexeme.isLiteral = true) :
    ∃ quote text, lexeme = literal quote text := by
  obtain ⟨quote, quoted⟩ := Option.isSome_iff_exists.mp isLiteral
  obtain ⟨c, head, found⟩ := Option.bind_eq_some_iff.mp quoted
  obtain ⟨text, spelled⟩ := List.head?_eq_some_iff.mp head
  refine ⟨quote, text, ?_⟩
  rw [literal, ← Quote.mark_of_ofMark? found, ← spelled, String.ofList_toList]

/-- A text that starts with a quote is a literal. -/
theorem isLiteral_ofList_mark (quote : Quote) (text : List Char) :
    isLiteral (String.ofList (quote.mark :: text)) = true := by
  simp [isLiteral, quote?]

/-- A literal is a literal in upper case. -/
theorem isLiteral_upper {lexeme : Lexeme} (quoted : lexeme.isLiteral = true) :
    isLiteral (Text.upper lexeme) = true := by
  obtain ⟨quote, text, rfl⟩ := exists_literal quoted
  have mark : Text.upperChar quote.mark = [quote.mark] := by
    cases quote with
    | character => rfl
    | string => rfl
  rw [Text.upper, literal, String.toList_ofList, List.flatMap_cons, mark]
  exact isLiteral_ofList_mark quote _

/-- A literal is a literal in lower case. -/
theorem isLiteral_lower {lexeme : Lexeme} (quoted : lexeme.isLiteral = true) :
    isLiteral (Text.lower lexeme) = true := by
  obtain ⟨quote, text, rfl⟩ := exists_literal quoted
  have mark : Text.lowerBetween [] quote.mark text = [quote.mark] := by
    cases quote with
    | character => rfl
    | string => rfl
  rw [Text.lower, literal, String.toList_ofList, Text.lowerAfter, mark]
  exact isLiteral_ofList_mark quote _

/-- A literal is no write position. -/
theorem isPosition_of_isLiteral {lexeme : Lexeme} (isLiteral : lexeme.isLiteral = true) :
    Position.isPosition lexeme = false := by
  obtain ⟨quote, text, rfl⟩ := exists_literal isLiteral
  cases quote with
  | character =>
    simp [Position.isPosition, Position.hasShape, Position.behindSlash, literal, Quote.mark]
  | string =>
    simp [Position.isPosition, Position.hasShape, Position.behindSlash, literal, Quote.mark]

end Lexeme

section Blindness

variable {Copy Position : Type} {read : Copy → Position → Lexeme}

/-- Whether several statements have at each position one lexeme, or literals only. -/
def AgreeOutsideLiterals (read : Copy → Position → Lexeme) : Prop :=
  ∀ position, (∃ lexeme, ∀ copy, read copy position = lexeme) ∨
    ∀ copy, (read copy position).isLiteral = true

/-- Whether a test has one answer for all literals. -/
def IgnoresContents (accepts : Lexeme → Bool) : Prop :=
  ∃ answer, ∀ lexeme, lexeme.isLiteral = true → accepts lexeme = answer

/-- Whether a matcher finds the same positions in each of several statements. -/
def Matcher.IsBlind (read : Copy → Position → Lexeme) (matcher : Matcher) : Prop :=
  ∀ positions : List Position, ∃ found : Option (Match.Shape Position), ∀ copy,
    matcher (positions.map (read copy)) = found.map (Match.Shape.fill (read copy))

/-- A test that ignores what literals say has one answer for all statements at each position. -/
theorem IgnoresContents.answer {accepts : Lexeme → Bool} (ignores : IgnoresContents accepts)
    (agree : AgreeOutsideLiterals read) (position : Position) :
    ∃ answer, ∀ copy, accepts (read copy position) = answer := by
  rcases agree position with ⟨lexeme, same⟩ | literals
  · exact ⟨accepts lexeme, fun copy => by rw [same copy]⟩
  · obtain ⟨answer, all⟩ := ignores
    exact ⟨answer, fun copy => all _ (literals copy)⟩

/-- A test for a word that is not spelled with a quote refuses every literal. -/
theorem ignoresContents_upper {target : String} (plain : Lexeme.isLiteral target = false) :
    IgnoresContents fun lexeme => Text.upper lexeme = target := by
  refine ⟨false, fun lexeme isLiteral => decide_eq_false ?_⟩
  rintro rfl
  rw [Lexeme.isLiteral_upper isLiteral] at plain
  simp at plain

/-- Expecting a lexeme is blind if the test ignores what literals say. -/
theorem isBlind_expect (agree : AgreeOutsideLiterals read) {accepts : Lexeme → Bool}
    (ignores : IgnoresContents accepts) : Matcher.IsBlind read (Match.expect accepts) := by
  intro positions
  cases positions with
  | nil => exact ⟨none, fun _ => rfl⟩
  | cons position rest =>
    obtain ⟨answer, same⟩ := ignores.answer agree position
    cases answer with
    | true =>
      refine ⟨some ⟨[], rest⟩, fun copy => ?_⟩
      rw [List.map_cons, Match.expect, if_pos (same copy)]
      rfl
    | false =>
      refine ⟨none, fun copy => ?_⟩
      simp [Match.expect, same copy]

/-- Capturing a lexeme is blind if the test ignores what literals say. -/
theorem isBlind_capture (agree : AgreeOutsideLiterals read) (name : String)
    {accepts : Lexeme → Bool} (ignores : IgnoresContents accepts) :
    Matcher.IsBlind read (Match.capture name accepts) := by
  intro positions
  cases positions with
  | nil => exact ⟨none, fun _ => rfl⟩
  | cons position rest =>
    obtain ⟨answer, same⟩ := ignores.answer agree position
    cases answer with
    | true =>
      refine ⟨some ⟨[(name, .single position)], rest⟩, fun copy => ?_⟩
      rw [List.map_cons, Match.capture, if_pos (same copy)]
      rfl
    | false =>
      refine ⟨none, fun copy => ?_⟩
      simp [Match.capture, same copy]

/-- Matching again and again finds the same positions in each of several statements. -/
theorem Matcher.IsBlind.repeated {matcher : Matcher} (blind : matcher.IsBlind read)
    (positions : List Position) :
    ∃ (items : List (Captures.Shape Position)) (rest : List Position), ∀ copy,
      Match.repeated matcher (positions.map (read copy)) =
        (Captures.Shape.fillAll (read copy) items, rest.map (read copy)) := by
  -- A match that is taken leaves fewer positions, so the induction is on their number.
  induction size : positions.length using Nat.strongRecOn generalizing positions with
  | ind count ih =>
    obtain ⟨found, same⟩ := blind positions
    cases found with
    | none =>
      refine ⟨[], positions, fun copy => ?_⟩
      rw [Match.repeated, same copy]
      rfl
    | some shape =>
      by_cases taken : shape.captures.isEmpty = false ∧ shape.rest.length < positions.length
      · obtain ⟨items, rest, later⟩ := ih _ (size ▸ taken.2) shape.rest rfl
        refine ⟨shape.captures :: items, rest, fun copy => ?_⟩
        rw [Match.repeated, same copy]
        simp only [Option.map_some, Match.Shape.fill, Captures.Shape.isEmpty_fill, taken.1,
          List.length_map, taken.2, if_true, Bool.false_eq_true, if_false, later copy]
        rfl
      · refine ⟨[], positions, fun copy => ?_⟩
        rw [Match.repeated, same copy]
        simp only [Option.map_some, Match.Shape.fill, Captures.Shape.isEmpty_fill, List.length_map]
        split
        · rfl
        · rename_i captured
          rw [if_neg fun shorter => taken ⟨Bool.not_eq_true _ ▸ captured, shorter⟩]
          rfl

/-- Whether a terminal is not spelled with a quote where it is a keyword. -/
def Terminal.sparesLiterals (terminal : Terminal) : Bool :=
  !terminal.isKeyword || !Lexeme.isLiteral terminal.target

mutual

/-- Whether no keyword and no sign of a rule body is spelled with a quote. -/
def Node.sparesLiterals : Node → Bool
  | .literal text => !Lexeme.isLiteral (Text.upper text)
  | .terminal word => word.sparesLiterals
  | .sequence nodes => Node.allSpareLiterals nodes
  | .optional inner => Node.sparesLiterals inner
  | .alternation left right => Node.sparesLiterals left && Node.sparesLiterals right

/-- Whether no keyword and no sign of several rule bodies is spelled with a quote. -/
def Node.allSpareLiterals : List Node → Bool
  | [] => true
  | node :: rest => Node.sparesLiterals node && Node.allSpareLiterals rest

end

variable {rule? : String → Option Matcher}

/-- A terminal is blind if the rules are and it is not spelled with a quote. -/
theorem Terminal.isBlind (agree : AgreeOutsideLiterals read)
    (rules : ∀ name matcher, rule? name = some matcher → matcher.IsBlind read)
    {terminal : Terminal} (spares : terminal.sparesLiterals = true) :
    Matcher.IsBlind read (terminal.matches? rule?) := by
  intro positions
  unfold Terminal.matches?
  split
  · exact ⟨some ⟨[(terminal.capture, .flag true)], positions⟩, fun _ => rfl⟩
  · refine isBlind_capture agree terminal.capture ⟨false, fun lexeme isLiteral => ?_⟩ positions
    exact Lexeme.isPosition_of_isLiteral isLiteral
  · cases known : rule? terminal.target with
    | none => exact ⟨none, fun _ => rfl⟩
    | some matcher =>
      obtain ⟨items, rest, same⟩ := Matcher.IsBlind.repeated (rules _ _ known) positions
      refine ⟨some ⟨[(terminal.capture, .repeated items)], rest⟩, fun copy => ?_⟩
      simp only [Option.bind_eq_bind, Option.bind_some, same copy]
      rfl
  · split
    · rename_i keyword
      have plain : Lexeme.isLiteral terminal.target = false := by
        simpa [sparesLiterals, keyword] using spares
      exact isBlind_expect agree (ignoresContents_upper plain) positions
    · cases known : rule? terminal.target with
      | none => exact isBlind_capture agree terminal.capture ⟨true, fun _ _ => rfl⟩ positions
      | some matcher =>
        obtain ⟨found, same⟩ := rules _ _ known positions
        cases found with
        | none =>
          refine ⟨none, fun copy => ?_⟩
          simp [same copy]
        | some shape =>
          cases named : terminal.named with
          | true =>
            refine ⟨some ⟨[(terminal.capture, .nested shape.captures)], shape.rest⟩,
              fun copy => ?_⟩
            simp only [same copy]
            rfl
          | false =>
            refine ⟨some shape, fun copy => ?_⟩
            simp only [same copy]
            rfl

mutual

/-- A rule body is blind if the rules are and it is not spelled with quotes. -/
theorem Node.isBlind (agree : AgreeOutsideLiterals read)
    (rules : ∀ name matcher, rule? name = some matcher → matcher.IsBlind read)
    (node : Node) (spares : node.sparesLiterals = true) :
    Matcher.IsBlind read (node.matches? rule?) := by
  intro positions
  match node with
  | .literal text =>
    rw [Node.sparesLiterals, Bool.not_eq_true'] at spares
    obtain ⟨found, same⟩ := isBlind_expect agree (ignoresContents_upper spares) positions
    refine ⟨found, fun copy => ?_⟩
    rw [Node.matches?, same copy]
  | .terminal word =>
    obtain ⟨found, same⟩ := Terminal.isBlind agree rules spares positions
    refine ⟨found, fun copy => ?_⟩
    rw [Node.matches?, same copy]
  | .sequence nodes =>
    obtain ⟨found, same⟩ := Node.isBlind_all agree rules nodes spares [] positions
    refine ⟨found, fun copy => ?_⟩
    rw [Node.matches?, ← same copy]
    rfl
  | .optional inner =>
    obtain ⟨found, same⟩ := Node.isBlind agree rules inner spares positions
    refine ⟨some (found.getD ⟨[], positions⟩), fun copy => ?_⟩
    rw [Node.matches?, same copy]
    cases found with
    | none => rfl
    | some shape => rfl
  | .alternation left right =>
    rw [Node.sparesLiterals, Bool.and_eq_true] at spares
    obtain ⟨first, same⟩ := Node.isBlind agree rules left spares.1 positions
    cases first with
    | none =>
      obtain ⟨second, other⟩ := Node.isBlind agree rules right spares.2 positions
      refine ⟨second, fun copy => ?_⟩
      rw [Node.matches?, same copy, ← other copy]
      rfl
    | some shape =>
      refine ⟨some shape, fun copy => ?_⟩
      rw [Node.matches?, same copy]
      rfl

/-- Rule bodies one after the other are blind if the rules are and they are not spelled with
quotes. -/
theorem Node.isBlind_all (agree : AgreeOutsideLiterals read)
    (rules : ∀ name matcher, rule? name = some matcher → matcher.IsBlind read)
    (nodes : List Node) (spares : Node.allSpareLiterals nodes = true)
    (captures : Captures.Shape Position) (positions : List Position) :
    ∃ found : Option (Match.Shape Position), ∀ copy,
      Node.matchesAll? rule? nodes (Captures.Shape.fill (read copy) captures)
        (positions.map (read copy)) = found.map (Match.Shape.fill (read copy)) := by
  match nodes with
  | [] =>
    refine ⟨some ⟨captures, positions⟩, fun copy => ?_⟩
    rw [Node.matchesAll?]
    rfl
  | node :: rest =>
    rw [Node.allSpareLiterals, Bool.and_eq_true] at spares
    obtain ⟨first, same⟩ := Node.isBlind agree rules node spares.1 positions
    cases first with
    | none =>
      refine ⟨none, fun copy => ?_⟩
      rw [Node.matchesAll?, same copy]
      rfl
    | some shape =>
      obtain ⟨merged, joined⟩ := Captures.Shape.exists_fill_eq_merge captures shape.captures
      obtain ⟨later, other⟩ := Node.isBlind_all agree rules rest spares.2 merged shape.rest
      refine ⟨later, fun copy => ?_⟩
      rw [Node.matchesAll?, same copy, ← other copy, joined (read copy)]
      rfl

end

/-- Whether no keyword and no sign of a grammar is spelled with a quote. -/
def Grammar.SparesLiterals (grammar : Grammar) : Prop :=
  ∀ entry ∈ grammar.table, entry.2.node.sparesLiterals = true

/-- The rules of a grammar are blind, whatever the depth. -/
theorem Grammar.isBlind_matchesWithin? (agree : AgreeOutsideLiterals read) {grammar : Grammar}
    (spares : grammar.SparesLiterals) (depth : Nat) {name : String} {matcher : Matcher}
    (known : (grammar.rule? name).map (grammar.matchesWithin? depth) = some matcher) :
    matcher.IsBlind read := by
  induction depth generalizing name matcher with
  | zero =>
    obtain ⟨node, _, rfl⟩ := Option.map_eq_some_iff.mp known
    exact fun positions => ⟨none, fun copy => rfl⟩
  | succ depth ih =>
    obtain ⟨node, defined, rfl⟩ := Option.map_eq_some_iff.mp known
    obtain ⟨rule, found, rfl⟩ := Option.map_eq_some_iff.mp defined
    have plain := spares _ (Grammar.mem_table_of_find? found)
    exact Node.isBlind agree (fun _ _ other => ih other) rule.node plain

/-- Matching a statement against a rule body is blind. -/
theorem Grammar.isBlind_matches? (agree : AgreeOutsideLiterals read) {grammar : Grammar}
    (spares : grammar.SparesLiterals) {node : Node} (plain : node.sparesLiterals = true) :
    Matcher.IsBlind read (grammar.matches? node) := by
  intro positions
  obtain ⟨found, same⟩ := Node.isBlind agree
    (fun _ _ known => isBlind_matchesWithin? agree spares _ known) node plain positions
  refine ⟨found, fun copy => ?_⟩
  rw [Grammar.matches?, List.length_map]
  exact same copy

end Blindness

namespace Grammar

/-- No keyword and no sign of report programs is spelled with a quote. -/
theorem builtin_sparesLiterals : builtin.SparesLiterals := by
  unfold SparesLiterals
  decide

/-- What an assignment has after its keyword. -/
def assignmentParts : List Node :=
  [word "dest", .literal "=", word "source", maybe [word "operator", word "operand"]]

/-- No statement of report programs starts with a literal. -/
theorem builtin_statementRule?_of_isLiteral {name : String}
    (quoted : Lexeme.isLiteral name = true) :
    builtin.statementRule? name = none := by
  have plain : ∀ entry ∈ builtin.table, Lexeme.isLiteral entry.1 = false := by decide
  have absent : builtin.find? name = none := by
    rw [find?, List.lookup_eq_none_iff]
    intro entry member
    refine bne_iff_ne.mpr fun same => ?_
    have other := plain entry member
    rw [← same, Lexeme.isLiteral_lower quoted] at other
    simp at other
  rw [statementRule?, absent]
  rfl

/-- What the rule for assignments reads after its keyword. -/
theorem builtin_statementRule?_compute :
    builtin.statementRule? Statement.assignmentKeyword =
      some (.sequence (word "COMPUTE" :: assignmentParts)) := by
  rfl

end Grammar

namespace Statement

/-- The keyword of an assignment is put back where an equals sign stands second. -/
theorem fullLexemes_eq (statement : Statement) :
    statement.fullLexemes =
      if statement.lexemes[1]? = some "=" then assignmentKeyword :: statement.lexemes
      else statement.lexemes := by
  unfold fullLexemes
  split
  · rename_i lexemes
    simp [lexemes]
  · rename_i lexemes other
    rw [if_neg]
    intro second
    obtain ⟨_ | ⟨first, _ | ⟨sign, rest⟩⟩⟩ := statement
    · simp at second
    · simp at second
    · obtain rfl : sign = "=" := by simpa using second
      exact other first rest rfl

/-- The outcome of matching a statement against the rule of its keyword. -/
def outcome (statement : Statement) (keyword : String) (found : Option Match) :
    Except ParseError Command :=
  match found with
  | none => .error (.mismatch statement)
  | some ⟨captures, []⟩ => .ok ⟨keyword, captures⟩
  | some ⟨_, lexeme :: _⟩ => .error (.leftover statement lexeme)

/-- A statement is parsed by matching it against the rule of its keyword. -/
theorem parse_eq_outcome {grammar : Grammar} {statement : Statement} {first : Lexeme} {rule : Node}
    (starts : statement.fullLexemes.head? = some first)
    (known : grammar.statementRule? (Text.lower first) = some rule) :
    statement.parse grammar =
      statement.outcome (Text.lower first) (grammar.matches? rule statement.fullLexemes) := by
  simp only [parse, starts, known, outcome]
  cases grammar.matches? rule statement.fullLexemes with
  | none => rfl
  | some found =>
    obtain ⟨captures, rest⟩ := found
    cases rest with
    | nil => rfl
    | cons lexeme rest => rfl

/-- A statement whose keyword has no rule is refused. -/
theorem parse_of_unknown {grammar : Grammar} {statement : Statement} {first : Lexeme}
    (starts : statement.fullLexemes.head? = some first)
    (unknown : grammar.statementRule? (Text.lower first) = none) :
    statement.parse grammar = .error (.unknownKeyword (Text.lower first) statement) := by
  simp only [parse, starts, unknown]

section Alike

variable {Copy Position : Type} {read : Copy → Position → Lexeme}

/-- Whether several statements are parsed alike: all of them are refused with one kind of failure,
or all of them are commands of one keyword whose captures have one shape. -/
def ParsedAlike (read : Copy → Position → Lexeme) (grammar : Grammar)
    (statements : Copy → Statement) : Prop :=
  (∃ kind, ∀ copy, ∃ failure, (statements copy).parse grammar = .error failure ∧
    failure.diagnostic.kind = kind) ∨
  ∃ keyword shape, ∀ copy, (statements copy).parse grammar =
    .ok ⟨keyword, Captures.Shape.fill (read copy) shape⟩

/-- Statements are parsed alike if matching them has outcomes of one shape. -/
theorem parsedAlike_of_outcome {grammar : Grammar} {statements : Copy → Statement}
    (keyword : String) (found : Option (Match.Shape Position))
    (same : ∀ copy, (statements copy).parse grammar =
      (statements copy).outcome keyword (found.map (Match.Shape.fill (read copy)))) :
    ParsedAlike read grammar statements := by
  match found with
  | none => exact .inl ⟨.grammarMismatch, fun copy => ⟨_, same copy, rfl⟩⟩
  | some ⟨captures, []⟩ => exact .inr ⟨keyword, captures, same⟩
  | some ⟨captures, position :: rest⟩ =>
    exact .inl ⟨.grammarMismatch, fun copy => ⟨_, same copy, rfl⟩⟩

/-- Whether an equals sign stands second does not depend on what literals say. -/
theorem second_isAssignment (agree : AgreeOutsideLiterals read) (positions : List Position) :
    ∃ assigned : Bool, ∀ copy, (positions.map (read copy))[1]? = some "=" ↔ assigned = true := by
  cases second : positions[1]? with
  | none => exact ⟨false, fun copy => by simp [second]⟩
  | some position =>
    have ignores : IgnoresContents (· = "=") := by
      refine ⟨false, fun lexeme quoted => decide_eq_false ?_⟩
      rintro rfl
      exact absurd quoted (by decide)
    obtain ⟨answer, same⟩ := ignores.answer agree position
    exact ⟨answer, fun copy => by simp [second, ← same copy]⟩

/-- Assignments without their keyword are parsed alike if they agree apart from what their literals
say. -/
theorem parsedAlike_of_assignment (agree : AgreeOutsideLiterals read) {positions : List Position}
    (assigned : ∀ copy, (positions.map (read copy))[1]? = some "=") :
    ParsedAlike read Grammar.builtin fun copy => ⟨positions.map (read copy)⟩ := by
  have lexemes (copy : Copy) : fullLexemes ⟨positions.map (read copy)⟩ =
      assignmentKeyword :: positions.map (read copy) := by
    rw [fullLexemes_eq, if_pos (assigned copy)]
  have rules : ∀ name matcher,
      (Grammar.builtin.rule? name).map (Grammar.builtin.matchesWithin?
        ((positions.length + 1 + 1) * (Grammar.builtin.table.length + 1))) = some matcher →
      matcher.IsBlind read :=
    fun _ _ known => Grammar.isBlind_matchesWithin? agree Grammar.builtin_sparesLiterals _ known
  -- The keyword is read first and captures nothing, so that only positions of the statement are
  -- captured.
  obtain ⟨found, same⟩ := Node.isBlind_all agree rules Grammar.assignmentParts (by decide)
    [] positions
  refine parsedAlike_of_outcome assignmentKeyword found fun copy => ?_
  have starts : (fullLexemes ⟨positions.map (read copy)⟩).head? = some assignmentKeyword := by
    rw [lexemes copy]
    rfl
  have lower : Text.lower assignmentKeyword = assignmentKeyword := by decide
  have known := Grammar.builtin_statementRule?_compute
  rw [← lower] at known
  rw [parse_eq_outcome starts known, lower, lexemes copy, Grammar.matches?, List.length_cons,
    List.length_map, ← same copy, Grammar.depthBound, Grammar.matchesWithin?, Node.matches?,
    Node.matchesAll?_of_some
      (Node.matches?_keyword (by decide) assignmentKeyword (by decide) _)]
  rfl

/-- Statements are parsed alike if they agree apart from what their literals say. -/
theorem parsedAlike_of_agree (agree : AgreeOutsideLiterals read) (positions : List Position) :
    ParsedAlike read Grammar.builtin fun copy => ⟨positions.map (read copy)⟩ := by
  obtain ⟨assigned, second⟩ := second_isAssignment agree positions
  cases assigned with
  | true => exact parsedAlike_of_assignment agree fun copy => (second copy).mpr rfl
  | false =>
    have lexemes (copy : Copy) : fullLexemes ⟨positions.map (read copy)⟩ =
        positions.map (read copy) := by
      rw [fullLexemes_eq, if_neg fun sign => Bool.noConfusion ((second copy).mp sign)]
    cases positions with
    | nil => exact .inl ⟨.invalidKeyword, fun copy => ⟨.empty, rfl, rfl⟩⟩
    | cons position rest =>
      have starts (copy : Copy) : (fullLexemes ⟨(position :: rest).map (read copy)⟩).head? =
          some (read copy position) := by
        rw [lexemes copy]
        rfl
      have refused (unknown : ∀ copy,
          Grammar.builtin.statementRule? (Text.lower (read copy position)) = none) :
          ParsedAlike read Grammar.builtin fun copy => ⟨(position :: rest).map (read copy)⟩ :=
        .inl ⟨.invalidKeyword, fun copy => ⟨_, parse_of_unknown (starts copy) (unknown copy), rfl⟩⟩
      rcases agree position with ⟨lexeme, same⟩ | literals
      · cases known : Grammar.builtin.statementRule? (Text.lower lexeme) with
        | none => exact refused fun copy => by rw [same copy, known]
        | some rule =>
          obtain ⟨entry, defined, rfl⟩ := Option.map_eq_some_iff.mp known
          obtain ⟨defined, _⟩ := Option.filter_eq_some_iff.mp defined
          have plain := Grammar.builtin_sparesLiterals _ (Grammar.mem_table_of_find? defined)
          obtain ⟨found, matched⟩ := Grammar.isBlind_matches? agree
            Grammar.builtin_sparesLiterals plain (position :: rest)
          refine parsedAlike_of_outcome (Text.lower lexeme) found fun copy => ?_
          have first := starts copy
          rw [same copy] at first
          rw [parse_eq_outcome first known, lexemes copy, matched copy]
      · exact refused fun copy =>
          Grammar.builtin_statementRule?_of_isLiteral (Lexeme.isLiteral_lower (literals copy))

end Alike

/-- Two statements that agree apart from what their literals say are both refused with one kind of
failure, or both are commands of one keyword whose captures have one shape: filling in the lexemes
of either statement gives the captures of that statement. -/
theorem parse_alike_outside_literals {first second : Statement}
    (agree : List.Forall₂ Lexeme.AgreesOutsideLiterals first.lexemes second.lexemes) :
    (∃ failure failure', first.parse Grammar.builtin = .error failure ∧
      second.parse Grammar.builtin = .error failure' ∧
      failure.diagnostic.kind = failure'.diagnostic.kind) ∨
    ∃ keyword, ∃ shape : Captures.Shape (Fin first.lexemes.length),
      first.parse Grammar.builtin =
        .ok ⟨keyword, Captures.Shape.fill (fun i => first.lexemes.get i) shape⟩ ∧
      second.parse Grammar.builtin =
        .ok ⟨keyword, Captures.Shape.fill (fun i => second.lexemes.get (i.cast agree.length_eq))
          shape⟩ := by
  let read : Bool → Fin first.lexemes.length → Lexeme := fun isFirst i =>
    if isFirst then first.lexemes.get i else second.lexemes.get (i.cast agree.length_eq)
  have agrees : AgreeOutsideLiterals read := by
    intro position
    have here : Lexeme.AgreesOutsideLiterals (read true position) (read false position) :=
      (List.forall₂_iff_get.mp agree).2 position position.isLt _
    rcases here with same | ⟨one, other⟩
    · exact .inl ⟨read true position, fun copy => by cases copy <;> simp [same]⟩
    · exact .inr fun copy => by cases copy <;> assumption
  have whole : ∀ isFirst, (List.finRange first.lexemes.length).map (read isFirst) =
      if isFirst then first.lexemes else second.lexemes := by
    intro isFirst
    cases isFirst with
    | true => simp [read]
    | false =>
      refine List.ext_get (by simp [agree.length_eq]) fun i _ _ => ?_
      simp [read]
  have alike := parsedAlike_of_agree agrees (List.finRange first.lexemes.length)
  simp only [ParsedAlike, whole] at alike
  rcases alike with ⟨kind, refused⟩ | ⟨keyword, shape, parsed⟩
  · obtain ⟨failure, one, same⟩ := refused true
    obtain ⟨failure', other, same'⟩ := refused false
    exact .inl ⟨failure, failure', one, other, same.trans same'.symm⟩
  · exact .inr ⟨keyword, shape, parsed true, parsed false⟩

/-- A comparison of two literals is parsed alike when they say what looks like a parenthesis and a
negation. -/
theorem parse_alike_outside_literals_comparison :
    ∃ keyword, ∃ shape : Captures.Shape (Fin 4),
      parse Grammar.builtin ⟨["if", "'a", "=", "\x60b"]⟩ =
        .ok ⟨keyword, Captures.Shape.fill (fun i => ["if", "'a", "=", "\x60b"].get i) shape⟩ ∧
      parse Grammar.builtin ⟨["if", "'(", "=", "'NOT"]⟩ =
        .ok ⟨keyword, Captures.Shape.fill (fun i => ["if", "'(", "=", "'NOT"].get i) shape⟩ := by
  have agree : List.Forall₂ Lexeme.AgreesOutsideLiterals ["if", "'a", "=", "\x60b"]
      ["if", "'(", "=", "'NOT"] :=
    .cons (.inl rfl) (.cons (.inr (by decide)) (.cons (.inl rfl) (.cons (.inr (by decide)) .nil)))
  rcases parse_alike_outside_literals agree with ⟨failure, _, refused, _⟩ | parsed
  · have succeeds : (parse Grammar.builtin ⟨["if", "'a", "=", "\x60b"]⟩).isOk = true := by
      decide
    simp [refused, Except.isOk, Except.toBool] at succeeds
  · exact parsed

end Statement

end ReportLang
