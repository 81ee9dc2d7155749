import ReportLang.Captures
import ReportLang.Grammar
import ReportLang.Position

/-!
# Matching

Matching a rule body against the lexemes of a statement. Alternatives are tried in order and an
optional part is taken whenever it matches; neither choice is revised afterwards.
-/

namespace ReportLang

/-- What a match captured, and the lexemes it left over. -/
structure Match where
  /-- What was captured. -/
  captures : Captures
  /-- The lexemes that were not read. -/
  rest : List Lexeme

/-- How lexemes are matched; `none` if they do not match. -/
abbrev Matcher := List Lexeme → Option Match

namespace Match

/-- A match that reads nothing. -/
def nothing (input : List Lexeme) : Match := ⟨.empty, input⟩

/-- Reads one lexeme that satisfies a condition and captures nothing. -/
def expect (accepts : Lexeme → Bool) : Matcher
  | [] => none
  | lexeme :: rest => if accepts lexeme then some ⟨.empty, rest⟩ else none

/-- Reads one lexeme that satisfies a condition and captures it. -/
def capture (name : String) (accepts : Lexeme → Bool) : Matcher
  | [] => none
  | lexeme :: rest =>
    if accepts lexeme then some ⟨.singleton name (.single lexeme), rest⟩ else none

/-- Matches again and again, for as long as a match reads and captures something: the captures of
each match, and the lexemes left over. -/
def repeated (matcher : Matcher) (input : List Lexeme) : List Captures × List Lexeme :=
  match matcher input with
  | none => ([], input)
  | some found =>
    if found.captures.isEmpty then
      ([], input)
    else if found.rest.length < input.length then
      let (later, rest) := repeated matcher found.rest
      (found.captures :: later, rest)
    else
      ([], input)
termination_by input.length

end Match

/-- Matches a terminal, where `rule?` gives the matcher of a rule that exists. -/
def Terminal.matches? (rule? : String → Option Matcher) (terminal : Terminal) : Matcher :=
  fun input =>
    match terminal.role with
    | .flag => some ⟨.singleton terminal.capture (.flag true), input⟩
    | .position => Match.capture terminal.capture Position.isPosition input
    | .repetition => do
      let matcher ← rule? terminal.target
      let (found, rest) := Match.repeated matcher input
      return ⟨.singleton terminal.capture (.repeated found), rest⟩
    | .word =>
      if terminal.isKeyword then
        Match.expect (fun lexeme => Text.upper lexeme = terminal.target) input
      else
        match rule? terminal.target with
        | none => Match.capture terminal.capture (fun _ => true) input
        | some matcher => do
          let found ← matcher input
          if terminal.named then
            return ⟨.singleton terminal.capture (.nested found.captures), found.rest⟩
          else
            return found

namespace Node

mutual

/-- Matches a rule body, where `rule?` gives the matcher of a rule that exists. -/
def matches? (rule? : String → Option Matcher) : Node → Matcher
  | .literal text, input =>
    Match.expect (fun lexeme => Text.upper lexeme = Text.upper text) input
  | .terminal word, input => word.matches? rule? input
  | .sequence nodes, input => matchesAll? rule? nodes .empty input
  | .optional inner, input => some ((matches? rule? inner input).getD (.nothing input))
  | .alternation left right, input =>
    (matches? rule? left input).orElse fun _ => matches? rule? right input

/-- Matches rule bodies one after the other and adds what they capture to `captures`. -/
def matchesAll? (rule? : String → Option Matcher) : List Node → Captures → Matcher
  | [], captures, input => some ⟨captures, input⟩
  | node :: rest, captures, input =>
    match matches? rule? node input with
    | none => none
    | some found => matchesAll? rule? rest (captures.merge found.captures) found.rest

end

end Node

namespace Grammar

/-- Matches a rule body with at most `depth` rules inside one another. -/
def matchesWithin? (grammar : Grammar) : (depth : Nat) → Node → Matcher
  | 0, _, _ => none
  | depth + 1, node, input =>
    node.matches? (fun name => (grammar.rule? name).map (grammar.matchesWithin? depth)) input

/-- How many rules can be inside one another while a number of lexemes is matched, if no rule
refers to itself without reading a lexeme first: between two lexemes each rule is entered once. -/
def depthBound (grammar : Grammar) (count : Nat) : Nat :=
  (count + 1) * (grammar.table.length + 1) + 1

/-- Matches a rule body against lexemes. -/
def matches? (grammar : Grammar) (node : Node) (input : List Lexeme) : Option Match :=
  grammar.matchesWithin? (grammar.depthBound input.length) node input

end Grammar

end ReportLang
