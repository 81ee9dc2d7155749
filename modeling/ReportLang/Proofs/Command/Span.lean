import ReportLang.Proofs.Captures
import ReportLang.Proofs.Command.Matching

/-!
# What a match spans

A match reads lexemes from the front of its input and captures nothing but what it reads. Matching
can also be told by positions in a whole list of lexemes, where every lexeme is looked up by its
index: this finds the same captures, and what it spans lies within the list. So a statement is
parsed exactly when the rule of its keyword spans all of it, and no lexeme is ever looked for behind
its end.
-/

namespace ReportLang

mutual

/-- Every lexeme in a capture is among the given ones, and no match of a repeated rule is empty, at
every depth. -/
def Capture.TakenFrom (source : List Lexeme) : Capture → Prop
  | .single lexeme => lexeme ∈ source
  | .flag _ => True
  | .nested entries => Captures.TakenFrom source entries
  | .repeated items => Captures.AllTakenFrom source items

/-- Every lexeme in captures is among the given ones, and no match of a repeated rule is empty, at
every depth. -/
def Captures.TakenFrom (source : List Lexeme) : List (String × Capture) → Prop
  | [] => True
  | (_, capture) :: rest => capture.TakenFrom source ∧ Captures.TakenFrom source rest

/-- No match of a repeated rule is empty, and every lexeme in them is among the given ones. -/
def Captures.AllTakenFrom (source : List Lexeme) : List (List (String × Capture)) → Prop
  | [] => True
  | entries :: rest =>
    entries ≠ [] ∧ Captures.TakenFrom source entries ∧ Captures.AllTakenFrom source rest

end

section TakenFrom

variable {source larger : List Lexeme}

mutual

/-- What is taken from lexemes is taken from more of them. -/
theorem Capture.TakenFrom.mono (more : source ⊆ larger) {capture : Capture}
    (taken : capture.TakenFrom source) : capture.TakenFrom larger :=
  match capture with
  | .single _ => more taken
  | .flag _ => trivial
  | .nested _ => Captures.TakenFrom.mono more taken
  | .repeated _ => Captures.AllTakenFrom.mono more taken

/-- What is taken from lexemes is taken from more of them. -/
theorem Captures.TakenFrom.mono (more : source ⊆ larger) {captures : Captures}
    (taken : Captures.TakenFrom source captures) : Captures.TakenFrom larger captures :=
  match captures with
  | [] => trivial
  | (_, _) :: _ => ⟨Capture.TakenFrom.mono more taken.1, Captures.TakenFrom.mono more taken.2⟩

/-- What is taken from lexemes is taken from more of them. -/
theorem Captures.AllTakenFrom.mono (more : source ⊆ larger) {items : List Captures}
    (taken : Captures.AllTakenFrom source items) : Captures.AllTakenFrom larger items :=
  match items with
  | [] => trivial
  | _ :: _ => ⟨taken.1, Captures.TakenFrom.mono more taken.2.1,
    Captures.AllTakenFrom.mono more taken.2.2⟩

end

/-- Captures are taken from lexemes exactly when each of them is. -/
theorem Captures.takenFrom_iff {captures : Captures} :
    Captures.TakenFrom source captures ↔ ∀ entry ∈ captures, entry.2.TakenFrom source := by
  induction captures with
  | nil => simp [Captures.TakenFrom]
  | cons entry rest ih => simp [Captures.TakenFrom, ih]

/-- Merged captures are taken from the lexemes that both parts are taken from. -/
theorem Captures.TakenFrom.merge {captures later : Captures}
    (first : Captures.TakenFrom source captures) (second : Captures.TakenFrom source later) :
    Captures.TakenFrom source (captures.merge later) := by
  unfold Captures.merge
  induction later generalizing captures with
  | nil => exact first
  | cons entry rest ih =>
    refine ih (Captures.takenFrom_iff.mpr fun other member => ?_) second.2
    rcases Captures.mem_insert member with rfl | held
    · exact second.1
    · exact Captures.takenFrom_iff.mp first other held

end TakenFrom

/-- A matcher reads lexemes from the front, and captures only what it reads. -/
def Matcher.Reads (matcher : Matcher) : Prop :=
  ∀ input found, matcher input = some found →
    ∃ read, input = read ++ found.rest ∧ Captures.TakenFrom read found.captures

namespace Match

/-- What is expected is read from the input. -/
theorem reads_expect (accepts : Lexeme → Bool) : Matcher.Reads (expect accepts) := by
  intro input found matched
  obtain ⟨lexeme, same, nothing⟩ := read_of_expect matched
  exact ⟨[lexeme], same, nothing ▸ trivial⟩

/-- What is captured is read from the input. -/
theorem reads_capture (name : String) (accepts : Lexeme → Bool) :
    Matcher.Reads (capture name accepts) := by
  intro input found matched
  obtain ⟨lexeme, same, own⟩ := read_of_capture matched
  refine ⟨[lexeme], same, own ▸ ?_⟩
  exact ⟨List.mem_singleton_self lexeme, trivial⟩

/-- A repetition reads what its passes read, and keeps no empty match. -/
theorem reads_repeated {matcher : Matcher} (reads : matcher.Reads) (input : List Lexeme) :
    ∃ read, input = read ++ (repeated matcher input).2 ∧
      Captures.AllTakenFrom read (repeated matcher input).1 := by
  induction input using repeated.induct matcher with
  | case1 input none =>
    rw [repeated, none]
    exact ⟨[], rfl, trivial⟩
  | case2 input found some empty =>
    rw [repeated, some]
    simp only [empty, if_true]
    exact ⟨[], rfl, trivial⟩
  | case3 input found some captured shorter later rest split ih =>
    obtain ⟨first, same, taken⟩ := reads input found some
    obtain ⟨second, after, takenLater⟩ := ih
    rw [repeated, some]
    simp only [captured, shorter, if_true, Bool.false_eq_true, if_false]
    refine ⟨first ++ second, ?_, ?_, ?_, ?_⟩
    · rw [List.append_assoc, ← after, ← same]
    · simpa using captured
    · exact taken.mono (List.subset_append_left _ _)
    · exact takenLater.mono (List.subset_append_right _ _)
  | case4 input found some captured longer =>
    rw [repeated, some]
    simp only [captured, longer, Bool.false_eq_true, if_false]
    exact ⟨[], rfl, trivial⟩

end Match

section Reading

variable {rule? : String → Option Matcher}

/-- A terminal captures only what it reads, if the rules do. -/
theorem Terminal.reads_matches?
    (rules : ∀ name matcher, rule? name = some matcher → matcher.Reads) (terminal : Terminal) :
    Matcher.Reads (terminal.matches? rule?) := by
  intro input found matched
  unfold Terminal.matches? at matched
  split at matched
  case h_1 =>
    obtain rfl := Option.some.inj matched
    exact ⟨[], rfl, trivial, trivial⟩
  case h_2 => exact Match.reads_capture _ _ input found matched
  case h_3 =>
    obtain ⟨matcher, known, passed⟩ := Option.bind_eq_some_iff.mp matched
    obtain rfl := Option.some.inj passed
    obtain ⟨read, same, taken⟩ := Match.reads_repeated (rules _ _ known) input
    exact ⟨read, same, taken, trivial⟩
  case h_4 =>
    split at matched
    · exact Match.reads_expect _ input found matched
    · split at matched
      · exact Match.reads_capture _ _ input found matched
      · rename_i matcher known
        obtain ⟨inner, taken, kept⟩ := Option.bind_eq_some_iff.mp matched
        obtain ⟨read, same, own⟩ := rules _ _ known input inner taken
        split at kept
        · obtain rfl := Option.some.inj kept
          exact ⟨read, same, own, trivial⟩
        · obtain rfl := Option.some.inj kept
          exact ⟨read, same, own⟩

mutual

/-- A rule body captures only what it reads, if the rules do. -/
theorem Node.reads_matches? (rules : ∀ name matcher, rule? name = some matcher → matcher.Reads)
    (node : Node) : Matcher.Reads (node.matches? rule?) := by
  intro input found matched
  match node with
  | .literal text =>
    rw [Node.matches?] at matched
    exact Match.reads_expect _ input found matched
  | .terminal word =>
    rw [Node.matches?] at matched
    exact word.reads_matches? rules input found matched
  | .sequence nodes =>
    rw [Node.matches?] at matched
    have nothing : Captures.TakenFrom [] Captures.empty := trivial
    exact Node.reads_matchesAll? rules nodes nothing matched
  | .optional inner =>
    rw [Node.matches?] at matched
    obtain rfl := Option.some.inj matched
    cases taken : inner.matches? rule? input with
    | none => exact ⟨[], rfl, trivial⟩
    | some own => exact Node.reads_matches? rules inner input own taken
  | .alternation left right =>
    rw [Node.matches?] at matched
    cases first : left.matches? rule? input with
    | none =>
      rw [first] at matched
      exact Node.reads_matches? rules right input found matched
    | some own =>
      rw [first] at matched
      obtain rfl := Option.some.inj matched
      exact Node.reads_matches? rules left input own first

/-- Rule bodies one after the other add to the captures so far only what they read. -/
theorem Node.reads_matchesAll? (rules : ∀ name matcher, rule? name = some matcher → matcher.Reads)
    (nodes : List Node) {before : List Lexeme} {captures : Captures} {input : List Lexeme}
    {found : Match} (held : Captures.TakenFrom before captures)
    (matched : Node.matchesAll? rule? nodes captures input = some found) :
    ∃ read, input = read ++ found.rest ∧
      Captures.TakenFrom (before ++ read) found.captures := by
  match nodes with
  | [] =>
    rw [Node.matchesAll?] at matched
    obtain rfl := Option.some.inj matched
    exact ⟨[], rfl, held.mono (List.subset_append_left _ _)⟩
  | node :: rest =>
    rw [Node.matchesAll?] at matched
    split at matched
    · simp at matched
    · rename_i first taken
      obtain ⟨read, same, own⟩ := Node.reads_matches? rules node input first taken
      have joined : Captures.TakenFrom (before ++ read) (captures.merge first.captures) :=
        (held.mono (List.subset_append_left _ _)).merge (own.mono (List.subset_append_right _ _))
      obtain ⟨later, after, all⟩ := Node.reads_matchesAll? rules rest joined matched
      refine ⟨read ++ later, ?_, ?_⟩
      · rw [List.append_assoc, ← after, ← same]
      · rwa [← List.append_assoc]

end

end Reading

/-- A rule body captures only what it reads, in any grammar and at any depth. -/
theorem Grammar.reads_matchesWithin? (grammar : Grammar) (depth : Nat) (node : Node) :
    Matcher.Reads (grammar.matchesWithin? depth node) := by
  induction depth generalizing node with
  | zero =>
    intro input found matched
    simp [Grammar.matchesWithin?] at matched
  | succ depth ih =>
    refine Node.reads_matches? (fun name matcher known => ?_) node
    obtain ⟨body, _, rfl⟩ := Option.map_eq_some_iff.mp known
    exact ih body

/-! ## Matching by position -/

/-- What a match captured, and the position behind the lexemes it read. -/
structure Span where
  /-- What was captured. -/
  captures : Captures
  /-- The position of the first lexeme that was not read. -/
  next : Nat

/-- How the lexemes of a list are matched from a position on; `none` if they do not match. -/
abbrev Spanner := Nat → Option Span

namespace Span

variable (lexemes : List Lexeme)

/-- Looks up one lexeme that satisfies a condition and captures nothing. -/
def expect (accepts : Lexeme → Bool) : Spanner := fun position => do
  let lexeme ← lexemes[position]?
  if accepts lexeme then some ⟨.empty, position + 1⟩ else none

/-- Looks up one lexeme that satisfies a condition and captures it. -/
def capture (name : String) (accepts : Lexeme → Bool) : Spanner := fun position => do
  let lexeme ← lexemes[position]?
  if accepts lexeme then some ⟨.singleton name (.single lexeme), position + 1⟩ else none

/-- Matches again and again, until a match captures nothing or stays where it is. A match never
ends before its start or behind all lexemes, so the last case does not occur. -/
def repeated (spanner : Spanner) (position : Nat) : List Captures × Nat :=
  match spanner position with
  | none => ([], position)
  | some found =>
    if found.captures.isEmpty ∨ found.next = position then
      ([], position)
    else if position < found.next ∧ found.next ≤ lexemes.length then
      let (later, next) := repeated spanner found.next
      (found.captures :: later, next)
    else
      ([], position)
termination_by lexemes.length - position

end Span

/-- Matches a terminal by position, where `rule?` gives the spanner of a rule that exists. -/
def Terminal.spans? (lexemes : List Lexeme) (rule? : String → Option Spanner)
    (terminal : Terminal) : Spanner :=
  fun position =>
    match terminal.role with
    | .flag => some ⟨.singleton terminal.capture (.flag true), position⟩
    | .position => Span.capture lexemes terminal.capture Position.isPosition position
    | .repetition => do
      let spanner ← rule? terminal.target
      let (found, next) := Span.repeated lexemes spanner position
      return ⟨.singleton terminal.capture (.repeated found), next⟩
    | .word =>
      if terminal.isKeyword then
        Span.expect lexemes (fun lexeme => Text.upper lexeme = terminal.target) position
      else
        match rule? terminal.target with
        | none => Span.capture lexemes terminal.capture (fun _ => true) position
        | some spanner => do
          let found ← spanner position
          if terminal.named then
            return ⟨.singleton terminal.capture (.nested found.captures), found.next⟩
          else
            return found

namespace Node

mutual

/-- Matches a rule body by position, where `rule?` gives the spanner of a rule that exists. -/
def spans? (lexemes : List Lexeme) (rule? : String → Option Spanner) : Node → Spanner
  | .literal text, position =>
    Span.expect lexemes (fun lexeme => Text.upper lexeme = Text.upper text) position
  | .terminal word, position => word.spans? lexemes rule? position
  | .sequence nodes, position => spansAll? lexemes rule? nodes .empty position
  | .optional inner, position =>
    some ((spans? lexemes rule? inner position).getD ⟨.empty, position⟩)
  | .alternation left right, position =>
    (spans? lexemes rule? left position).orElse fun _ => spans? lexemes rule? right position

/-- Matches rule bodies one after the other by position and adds what they capture to `captures`. -/
def spansAll? (lexemes : List Lexeme) (rule? : String → Option Spanner) :
    List Node → Captures → Spanner
  | [], captures, position => some ⟨captures, position⟩
  | node :: rest, captures, position =>
    match spans? lexemes rule? node position with
    | none => none
    | some found =>
      spansAll? lexemes rule? rest (captures.merge found.captures) found.next

end

end Node

namespace Grammar

/-- Matches a rule body by position with at most `depth` rules inside one another. -/
def spansWithin? (grammar : Grammar) (lexemes : List Lexeme) : (depth : Nat) → Node → Spanner
  | 0, _, _ => none
  | depth + 1, node, position =>
    node.spans? lexemes (fun name => (grammar.rule? name).map (grammar.spansWithin? lexemes depth))
      position

/-- Matches a rule body against the lexemes from a position on. -/
def spans? (grammar : Grammar) (lexemes : List Lexeme) (node : Node) (position : Nat) :
    Option Span :=
  grammar.spansWithin? lexemes (grammar.depthBound (lexemes.length - position)) node position

end Grammar

/-- The span of a match whose input is the end of a list of lexemes. -/
def Match.span (lexemes : List Lexeme) (found : Match) : Span :=
  ⟨found.captures, lexemes.length - found.rest.length⟩

/-- A spanner finds what a matcher does with the lexemes from a position on. -/
def Spanner.Follows (lexemes : List Lexeme) (matcher : Matcher) (spanner : Spanner) : Prop :=
  ∀ position ≤ lexemes.length,
    spanner position = (matcher (lexemes.drop position)).map (Match.span lexemes)

section Following

variable {lexemes : List Lexeme}

/-- A match spans a range of the lexemes: it begins at the position and leaves what is behind. -/
theorem Match.span_bounds {position : Nat} {read : List Lexeme} {found : Match}
    (within : position ≤ lexemes.length) (same : lexemes.drop position = read ++ found.rest) :
    position ≤ (found.span lexemes).next ∧ (found.span lexemes).next ≤ lexemes.length ∧
      lexemes.drop (found.span lexemes).next = found.rest ∧
      (lexemes.take (found.span lexemes).next).drop position = read := by
  have sizes := congrArg List.length same
  rw [List.length_drop, List.length_append] at sizes
  have next : (found.span lexemes).next = position + read.length := by
    simp only [Match.span]
    omega
  refine ⟨by omega, by omega, ?_, ?_⟩
  · rw [next, ← List.drop_drop, same, List.drop_left]
  · rw [next, List.drop_take, same, Nat.add_sub_cancel_left, List.take_left]

/-- A match that reads nothing ends where it begins. -/
theorem Match.span_drop {position : Nat} (within : position ≤ lexemes.length)
    (captures : Captures) :
    Match.span lexemes ⟨captures, lexemes.drop position⟩ = ⟨captures, position⟩ := by
  rw [Match.span, List.length_drop, Nat.sub_sub_self within]

/-- The lexeme at a position is the first of those from the position on. -/
theorem Match.span_of_cons {position : Nat} {lexeme : Lexeme} {rest : List Lexeme}
    (same : lexemes.drop position = lexeme :: rest) (captures : Captures) :
    lexemes[position]? = some lexeme ∧
      Match.span lexemes ⟨captures, rest⟩ = ⟨captures, position + 1⟩ := by
  have sizes := congrArg List.length same
  rw [List.length_drop, List.length_cons] at sizes
  refine ⟨by rw [← List.head?_drop, same, List.head?_cons], ?_⟩
  have next : lexemes.length - rest.length = position + 1 := by omega
  rw [Match.span, next]

/-- Expecting a lexeme spans what is read of the range. -/
theorem Span.follows_expect (accepts : Lexeme → Bool) :
    Spanner.Follows lexemes (Match.expect accepts) (Span.expect lexemes accepts) := by
  intro position within
  cases same : lexemes.drop position with
  | nil =>
    have none : lexemes[position]? = none := by rw [← List.head?_drop, same, List.head?_nil]
    simp [Span.expect, Match.expect, none]
  | cons lexeme rest =>
    obtain ⟨here, next⟩ := Match.span_of_cons same .empty
    rw [Match.expect, Span.expect, here]
    split <;> simp_all

/-- Capturing a lexeme spans what is read of the range. -/
theorem Span.follows_capture (name : String) (accepts : Lexeme → Bool) :
    Spanner.Follows lexemes (Match.capture name accepts) (Span.capture lexemes name accepts) := by
  intro position within
  cases same : lexemes.drop position with
  | nil =>
    have none : lexemes[position]? = none := by rw [← List.head?_drop, same, List.head?_nil]
    simp [Span.capture, Match.capture, none]
  | cons lexeme rest =>
    obtain ⟨here, next⟩ := Match.span_of_cons same (.singleton name (.single lexeme))
    rw [Match.capture, Span.capture, here]
    split <;> simp_all

/-- A repetition by position finds the same matches and ends at the same place. -/
theorem Span.follows_repeated {matcher : Matcher} {spanner : Spanner} (reads : matcher.Reads)
    (follows : Spanner.Follows lexemes matcher spanner) {position : Nat}
    (within : position ≤ lexemes.length) :
    Span.repeated lexemes spanner position =
      ((Match.repeated matcher (lexemes.drop position)).1,
        lexemes.length - (Match.repeated matcher (lexemes.drop position)).2.length) := by
  -- A pass that another one follows leaves fewer lexemes, so the induction is on their number.
  induction left : lexemes.length - position using Nat.strongRecOn generalizing position with
  | ind count ih =>
    have size : (lexemes.drop position).length = lexemes.length - position := List.length_drop
    have stays : lexemes.length - (lexemes.drop position).length = position := by omega
    rw [Span.repeated, Match.repeated, follows position within]
    cases matched : matcher (lexemes.drop position) with
    | none => simp only [Option.map_none, stays]
    | some found =>
      obtain ⟨read, same, _⟩ := reads _ _ matched
      obtain ⟨starts, ends, behind, _⟩ := Match.span_bounds within same
      have rest : found.rest.length = lexemes.length - (found.span lexemes).next := by
        rw [← behind, List.length_drop]
      simp only [Option.map_some]
      by_cases idle : (found.span lexemes).captures.isEmpty ∨ (found.span lexemes).next = position
      · rw [if_pos idle]
        rcases idle with empty | stayed
        · have nothing : found.captures.isEmpty = true := empty
          simp only [nothing, if_true, stays]
        · have longer : ¬ found.rest.length < (lexemes.drop position).length := by omega
          simp only [longer, if_false, ite_self, stays]
      · obtain ⟨captured, moved⟩ := not_or.mp idle
        have some : ¬ found.captures.isEmpty = true := captured
        have shorter : found.rest.length < (lexemes.drop position).length := by omega
        rw [if_neg idle, if_pos ⟨by omega, ends⟩, ih _ (by omega) ends rfl, behind, if_neg some,
          if_pos shorter]
        rfl

section Rules

variable {rule? : String → Option Node} {matching : Node → Matcher} {spanning : Node → Spanner}

/-- A terminal by position follows the terminal, if the rules do. -/
theorem Terminal.follows (reads : ∀ body, (matching body).Reads)
    (rules : ∀ body, Spanner.Follows lexemes (matching body) (spanning body)) (word : Terminal) :
    Spanner.Follows lexemes (word.matches? fun name => (rule? name).map matching)
      (word.spans? lexemes fun name => (rule? name).map spanning) := by
  intro position within
  unfold Terminal.matches? Terminal.spans?
  cases word.role with
  | flag => exact congrArg some (Match.span_drop within _).symm
  | position => exact Span.follows_capture _ _ position within
  | repetition =>
    cases known : rule? word.target with
    | none => simp [known]
    | some body =>
      simp [known, Span.follows_repeated (reads body) (rules body) within, Match.span]
  | word =>
    by_cases keyword : word.isKeyword = true
    · simp only [keyword, if_true]
      exact Span.follows_expect _ position within
    · simp only [keyword, Bool.false_eq_true, if_false]
      cases rule? word.target with
      | none => exact Span.follows_capture _ _ position within
      | some body =>
        simp only [Option.map_some, rules body position within]
        cases matching body (lexemes.drop position) with
        | none => rfl
        | some found => cases word.named <;> rfl

mutual

/-- A rule body by position follows the rule body, if the rules do. -/
theorem Node.follows (reads : ∀ body, (matching body).Reads)
    (rules : ∀ body, Spanner.Follows lexemes (matching body) (spanning body)) (node : Node) :
    Spanner.Follows lexemes (node.matches? fun name => (rule? name).map matching)
      (node.spans? lexemes fun name => (rule? name).map spanning) := by
  intro position within
  match node with
  | .literal text =>
    rw [Node.matches?, Node.spans?]
    exact Span.follows_expect _ position within
  | .terminal word =>
    rw [Node.matches?, Node.spans?]
    exact word.follows reads rules position within
  | .sequence nodes =>
    rw [Node.matches?, Node.spans?]
    exact Node.follows_all reads rules nodes .empty within
  | .optional inner =>
    rw [Node.matches?, Node.spans?, Node.follows reads rules inner position within]
    cases inner.matches? (fun name => (rule? name).map matching) (lexemes.drop position) with
    | none => exact congrArg some (Match.span_drop within _).symm
    | some found => rfl
  | .alternation left right =>
    rw [Node.matches?, Node.spans?, Node.follows reads rules left position within]
    cases left.matches? (fun name => (rule? name).map matching) (lexemes.drop position) with
    | none => exact Node.follows reads rules right position within
    | some found => rfl

/-- Rule bodies one after the other by position follow the rule bodies, if the rules do. -/
theorem Node.follows_all (reads : ∀ body, (matching body).Reads)
    (rules : ∀ body, Spanner.Follows lexemes (matching body) (spanning body)) (nodes : List Node)
    (captures : Captures) {position : Nat} (within : position ≤ lexemes.length) :
    Node.spansAll? lexemes (fun name => (rule? name).map spanning) nodes captures position =
      (Node.matchesAll? (fun name => (rule? name).map matching) nodes captures
        (lexemes.drop position)).map (Match.span lexemes) := by
  match nodes with
  | [] =>
    rw [Node.matchesAll?, Node.spansAll?]
    exact congrArg some (Match.span_drop within _).symm
  | node :: rest =>
    rw [Node.matchesAll?, Node.spansAll?, Node.follows reads rules node position within]
    cases matched : node.matches? (fun name => (rule? name).map matching)
        (lexemes.drop position) with
    | none => rfl
    | some found =>
      have all : ∀ name matcher, (rule? name).map matching = some matcher → matcher.Reads := by
        intro name matcher known
        obtain ⟨body, _, rfl⟩ := Option.map_eq_some_iff.mp known
        exact reads body
      obtain ⟨read, same, _⟩ := Node.reads_matches? all node _ _ matched
      obtain ⟨_, ends, behind, _⟩ := Match.span_bounds within same
      simp only [Option.map_some]
      rw [Node.follows_all reads rules rest _ ends, behind]
      rfl

end

end Rules

/-- Matching by position finds what matching does, in any grammar and at any depth. -/
theorem Grammar.follows_spansWithin? (grammar : Grammar) (depth : Nat) (node : Node) :
    Spanner.Follows lexemes (grammar.matchesWithin? depth node)
      (grammar.spansWithin? lexemes depth node) := by
  induction depth generalizing node with
  | zero => exact fun _ _ => rfl
  | succ depth ih => exact Node.follows (grammar.reads_matchesWithin? depth) ih node

/-- A rule body spans what it matches, all lexemes of it from a position on. -/
theorem Grammar.spansWithin?_eq_some_iff {grammar : Grammar} {depth : Nat} {node : Node}
    {position : Nat} (within : position ≤ lexemes.length) {span : Span} :
    grammar.spansWithin? lexemes depth node position = some span ↔
      position ≤ span.next ∧ span.next ≤ lexemes.length ∧
        Captures.TakenFrom ((lexemes.take span.next).drop position) span.captures ∧
        grammar.matchesWithin? depth node (lexemes.drop position) =
          some ⟨span.captures, lexemes.drop span.next⟩ := by
  rw [grammar.follows_spansWithin? depth node position within, Option.map_eq_some_iff]
  constructor
  · rintro ⟨found, matched, rfl⟩
    obtain ⟨read, same, taken⟩ := grammar.reads_matchesWithin? depth node _ _ matched
    obtain ⟨starts, ends, behind, range⟩ := Match.span_bounds within same
    refine ⟨starts, ends, range.symm ▸ taken, ?_⟩
    rw [behind, matched]
    rfl
  · rintro ⟨_, ends, _, matched⟩
    exact ⟨_, matched, Match.span_drop ends span.captures⟩

/-- A rule body spans all lexemes exactly when matching them leaves none over. -/
theorem Grammar.spans?_eq_some_length_iff {grammar : Grammar} {node : Node} {captures : Captures} :
    grammar.spans? lexemes node 0 = some ⟨captures, lexemes.length⟩ ↔
      grammar.matches? node lexemes = some ⟨captures, []⟩ := by
  rw [Grammar.spans?, Grammar.spansWithin?_eq_some_iff (Nat.zero_le _), Grammar.matches?]
  simp only [Nat.sub_zero, List.drop_zero, List.drop_length, List.take_length]
  constructor
  · exact fun spanned => spanned.2.2.2
  · intro matched
    obtain ⟨read, same, taken⟩ := grammar.reads_matchesWithin? _ node _ _ matched
    rw [List.append_nil] at same
    exact ⟨Nat.zero_le _, Nat.le_refl _, same ▸ taken, matched⟩

/-- A rule body spans some of the lexemes exactly when matching leaves some over; the first of these
is the one at the end of the span. -/
theorem Grammar.exists_spans?_lt_iff {grammar : Grammar} {node : Node} {lexeme : Lexeme} :
    (∃ captures next, grammar.spans? lexemes node 0 = some ⟨captures, next⟩ ∧
        next < lexemes.length ∧ lexemes[next]? = some lexeme) ↔
      ∃ captures rest, grammar.matches? node lexemes = some ⟨captures, lexeme :: rest⟩ := by
  constructor
  · rintro ⟨captures, next, spanned, _, here⟩
    rw [Grammar.spans?, Grammar.spansWithin?_eq_some_iff (Nat.zero_le _)] at spanned
    obtain ⟨rest, same⟩ : ∃ rest, lexemes.drop next = lexeme :: rest := by
      rw [← List.head?_drop] at here
      exact List.head?_eq_some_iff.mp here
    exact ⟨captures, rest, same ▸ spanned.2.2.2⟩
  · rintro ⟨captures, rest, matched⟩
    have spanned : grammar.spans? lexemes node 0 =
        some (Match.span lexemes ⟨captures, lexeme :: rest⟩) := by
      rw [Grammar.spans?, grammar.follows_spansWithin? _ node 0 (Nat.zero_le _), Nat.sub_zero,
        List.drop_zero, ← Grammar.matches?, matched]
      rfl
    obtain ⟨read, same, _⟩ := grammar.reads_matchesWithin? _ node _ _ matched
    obtain ⟨_, _, behind, _⟩ := Match.span_bounds (Nat.zero_le _) (lexemes.drop_zero.trans same)
    have here : lexemes[(Match.span lexemes ⟨captures, lexeme :: rest⟩).next]? = some lexeme := by
      rw [← List.head?_drop, behind, List.head?_cons]
    exact ⟨captures, _, spanned, (List.getElem?_eq_some_iff.mp here).1, here⟩

end Following

/-- The lexemes that a statement is parsed by begin with the keyword of an assignment if an equals
sign is its second lexeme. -/
theorem Statement.fullLexemes_eq_ite (statement : Statement) :
    statement.fullLexemes =
      if statement.lexemes[1]? = some "=" then assignmentKeyword :: statement.lexemes
      else statement.lexemes := by
  rw [fullLexemes]
  split
  · rename_i first rest same
    simp [same]
  · rename_i other
    rw [if_neg]
    intro second
    match same : statement.lexemes with
    | [] => simp [same] at second
    | [_] => simp [same] at second
    | first :: sign :: rest =>
      obtain rfl : sign = "=" := by simpa [same] using second
      exact other first rest same

/-- A lexeme is told as left over exactly when the rule of the keyword leaves it over first. -/
theorem Statement.parse_eq_leftover_iff {grammar : Grammar} {statement : Statement}
    {lexeme : Lexeme} :
    statement.parse grammar = .error (.leftover statement lexeme) ↔
      ∃ first body, statement.fullLexemes.head? = some first ∧
        grammar.statementRule? (Text.lower first) = some body ∧
        ∃ captures rest,
          grammar.matches? body statement.fullLexemes = some ⟨captures, lexeme :: rest⟩ := by
  constructor
  · intro failed
    simp only [Statement.parse] at failed
    split at failed
    · simp at failed
    · rename_i first starts
      split at failed
      · simp at failed
      · rename_i body known
        split at failed
        · simp at failed
        · rename_i found matched
          split at failed
          · simp at failed
          · rename_i other rest behind
            simp only [Except.error.injEq, ParseError.leftover.injEq, true_and] at failed
            subst failed
            refine ⟨first, body, starts, known, found.captures, rest, ?_⟩
            rw [matched, ← behind]
  · rintro ⟨first, body, starts, known, captures, rest, matched⟩
    simp only [Statement.parse, starts, known, matched]

/-- A rule may start a statement exactly when it is found and marked so. -/
theorem Grammar.statementRule?_eq_some_iff {grammar : Grammar} {keyword : String} {body : Node} :
    grammar.statementRule? keyword = some body ↔
      ∃ rule, grammar.find? keyword = some rule ∧ rule.isStatement = true ∧ rule.node = body := by
  simp [Grammar.statementRule?, and_assoc]

/-- Matching reads a range of the lexemes and captures nothing but what it reads. By position or
from the front, it finds the same captures; a span lies within the lexemes, every lexeme that is
captured at any depth is among those it spans, and no match of a repeated rule is empty; and
matching the lexemes from the position on spans as many. So a statement is parsed exactly when the
rule of its keyword, which may start a statement, spans all of it, and a lexeme is told as left over
exactly when it stands at the end of a shorter span. -/
theorem Grammar.matching_spans_range (grammar : Grammar) :
    (∀ lexemes depth node position, position ≤ lexemes.length →
      grammar.spansWithin? lexemes depth node position =
        (grammar.matchesWithin? depth node (lexemes.drop position)).map (Match.span lexemes) ∧
      ∀ captures next, grammar.spansWithin? lexemes depth node position = some ⟨captures, next⟩ →
        position ≤ next ∧ next ≤ lexemes.length ∧
          Captures.TakenFrom ((lexemes.take next).drop position) captures ∧
          grammar.spansWithin? (lexemes.drop position) depth node 0 =
            some ⟨captures, next - position⟩) ∧
    ∀ statement : Statement,
      statement.fullLexemes =
        (if statement.lexemes[1]? = some "=" then "compute" :: statement.lexemes
          else statement.lexemes) ∧
      (∀ command, statement.parse grammar = .ok command ↔
        ∃ first body captures, statement.fullLexemes.head? = some first ∧
          grammar.statementRule? (Text.lower first) = some body ∧
          grammar.spans? statement.fullLexemes body 0 =
            some ⟨captures, statement.fullLexemes.length⟩ ∧
          command = ⟨Text.lower first, captures⟩) ∧
      ∀ lexeme, statement.parse grammar = .error (.leftover statement lexeme) ↔
        ∃ first body captures next, statement.fullLexemes.head? = some first ∧
          grammar.statementRule? (Text.lower first) = some body ∧
          grammar.spans? statement.fullLexemes body 0 = some ⟨captures, next⟩ ∧
          next < statement.fullLexemes.length ∧ statement.fullLexemes[next]? = some lexeme := by
  refine ⟨fun lexemes depth node position within => ?_, fun statement => ⟨?_, ?_, ?_⟩⟩
  · refine ⟨grammar.follows_spansWithin? depth node position within, ?_⟩
    intro captures next spanned
    obtain ⟨starts, ends, taken, matched⟩ : position ≤ next ∧ next ≤ lexemes.length ∧ _ ∧ _ :=
      (spansWithin?_eq_some_iff within).mp spanned
    refine ⟨starts, ends, taken, ?_⟩
    have bound : next - position ≤ (lexemes.drop position).length := by
      rw [List.length_drop]
      omega
    rw [grammar.follows_spansWithin? depth node 0 (Nat.zero_le _), List.drop_zero, matched,
      Option.map_some, ← Match.span_drop bound captures, List.drop_drop,
      Nat.add_sub_cancel' starts]
  · exact statement.fullLexemes_eq_ite
  · intro command
    simp only [Statement.parse_eq_ok_iff, spans?_eq_some_length_iff, statementRule?_eq_some_iff]
    constructor
    · rintro ⟨first, rule, captures, starts, known, isStatement, matched, rfl⟩
      exact ⟨first, rule.node, captures, starts, ⟨rule, known, isStatement, rfl⟩, matched, rfl⟩
    · rintro ⟨first, _, captures, starts, ⟨rule, known, isStatement, rfl⟩, matched, rfl⟩
      exact ⟨first, rule, captures, starts, known, isStatement, matched, rfl⟩
  · intro lexeme
    rw [Statement.parse_eq_leftover_iff]
    constructor
    · rintro ⟨first, body, starts, known, left⟩
      obtain ⟨captures, next, spanned, shorter, here⟩ := exists_spans?_lt_iff.mpr left
      exact ⟨first, body, captures, next, starts, known, spanned, shorter, here⟩
    · rintro ⟨first, body, captures, next, starts, known, spanned, shorter, here⟩
      have left := exists_spans?_lt_iff.mp ⟨captures, next, spanned, shorter, here⟩
      exact ⟨first, body, starts, known, left⟩

end ReportLang
