import ReportLang.Proofs.Grammar.LeftRecursion
import Mathlib.Data.Finset.Card
import Mathlib.Data.Finset.Lattice.Fold
import Mathlib.Data.Prod.Lex
import Mathlib.Order.Lattice.Nat

/-!
# Matching ends

Matching a body against lexemes ends, whatever they are, if the grammar is not left-recursive. With
every call, lexemes have been read, or the ranks of the rules in reach have become smaller, or the
body has. The depth at which matching within a bound is given up is never exceeded: ranks can be
chosen below the number of rules, so that many rules at most are entered between two lexemes.
-/

namespace ReportLang

namespace Grammar

variable {grammar : Grammar} {rank : String → Nat}

open Classical in
/-- One more than the largest rank of a rule that is reached before a lexeme is read; zero if no
rule is. -/
noncomputable def height (grammar : Grammar) (rank : String → Nat) (node : Node)
    (input : List Lexeme) : Nat :=
  ((grammar.table.map Prod.fst).toFinset.filter fun name =>
    grammar.Reaches input node name).sup fun name => rank name + 1

/-- A bound on the ranks of what is reached is a bound on the height. -/
theorem height_le_iff {node : Node} {input : List Lexeme} {bound : Nat} :
    grammar.height rank node input ≤ bound ↔
      ∀ name, grammar.Reaches input node name → rank name < bound := by
  simp only [height, Finset.sup_le_iff, Finset.mem_filter, List.mem_toFinset, and_imp,
    Nat.succ_le_iff]
  exact ⟨fun below name reaches => below name reaches.mem_table reaches,
    fun below name _ reaches => below name reaches⟩

/-- What is reached ranks below the height. -/
theorem Reaches.rank_lt {node : Node} {input : List Lexeme} {name : String}
    (reaches : grammar.Reaches input node name) :
    rank name < grammar.height rank node input :=
  height_le_iff.mp (Nat.le_refl _) name reaches

/-- The lexemes of a call are an end of those of the caller. -/
theorem Call.suffix {node child : Node} {input start : List Lexeme}
    (calls : grammar.Call node input child start) : start <:+ input := by
  cases calls with
  | reference => exact List.suffix_rfl
  | repetition role refers passed =>
    induction passed with
    | refl => exact List.suffix_rfl
    | tail _ pass ih =>
      obtain ⟨found, taken, _, _, rfl⟩ := pass
      exact (taken.suffix found rfl).trans ih
  | part taken => exact taken.suffix _ rfl
  | optional => exact List.suffix_rfl
  | left => exact List.suffix_rfl
  | right => exact List.suffix_rfl

/-- A call reads lexemes first, or passes on those of the caller. -/
theorem Call.shorter_or_eq {node child : Node} {input start : List Lexeme}
    (calls : grammar.Call node input child start) :
    start.length < input.length ∨ start = input := by
  rcases Nat.lt_or_eq_of_le calls.suffix.length_le with shorter | same
  · exact .inl shorter
  · exact .inr (calls.suffix.eq_of_length same)

/-- A call before a lexeme is read reaches no more than the caller. -/
theorem Call.height_le {node child : Node} {input : List Lexeme}
    (calls : grammar.Call node input child input) :
    grammar.height rank child input ≤ grammar.height rank node input :=
  height_le_iff.mpr fun _ reaches => (Reaches.call calls reaches).rank_lt

/-- The call of a rule before a lexeme is read reaches rules of smaller rank only. -/
theorem Ranks.height_lt (ranks : grammar.Ranks rank) {word : Terminal} {body : Node}
    {input : List Lexeme} (calls : grammar.Call (.terminal word) input body input) :
    grammar.height rank body input < grammar.height rank (.terminal word) input := by
  have refers : grammar.body? word = some body := by
    cases calls with
    | reference _ refers => exact refers
    | repetition _ refers => exact refers
  have below : grammar.height rank body input ≤ rank (Text.lower word.target) :=
    height_le_iff.mpr fun name reaches => ranks _ _ (rule?_of_body? refers) input name reaches
  have reached : rank (Text.lower word.target) < grammar.height rank (.terminal word) input :=
    (Reaches.reference refers).rank_lt
  exact Nat.lt_of_le_of_lt below reached

/-- A call is that of a rule, or that of a part of the body. -/
theorem Call.terminal_or_smaller {node child : Node} {input start : List Lexeme}
    (calls : grammar.Call node input child start) :
    (∃ word, node = .terminal word) ∨ sizeOf child < sizeOf node := by
  cases calls with
  | @reference word => exact .inl ⟨word, rfl⟩
  | @repetition word => exact .inl ⟨word, rfl⟩
  | @part before after =>
    have smaller : sizeOf child < sizeOf (before ++ child :: after) :=
      List.sizeOf_lt_of_mem (by simp)
    refine .inr ?_
    rw [Node.sequence.sizeOf_spec]
    omega
  | optional =>
    refine .inr ?_
    rw [Node.optional.sizeOf_spec]
    omega
  | left =>
    refine .inr ?_
    rw [Node.alternation.sizeOf_spec]
    omega
  | right =>
    refine .inr ?_
    rw [Node.alternation.sizeOf_spec]
    omega

/-- The measure that matching descends by: the number of lexemes, the ranks in reach and the size of
the body. -/
noncomputable def measure (grammar : Grammar) (rank : String → Nat) (node : Node)
    (input : List Lexeme) : Nat ×ₗ Nat ×ₗ Nat :=
  toLex (input.length, toLex (grammar.height rank node input, sizeOf node))

/-- Every call descends. -/
theorem Ranks.measure_lt (ranks : grammar.Ranks rank) {node child : Node}
    {input start : List Lexeme} (calls : grammar.Call node input child start) :
    grammar.measure rank child start < grammar.measure rank node input := by
  rcases calls.shorter_or_eq with shorter | rfl
  · exact Prod.Lex.toLex_lt_toLex.mpr (.inl shorter)
  · refine Prod.Lex.toLex_lt_toLex.mpr (.inr ⟨rfl, Prod.Lex.toLex_lt_toLex.mpr ?_⟩)
    rcases calls.terminal_or_smaller with ⟨word, rfl⟩ | smaller
    · exact .inl (ranks.height_lt calls)
    · rcases Nat.lt_or_eq_of_le (calls.height_le : grammar.height rank _ _ ≤ _) with lower | same
      · exact .inl lower
      · exact .inr ⟨same, smaller⟩

/-- Matching calls itself only finitely often in a row. -/
theorem Ranks.wellFounded_call (ranks : grammar.Ranks rank) :
    WellFounded fun later earlier : Node × List Lexeme =>
      grammar.Call earlier.1 earlier.2 later.1 later.2 :=
  have descends : WellFounded fun later earlier : Node × List Lexeme =>
      grammar.measure rank later.1 later.2 < grammar.measure rank earlier.1 earlier.2 :=
    InvImage.wf (fun state : Node × List Lexeme => grammar.measure rank state.1 state.2)
      wellFounded_lt
  Subrelation.wf (fun calls => ranks.measure_lt calls) descends

/-! ## The depth that suffices -/

/-- How many rules have a smaller rank. -/
def order (grammar : Grammar) (rank : String → Nat) (name : String) : Nat :=
  ((grammar.table.map Prod.fst).toFinset.filter fun other => rank other < rank name).card

/-- No rule has all rules below it. -/
theorem order_lt {name : String} (member : name ∈ grammar.table.map Prod.fst) :
    grammar.order rank name < grammar.table.length := by
  have proper : ((grammar.table.map Prod.fst).toFinset.filter fun other =>
      rank other < rank name) ⊂ (grammar.table.map Prod.fst).toFinset :=
    Finset.filter_ssubset.mpr ⟨name, List.mem_toFinset.mpr member, Nat.lt_irrefl _⟩
  calc
    grammar.order rank name < (grammar.table.map Prod.fst).toFinset.card :=
      Finset.card_lt_card proper
    _ ≤ (grammar.table.map Prod.fst).length := List.toFinset_card_le _
    _ = grammar.table.length := List.length_map _

/-- Counting the rules below a rule ranks it as well. -/
theorem Ranks.order (ranks : grammar.Ranks rank) : grammar.Ranks (grammar.order rank) := by
  intro name body found input reached reaches
  have falls := ranks name body found input reached reaches
  refine Finset.card_lt_card (Finset.ssubset_iff_of_subset ?_ |>.mpr ⟨reached, ?_, ?_⟩)
  · intro other member
    rw [Finset.mem_filter] at member ⊢
    exact ⟨member.1, Nat.lt_trans member.2 falls⟩
  · exact Finset.mem_filter.mpr ⟨List.mem_toFinset.mpr reaches.mem_table, falls⟩
  · simp

/-- How many rules can be inside one another at most while a body is matched, if ranks are
counted. -/
noncomputable def cost (grammar : Grammar) (rank : String → Nat) (node : Node)
    (input : List Lexeme) : Nat :=
  input.length * (grammar.table.length + 1) + grammar.height (grammar.order rank) node input

/-- Counted ranks do not exceed the number of rules. -/
theorem height_order_le (grammar : Grammar) (rank : String → Nat) (node : Node)
    (input : List Lexeme) :
    grammar.height (grammar.order rank) node input ≤ grammar.table.length :=
  height_le_iff.mpr fun _ reaches => order_lt reaches.mem_table

/-- Fewer lexemes outweigh all ranks. -/
theorem cost_lt_of_shorter {node child : Node} {input start : List Lexeme}
    (shorter : start.length < input.length) :
    grammar.cost rank child start < grammar.cost rank node input := by
  have bounded := height_order_le grammar rank child start
  have fewer : (start.length + 1) * (grammar.table.length + 1) ≤
      input.length * (grammar.table.length + 1) := Nat.mul_le_mul_right _ shorter
  rw [Nat.succ_mul] at fewer
  unfold cost
  omega

/-- A call costs no more than the caller. -/
theorem Call.cost_le {node child : Node} {input start : List Lexeme}
    (calls : grammar.Call node input child start) :
    grammar.cost rank child start ≤ grammar.cost rank node input := by
  rcases calls.shorter_or_eq with shorter | rfl
  · exact Nat.le_of_lt (cost_lt_of_shorter shorter)
  · exact Nat.add_le_add_left calls.height_le _

/-- The call of a rule costs less than the caller. -/
theorem Ranks.cost_lt (ranks : grammar.Ranks rank) {word : Terminal} {body : Node}
    {input start : List Lexeme} (calls : grammar.Call (.terminal word) input body start) :
    grammar.cost rank body start < grammar.cost rank (.terminal word) input := by
  rcases calls.shorter_or_eq with shorter | rfl
  · exact cost_lt_of_shorter shorter
  · exact Nat.add_lt_add_left (ranks.order.height_lt calls) _

/-! ## Answers -/

/-- Repeated matching ends if every pass does. -/
theorem repeats_of_repeated {body : Node} {matcher : Matcher} {input : List Lexeme}
    (each : ∀ start, Relation.ReflTransGen (grammar.Pass body) input start →
      grammar.Answers body start (matcher start)) :
    ∃ passes, grammar.Repeats body input passes (Match.repeated matcher input).1
      (Match.repeated matcher input).2 := by
  induction input using Match.repeated.induct matcher with
  | case1 input none =>
    have failed := each input .refl
    rw [none] at failed
    rw [Match.repeated, none]
    exact ⟨1, .failed failed⟩
  | case2 input found some empty =>
    have taken := each input .refl
    rw [some] at taken
    rw [Match.repeated, some]
    simp only [empty, if_true]
    exact ⟨1, .idle taken (.inl empty)⟩
  | case3 input found some captured shorter later rest split ih =>
    have taken := each input .refl
    rw [some] at taken
    have captured := Bool.eq_false_iff.mpr captured
    have read : found.rest ≠ input := fun same => absurd shorter (by simp [same])
    have pass : grammar.Pass body input found.rest := ⟨found, taken, captured, read, rfl⟩
    obtain ⟨passes, loop⟩ := ih fun start passed => each start (.head pass passed)
    rw [Match.repeated, some]
    simp only [captured, shorter, if_true, Bool.false_eq_true, if_false]
    exact ⟨passes + 1, .again taken captured read loop⟩
  | case4 input found some captured longer =>
    have taken := each input .refl
    rw [some] at taken
    have suffix := taken.suffix found rfl
    have same : found.rest.length = input.length :=
      Nat.le_antisymm suffix.length_le (Nat.not_lt.mp longer)
    rw [Match.repeated, some]
    simp only [captured, longer, if_false, Bool.false_eq_true]
    exact ⟨1, .idle taken (.inr (suffix.eq_of_length same))⟩

/-- A terminal that refers to no rule is matched as if there were none. -/
theorem matches?_of_free {word : Terminal} (free : grammar.body? word = none)
    (matcher : Node → Matcher) (input : List Lexeme) :
    word.matches? (fun _ => none) input =
      word.matches? (fun name => (grammar.rule? name).map matcher) input := by
  unfold body? at free
  unfold Terminal.matches?
  cases role : word.role with
  | flag => rfl
  | position => rfl
  | repetition =>
    rw [role] at free
    simp only [free, Option.map_none]
  | word =>
    rw [role] at free
    cases keyword : word.isKeyword with
    | true => simp only [if_true]
    | false =>
      simp only [keyword, Bool.false_eq_true, if_false] at free
      simp only [Bool.false_eq_true, if_false, free, Option.map_none]

/-- Matching a terminal ends if matching the rules it calls does. -/
theorem answers_terminal {matcher : Node → Matcher} {word : Terminal} {input : List Lexeme}
    (rules : ∀ body start, grammar.Call (.terminal word) input body start →
      grammar.Answers body start (matcher body start)) :
    grammar.Answers (.terminal word) input
      (word.matches? (fun name => (grammar.rule? name).map matcher) input) := by
  cases refers : grammar.body? word with
  | none => exact .alone refers (matches?_of_free refers matcher input)
  | some body =>
    have found := rule?_of_body? refers
    rcases role_of_body? refers with role | ⟨role, free⟩
    · obtain ⟨passes, loop⟩ := repeats_of_repeated fun start passed =>
        rules body start (.repetition role refers passed)
      have answers := Answers.repetition role refers loop
      simpa [Terminal.matches?, role, found] using answers
    · have inner := rules body input (.reference role refers input)
      have answers := Answers.reference role refers inner
      have kept : (matcher body input).map word.keep = (do
          let found ← matcher body input
          if word.named then
            return ⟨.singleton word.capture (.nested found.captures), found.rest⟩
          else
            return found) := by
        cases matcher body input with
        | none => rfl
        | some found => cases named : word.named <;> simp [Terminal.keep, named]
      rw [kept] at answers
      simpa [Terminal.matches?, role, free, found] using answers

/-- Whether some bodies and lexemes call only each other, and a matcher answers when they call a
rule. -/
structure Settles (grammar : Grammar) (matcher : Node → Matcher)
    (settled : Node → List Lexeme → Prop) : Prop where
  /-- What they call is one of them. -/
  passesOn : ∀ {node child input start}, settled node input →
    grammar.Call node input child start → settled child start
  /-- The matcher answers when a terminal calls a rule. -/
  rules : ∀ {word body input start}, settled (.terminal word) input →
    grammar.Call (.terminal word) input body start →
      grammar.Answers body start (matcher body start)

section Bodies

variable {matcher : Node → Matcher} {settled : Node → List Lexeme → Prop}

mutual

/-- Matching a body ends if matching the rules that its terminals call does. -/
theorem answers_node (settles : grammar.Settles matcher settled) (node : Node)
    {input : List Lexeme} (here : settled node input) :
    grammar.Answers node input
      (node.matches? (fun name => (grammar.rule? name).map matcher) input) := by
  cases node with
  | literal text => exact .literal rfl
  | terminal word => exact answers_terminal fun _ _ => settles.rules here
  | sequence nodes =>
    refine .sequence (answers_all settles nodes fun before child after found split taken => ?_)
    subst split
    exact settles.passesOn here (.part taken)
  | optional inner =>
    have tried := answers_node settles inner (settles.passesOn here (.optional inner input))
    rw [Node.matches?]
    cases result : inner.matches? (fun name => (grammar.rule? name).map matcher) input with
    | none => exact .absent (result ▸ tried)
    | some found => exact .present (result ▸ tried)
  | alternation left right =>
    have first := answers_node settles left (settles.passesOn here (.left left right input))
    rw [Node.matches?]
    cases result : left.matches? (fun name => (grammar.rule? name).map matcher) input with
    | none =>
      rw [result] at first
      exact .right first (answers_node settles right (settles.passesOn here (.right first right)))
    | some found => exact .left (result ▸ first)

/-- Matching bodies one after the other ends if matching each of them does. -/
theorem answers_all (settles : grammar.Settles matcher settled) (nodes : List Node)
    {captures : Captures} {input : List Lexeme}
    (each : ∀ before child after found, nodes = before ++ child :: after →
      grammar.AnswersAll before captures input (some found) → settled child found.rest) :
    grammar.AnswersAll nodes captures input
      (Node.matchesAll? (fun name => (grammar.rule? name).map matcher) nodes captures input) := by
  cases nodes with
  | nil => exact .done captures input
  | cons node rest =>
    have first := answers_node settles node (each [] node rest _ rfl (.done captures input))
    rw [Node.matchesAll?]
    cases result : node.matches? (fun name => (grammar.rule? name).map matcher) input with
    | none => exact .stuck (result ▸ first)
    | some found =>
      rw [result] at first
      -- The first part is one of the parts before, for each of the parts that remain.
      refine .next first (answers_all settles rest fun before child after inner split taken => ?_)
      exact each (node :: before) child after inner (by rw [split, List.cons_append])
        (.next first taken)

end

end Bodies

/-- Matching within a depth ends as matching without a bound does, if the depth exceeds the cost. -/
theorem Ranks.answers_matchesWithin? (ranks : grammar.Ranks rank) {depth : Nat} {node : Node}
    {input : List Lexeme} (deep : grammar.cost rank node input < depth) :
    grammar.Answers node input (grammar.matchesWithin? depth node input) := by
  induction depth generalizing node input with
  | zero => exact absurd deep (Nat.not_lt_zero _)
  | succ depth ih =>
    -- The depth bounds only rules inside one another, so parts of a body keep it.
    have settles : grammar.Settles (grammar.matchesWithin? depth) fun node input =>
        grammar.cost rank node input ≤ depth :=
      { passesOn := fun within calls => Nat.le_trans calls.cost_le within
        rules := fun within calls => ih (Nat.lt_of_lt_of_le (ranks.cost_lt calls) within) }
    rw [matchesWithin?]
    exact answers_node settles node (Nat.le_of_lt_succ deep)

/-- The depth at which matching is given up is not reached. -/
theorem cost_lt_depthBound (node : Node) (input : List Lexeme) :
    grammar.cost rank node input < grammar.depthBound input.length := by
  have bounded := height_order_le grammar rank node input
  unfold cost depthBound
  rw [Nat.succ_mul]
  omega

/-- Matching a body ends with what is computed within the depth bound, and with nothing else. -/
theorem Ranks.answers_iff (ranks : grammar.Ranks rank) {node : Node} {input : List Lexeme}
    {result : Option Match} :
    grammar.Answers node input result ↔ grammar.matches? node input = result := by
  have answers : grammar.Answers node input (grammar.matches? node input) :=
    ranks.answers_matchesWithin? (cost_lt_depthBound node input)
  constructor
  · intro other
    exact answers.unique other
  · rintro rfl
    exact answers

/-- Repeating a body ends. -/
theorem Ranks.repeats (ranks : grammar.Ranks rank) (body : Node) (input : List Lexeme) :
    ∃ passes items rest, grammar.Repeats body input passes items rest := by
  have each : ∀ start, grammar.Answers body start (grammar.matches? body start) :=
    fun start => ranks.answers_iff.mpr rfl
  obtain ⟨passes, loop⟩ := repeats_of_repeated fun start _ => each start
  exact ⟨passes, _, _, loop⟩

end Grammar

namespace Statement

/-- Parsing a statement ends with a result, where matching has no bound. -/
inductive Parses (grammar : Grammar) (statement : Statement) :
    Except ParseError Command → Prop where
  /-- There are no lexemes. -/
  | empty (none : statement.fullLexemes = []) : Parses grammar statement (.error .empty)
  /-- No rule for statements has the first lexeme as its name. -/
  | unknownKeyword {first : Lexeme} (starts : statement.fullLexemes.head? = some first)
    (unknown : grammar.statementRule? (Text.lower first) = none) :
    Parses grammar statement (.error (.unknownKeyword (Text.lower first) statement))
  /-- The rule does not match. -/
  | mismatch {first : Lexeme} {rule : Node} (starts : statement.fullLexemes.head? = some first)
    (known : grammar.statementRule? (Text.lower first) = some rule)
    (failed : grammar.Answers rule statement.fullLexemes none) :
    Parses grammar statement (.error (.mismatch statement))
  /-- The rule leaves lexemes over. -/
  | leftover {first lexeme : Lexeme} {rule : Node} {captures : Captures} {rest : List Lexeme}
    (starts : statement.fullLexemes.head? = some first)
    (known : grammar.statementRule? (Text.lower first) = some rule)
    (taken : grammar.Answers rule statement.fullLexemes (some ⟨captures, lexeme :: rest⟩)) :
    Parses grammar statement (.error (.leftover statement lexeme))
  /-- The rule matches all lexemes. -/
  | parsed {first : Lexeme} {rule : Node} {captures : Captures}
    (starts : statement.fullLexemes.head? = some first)
    (known : grammar.statementRule? (Text.lower first) = some rule)
    (taken : grammar.Answers rule statement.fullLexemes (some ⟨captures, []⟩)) :
    Parses grammar statement (.ok ⟨Text.lower first, captures⟩)

variable {grammar : Grammar} {rank : String → Nat}

/-- Parsing a statement ends with what is computed, and with nothing else. -/
theorem parses_iff (ranks : grammar.Ranks rank) {statement : Statement}
    {result : Except ParseError Command} :
    statement.Parses grammar result ↔ statement.parse grammar = result := by
  constructor
  · intro parses
    cases parses with
    | empty none => simp [parse, none]
    | unknownKeyword starts unknown => simp [parse, starts, unknown]
    | mismatch starts known failed => simp [parse, starts, known, ranks.answers_iff.mp failed]
    | leftover starts known taken => simp [parse, starts, known, ranks.answers_iff.mp taken]
    | parsed starts known taken => simp [parse, starts, known, ranks.answers_iff.mp taken]
  · rintro rfl
    cases starts : statement.fullLexemes.head? with
    | none =>
      simp only [parse, starts]
      exact .empty (List.head?_eq_none_iff.mp starts)
    | some first =>
      cases known : grammar.statementRule? (Text.lower first) with
      | none =>
        simp only [parse, starts, known]
        exact .unknownKeyword starts known
      | some rule =>
        cases taken : grammar.matches? rule statement.fullLexemes with
        | none =>
          simp only [parse, starts, known, taken]
          exact .mismatch starts known (ranks.answers_iff.mpr taken)
        | some found =>
          obtain ⟨captures, rest⟩ := found
          cases rest with
          | nil =>
            simp only [parse, starts, known, taken]
            exact .parsed starts known (ranks.answers_iff.mpr taken)
          | cons lexeme rest =>
            simp only [parse, starts, known, taken]
            exact .leftover starts known (ranks.answers_iff.mpr taken)

end Statement

/-- Matching ends. If rules can be ranked so that every rule reached before a lexeme is read has a
smaller rank, then matching a body against lexemes, wherever in a statement they begin, has one
result, which is the computed one; every call descends in the number of lexemes, the ranks in reach
and the size of the body, so that calls are well founded; and a repetition ends after at most one
more pass than there are lexemes. The rules for report programs can be ranked so, and parsing any
statement by them ends. -/
theorem Grammar.matching_ends :
    (∀ (grammar : Grammar) (rank : String → Nat), grammar.Ranks rank →
      (∀ node input result,
        grammar.Answers node input result ↔ grammar.matches? node input = result) ∧
      (∀ node input child start, grammar.Call node input child start →
        grammar.measure rank child start < grammar.measure rank node input) ∧
      (WellFounded fun later earlier : Node × List Lexeme =>
        grammar.Call earlier.1 earlier.2 later.1 later.2) ∧
      ∀ body input,
        (∃ passes items rest, grammar.Repeats body input passes items rest) ∧
          ∀ passes items rest, grammar.Repeats body input passes items rest →
            passes ≤ input.length + 1) ∧
    builtin.NonLeftRecursive ∧
    ∀ (statement : Statement) (result : Except ParseError Command),
      statement.Parses builtin result ↔ statement.parse builtin = result := by
  refine ⟨fun grammar rank ranks => ⟨?_, ?_, ranks.wellFounded_call, ?_⟩,
    builtin_nonLeftRecursive, ?_⟩
  · intro node input result
    exact ranks.answers_iff
  · intro node input child start calls
    exact ranks.measure_lt calls
  · intro body input
    exact ⟨ranks.repeats body input, fun passes items rest loop => loop.passes_le⟩
  · intro statement result
    obtain ⟨rank, ranks⟩ := builtin_nonLeftRecursive
    exact Statement.parses_iff ranks

/-- Rules that repeat each other: an item may be empty, and a part begins with a comma. -/
def Grammar.itemsAndParts : Grammar :=
  ofRules [helper "item" [maybe [word "MARK"], manyUnder "parts" "part"] [],
    helper "part" [.literal ",", manyUnder "items" "item"] []]

/-- Repeating an item that may be empty ends, although its parts repeat items in turn. -/
theorem Grammar.matching_ends_itemsAndParts :
    ∃ found, itemsAndParts.Answers (manyUnder "items" "item") ["MARK", ",", ",", "MARK"]
      (some found) ∧ found.rest = [] := by
  have graded : itemsAndParts.IsGraded (fun name => name = "part")
      (fun name => if name = "item" then 1 else 0) := by decide
  have ends := (matching_ends.1 itemsAndParts _ graded.ranks).1
  have rest : (itemsAndParts.matches? (manyUnder "items" "item")
      ["MARK", ",", ",", "MARK"]).map Match.rest = some [] := by decide +kernel
  obtain ⟨found, matched, rest⟩ := Option.map_eq_some_iff.mp rest
  exact ⟨found, (ends _ _ _).mpr matched, rest⟩

end ReportLang
