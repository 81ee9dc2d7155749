import ReportLang.Grammar.Builtin
import ReportLang.Proofs.Command.Evaluation

/-!
# Left recursion

A grammar is not left-recursive if its rules have ranks that fall from a rule to every rule that
matching its body reaches before a lexeme is read. What is reached depends on the lexemes; a check
of the rules alone is enough, and the rules for report programs pass it.
-/

namespace ReportLang

namespace Grammar

/-- Matching a body against lexemes reaches the rule of a name before a lexeme is read. -/
inductive Reaches (grammar : Grammar) (input : List Lexeme) : Node → String → Prop where
  /-- A terminal reaches the rule it refers to. -/
  | reference {word : Terminal} {body : Node} (refers : grammar.body? word = some body) :
    Reaches grammar input (.terminal word) (Text.lower word.target)
  /-- What a call reaches is reached, if nothing is read before the call. -/
  | call {node child : Node} {name : String} (calls : grammar.Call node input child input)
    (reaches : Reaches grammar input child name) : Reaches grammar input node name

/-- Ranks fall from every rule to the rules that its body reaches before a lexeme is read. -/
def Ranks (grammar : Grammar) (rank : String → Nat) : Prop :=
  ∀ name body, grammar.rule? name = some body →
    ∀ input reached, grammar.Reaches input body reached → rank reached < rank (Text.lower name)

/-- No rule is reached again before a lexeme is read: the rules can be ranked. -/
def NonLeftRecursive (grammar : Grammar) : Prop :=
  ∃ rank, grammar.Ranks rank

variable {grammar : Grammar}

/-- A rule that is found is one of the rules. -/
theorem mem_table_of_rule? {name : String} {body : Node} (found : grammar.rule? name = some body) :
    ∃ rule, (Text.lower name, rule) ∈ grammar.table ∧ rule.node = body := by
  obtain ⟨rule, listed, rfl⟩ := Option.map_eq_some_iff.mp found
  exact ⟨rule, mem_table_of_find? listed, rfl⟩

/-- What is reached is the name of a rule. -/
theorem Reaches.mem_table {input : List Lexeme} {node : Node} {name : String}
    (reaches : grammar.Reaches input node name) : name ∈ grammar.table.map Prod.fst := by
  induction reaches with
  | reference refers =>
    obtain ⟨rule, member, _⟩ := mem_table_of_rule? (rule?_of_body? refers)
    exact List.mem_map_of_mem member
  | call _ _ ih => exact ih

end Grammar

section Check

variable (grammar : Grammar) (reading : String → Bool)

/-- Whether every match of a terminal reads a lexeme, given which rules always read one. -/
def Terminal.reads (word : Terminal) : Bool :=
  match word.role with
  | .flag | .repetition => false
  | .position => true
  | .word => (grammar.body? word).isNone || reading (Text.lower word.target)

/-- The rule that a terminal refers to. -/
def Terminal.starters (word : Terminal) : List String :=
  if (grammar.body? word).isSome then [Text.lower word.target] else []

namespace Node

mutual

/-- Whether every match of a body reads a lexeme, given which rules always read one. -/
def reads : Node → Bool
  | .literal _ => true
  | .terminal word => word.reads grammar reading
  | .sequence nodes => readsAny nodes
  | .optional _ => false
  | .alternation left right => reads left && reads right

/-- Whether every match of one of several bodies reads a lexeme. -/
def readsAny : List Node → Bool
  | [] => false
  | node :: rest => reads node || readsAny rest

end

mutual

/-- The rules that a body refers to where nothing may have been read yet. -/
def starters : Node → List String
  | .literal _ => []
  | .terminal word => word.starters grammar
  | .sequence nodes => startersOfAll nodes
  | .optional inner => starters inner
  | .alternation left right => starters left ++ starters right

/-- The rules that bodies one after the other refer to where nothing may have been read yet. -/
def startersOfAll : List Node → List String
  | [] => []
  | node :: rest =>
    starters node ++ if reads grammar reading node then [] else startersOfAll rest

end

end Node

/-- Whether the rules that always read a lexeme are marked rightly, and ranks fall from every rule
to those it refers to where nothing may have been read yet. -/
def Grammar.IsGraded (rank : String → Nat) : Prop :=
  ∀ entry ∈ grammar.table,
    (reading entry.1 = true → entry.2.node.reads grammar reading = true) ∧
      ∀ name ∈ entry.2.node.starters grammar reading, rank name < rank entry.1

/-- Whether a rank grades a grammar can be decided. -/
instance (rank : String → Nat) : Decidable (grammar.IsGraded reading rank) :=
  inferInstanceAs (Decidable (∀ entry ∈ grammar.table, _ ∧ ∀ name ∈ _, _))

end Check

section Soundness

variable {grammar : Grammar} {reading : String → Bool} {rank : String → Nat}

/-- A word that refers to a rule always reads a lexeme if the rule does. -/
theorem Terminal.reads_of_body? {word : Terminal} {body : Node} (role : word.role = .word)
    (refers : grammar.body? word = some body) :
    word.reads grammar reading = reading (Text.lower word.target) := by
  simp [Terminal.reads, role, refers]

/-- A terminal that refers to a rule has it as its only starter. -/
theorem Terminal.mem_starters_of_body? {word : Terminal} {body : Node}
    (refers : grammar.body? word = some body) :
    Text.lower word.target ∈ (Node.terminal word).starters grammar reading := by
  simp [Node.starters, Terminal.starters, refers]

namespace Grammar

/-- What the check says of the rule that a terminal refers to. -/
theorem IsGraded.of_body? (graded : grammar.IsGraded reading rank) {word : Terminal} {body : Node}
    (refers : grammar.body? word = some body) :
    (reading (Text.lower word.target) = true → body.reads grammar reading = true) ∧
      ∀ name ∈ body.starters grammar reading, rank name < rank (Text.lower word.target) := by
  obtain ⟨rule, member, rfl⟩ := mem_table_of_rule? (rule?_of_body? refers)
  exact graded _ member

mutual

/-- A body that is found to read a lexeme reads one. -/
theorem Answers.shrinks (graded : grammar.IsGraded reading rank) {node : Node}
    {input : List Lexeme} {result : Option Match} (answers : grammar.Answers node input result)
    (reads : node.reads grammar reading = true) :
    ∀ found ∈ result, found.rest.length < input.length :=
  match answers with
  | .literal read => fun found matched => by
    obtain ⟨lexeme, rfl, _⟩ := Match.read_of_expect (read.trans matched)
    exact Nat.lt_succ_self _
  | .alone free read => fun found matched => by
    rcases Terminal.input_of_alone (read.trans matched) with ⟨role, _⟩ | ⟨lexeme, rfl⟩
    · simp [Node.reads, Terminal.reads, role] at reads
    · exact Nat.lt_succ_self _
  | .reference role refers inner => fun found matched => by
    obtain ⟨own, taken, rfl⟩ := Option.map_eq_some_iff.mp matched
    rw [Terminal.rest_keep]
    have marked := (Terminal.reads_of_body? role refers).symm.trans reads
    exact inner.shrinks graded ((graded.of_body? refers).1 marked) own taken
  | .repetition role _ _ => by simp [Node.reads, Terminal.reads, role] at reads
  | .sequence parts => parts.shrinks graded reads
  | .present _ => by simp [Node.reads] at reads
  | .absent _ => by simp [Node.reads] at reads
  | .left taken => by
    rw [Node.reads, Bool.and_eq_true] at reads
    exact taken.shrinks graded reads.1
  | .right _ tried => by
    rw [Node.reads, Bool.and_eq_true] at reads
    exact tried.shrinks graded reads.2

/-- Bodies one of which is found to read a lexeme read one. -/
theorem AnswersAll.shrinks (graded : grammar.IsGraded reading rank) {nodes : List Node}
    {captures : Captures} {input : List Lexeme} {result : Option Match}
    (answers : grammar.AnswersAll nodes captures input result)
    (reads : Node.readsAny grammar reading nodes = true) :
    ∀ found ∈ result, found.rest.length < input.length :=
  match answers with
  | .done _ _ => by simp [Node.readsAny] at reads
  | .stuck _ => fun found matched => by simp at matched
  | .next taken later => fun found matched => by
    have kept := (later.suffix found matched).length_le
    rw [Node.readsAny, Bool.or_eq_true] at reads
    rcases reads with here | after
    · have shorter := taken.shrinks graded here _ rfl
      omega
    · have shorter := later.shrinks graded after found matched
      have bounded := (taken.suffix _ rfl).length_le
      omega

end

/-- Parts that read nothing hide no rule that a later part refers to. -/
theorem mem_startersOfAll {node : Node} {before after : List Node} {name : String}
    (member : name ∈ node.starters grammar reading)
    (silent : Node.readsAny grammar reading before = false) :
    name ∈ Node.startersOfAll grammar reading (before ++ node :: after) := by
  induction before with
  | nil => exact List.mem_append_left _ member
  | cons first rest ih =>
    rw [Node.readsAny, Bool.or_eq_false_iff] at silent
    rw [List.cons_append, Node.startersOfAll, if_neg (by simp [silent.1])]
    exact List.mem_append_right _ (ih silent.2)

/-- What a call refers to before a lexeme is read, the caller refers to, unless the call is that of
a rule. -/
theorem Call.starters (graded : grammar.IsGraded reading rank) {node child : Node}
    {input start : List Lexeme} (calls : grammar.Call node input child start)
    (same : start = input) {name : String} (member : name ∈ child.starters grammar reading) :
    ∃ starter ∈ node.starters grammar reading, name = starter ∨ rank name < rank starter := by
  have ofRule : ∀ {word : Terminal}, grammar.body? word = some child →
      ∃ starter ∈ (Node.terminal word).starters grammar reading,
        name = starter ∨ rank name < rank starter := by
    intro word refers
    have falls := (graded.of_body? refers).2 name member
    exact ⟨_, Terminal.mem_starters_of_body? refers, .inr falls⟩
  cases calls with
  | reference role refers => exact ofRule refers
  | repetition role refers => exact ofRule refers
  | part taken =>
    refine ⟨name, mem_startersOfAll member (Bool.eq_false_iff.mpr fun reads => ?_), .inl rfl⟩
    have shorter := taken.shrinks graded reads _ rfl
    rw [same] at shorter
    exact Nat.lt_irrefl _ shorter
  | optional => exact ⟨name, member, .inl rfl⟩
  | left => exact ⟨name, List.mem_append_left _ member, .inl rfl⟩
  | right => exact ⟨name, List.mem_append_right _ member, .inl rfl⟩

/-- What is reached before a lexeme is read is referred to there, or ranks below what is. -/
theorem Reaches.starters (graded : grammar.IsGraded reading rank) {input : List Lexeme}
    {node : Node} {name : String} (reaches : grammar.Reaches input node name) :
    ∃ starter ∈ node.starters grammar reading, name = starter ∨ rank name < rank starter := by
  induction reaches with
  | reference refers => exact ⟨_, Terminal.mem_starters_of_body? refers, .inl rfl⟩
  | call calls _ ih =>
    obtain ⟨inner, member, below⟩ := ih
    obtain ⟨starter, listed, above⟩ := calls.starters graded rfl member
    refine ⟨starter, listed, ?_⟩
    rcases below with rfl | below
    · exact above
    · rcases above with rfl | above
      · exact .inr below
      · exact .inr (Nat.lt_trans below above)

/-- A grammar whose rules pass the check is not left-recursive. -/
theorem IsGraded.ranks (graded : grammar.IsGraded reading rank) : grammar.Ranks rank := by
  intro name body found input reached reaches
  obtain ⟨rule, member, rfl⟩ := mem_table_of_rule? found
  obtain ⟨starter, listed, below⟩ := reaches.starters graded
  have falls := (graded _ member).2 starter listed
  rcases below with rfl | below
  · exact falls
  · exact Nat.lt_trans below falls

end Grammar

end Soundness

namespace Grammar

/-- The ranks of the rules for report programs: a condition begins with a clause, and no other rule
begins with a rule. -/
def builtinRank (name : String) : Nat :=
  if name = "cond" then 1 else 0

/-- The grammar of report programs is not left-recursive. -/
theorem builtin_nonLeftRecursive : builtin.NonLeftRecursive :=
  have graded : builtin.IsGraded (fun _ => true) builtinRank := by decide
  ⟨builtinRank, graded.ranks⟩

end Grammar

end ReportLang
