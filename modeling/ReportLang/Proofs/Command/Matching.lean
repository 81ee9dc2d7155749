import ReportLang.Command.Parse
import ReportLang.Proofs.Result

/-!
# Matches and parsed statements

What single steps of matching capture, and when a statement is parsed: its first lexeme spells the
keyword of a rule that may start a statement, and the rule matches all of its lexemes.
-/

namespace ReportLang

namespace Match

/-- What a repeated match captures is what single matches capture. -/
theorem mem_repeated {matcher : Matcher} {input : List Lexeme} {item : Captures}
    (member : item ∈ (repeated matcher input).1) :
    ∃ start found, matcher start = some found ∧ found.captures = item := by
  induction input using repeated.induct matcher with
  | case1 input none =>
    rw [repeated, none] at member
    simp at member
  | case2 input found some empty =>
    rw [repeated, some] at member
    simp [empty] at member
  | case3 input found some captured shorter later rest split ih =>
    rw [repeated, some] at member
    simp only [captured, shorter, if_true, Bool.false_eq_true, if_false, List.mem_cons] at member
    rcases member with rfl | after
    · exact ⟨input, found, some, rfl⟩
    · exact ih after
  | case4 input found some captured longer =>
    rw [repeated, some] at member
    simp [captured, longer] at member

/-- A lexeme that is expected is read, and nothing is captured. -/
theorem read_of_expect {accepts : Lexeme → Bool} {input : List Lexeme} {found : Match}
    (matched : expect accepts input = some found) :
    ∃ lexeme, input = lexeme :: found.rest ∧ found.captures = .empty := by
  cases input with
  | nil => simp [expect] at matched
  | cons lexeme rest =>
    rw [expect] at matched
    split at matched
    · obtain rfl := Option.some.inj matched
      exact ⟨lexeme, rfl, rfl⟩
    · simp at matched

/-- A lexeme that is captured is read, and it is all that is captured. -/
theorem read_of_capture {name : String} {accepts : Lexeme → Bool} {input : List Lexeme}
    {found : Match} (matched : capture name accepts input = some found) :
    ∃ lexeme, input = lexeme :: found.rest ∧
      found.captures = .singleton name (.single lexeme) := by
  cases input with
  | nil => simp [capture] at matched
  | cons lexeme rest =>
    rw [capture] at matched
    split at matched
    · obtain rfl := Option.some.inj matched
      exact ⟨lexeme, rfl, rfl⟩
    · simp at matched

end Match

/-- A rule that is found by its name is one of the rules. -/
theorem Grammar.mem_table_of_find? {grammar : Grammar} {name : String} {rule : Rule}
    (found : grammar.find? name = some rule) : (Text.lower name, rule) ∈ grammar.table := by
  obtain ⟨before, after, split, _⟩ := List.lookup_eq_some_iff.mp found
  rw [split]
  exact List.mem_append_right _ List.mem_cons_self

/-- A statement is parsed exactly when a rule for statements has its first lexeme as its name and
matches all of its lexemes. -/
theorem Statement.parse_eq_ok_iff {grammar : Grammar} {statement : Statement} {command : Command} :
    statement.parse grammar = .ok command ↔
      ∃ first rule captures, statement.fullLexemes.head? = some first ∧
        grammar.find? (Text.lower first) = some rule ∧ rule.isStatement = true ∧
        grammar.matches? rule.node statement.fullLexemes = some ⟨captures, []⟩ ∧
        command = ⟨Text.lower first, captures⟩ := by
  constructor
  · intro parsed
    simp only [Statement.parse] at parsed
    split at parsed
    · simp at parsed
    · rename_i first starts
      split at parsed
      · simp at parsed
      · rename_i node defined
        obtain ⟨rule, found, rfl⟩ := Option.map_eq_some_iff.mp defined
        obtain ⟨found, isStatement⟩ := Option.filter_eq_some_iff.mp found
        split at parsed
        · simp at parsed
        · rename_i matched taken
          obtain ⟨captures, rest⟩ := matched
          split at parsed
          · rename_i ended
            obtain rfl := ended
            obtain rfl := Except.ok.inj parsed
            exact ⟨first, rule, captures, starts, found, isStatement, taken, rfl⟩
          · simp at parsed
  · rintro ⟨first, rule, captures, starts, found, isStatement, taken, rfl⟩
    have defined : grammar.statementRule? (Text.lower first) = some rule.node := by
      rw [Grammar.statementRule?, found, Option.filter_some, if_pos isStatement, Option.map_some]
    simp only [Statement.parse, starts, defined, taken]

/-- Every parsed command is that of one of the statements. -/
theorem Statement.exists_of_mem_parseAll {grammar : Grammar} {statements : List Statement}
    {commands : List Command} (parsed : Statement.parseAll grammar statements = .ok commands)
    {command : Command} (member : command ∈ commands) :
    ∃ statement ∈ statements, statement.parse grammar = .ok command :=
  Result.exists_of_mem_mapM parsed member

end ReportLang
