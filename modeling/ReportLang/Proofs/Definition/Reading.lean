import ReportLang.Proofs.Definition.Syntax
import ReportLang.Proofs.Result

/-!
# Reading definitions

Reading the lexemes of a written body yields what the body stands for, and whatever is read without
a failure is a written body. While lexemes are read, every level holds choices, except that bars may
stand last in it: `LevelReads` says so for one level and `Progress.Reads` for all that are open. A
bar that has no part on one of its sides stays where it is until a part or the end of the level
makes it a failure.
-/

namespace ReportLang.Definition

/-- Whether no bar stands last in a level. -/
def EndsInPart (level : List Item) : Prop :=
  level.head? ≠ some .bar

/-- Which lexemes have been read into a level: choices, with bars after them that wait for a
part. -/
inductive LevelReads : List Item → List Lexeme → Prop where
  /-- Nothing has been read. -/
  | nothing : LevelReads [] []
  /-- A choice after others. -/
  | choice {level : List Item} {read : List Lexeme} (before : LevelReads level read)
    (ends : EndsInPart level) (choice : Choice) :
    LevelReads (.node choice.node :: level) (read ++ choice.lexemes)
  /-- A bar. -/
  | bar {level : List Item} {read : List Lexeme} (before : LevelReads level read) :
    LevelReads (.bar :: level) (read ++ ["|"])

/-- Which lexemes have been read in all: those of each open level, with the opening marks between
them. -/
inductive Progress.Reads : Progress → List Lexeme → Prop where
  /-- No bracket is open. -/
  | outermost {level : List Item} {read : List Lexeme} (own : LevelReads level read) :
    Progress.Reads ⟨level, []⟩ read
  /-- A bracket is open. -/
  | inside {level before : List Item} {outer : List (Bracket × List Item)}
    {read inner : List Lexeme} (bracket : Bracket) (around : Progress.Reads ⟨before, outer⟩ read)
    (own : LevelReads level inner) :
    Progress.Reads ⟨level, (bracket, before) :: outer⟩ (read ++ bracket.opener :: inner)

section Levels

variable {level next : List Item} {read : List Lexeme}

/-- No bar stands last in a level without items. -/
theorem endsInPart_nil : EndsInPart [] := nofun

/-- No bar stands last where a part does. -/
theorem endsInPart_node (node : Node) (level : List Item) : EndsInPart (.node node :: level) :=
  nofun

/-- A part that is added where no bar waits is put last. -/
theorem append_of_endsInPart (ends : EndsInPart level) (node : Node) :
    append node level = .ok (.node node :: level) := by
  cases level with
  | nil => rfl
  | cons item rest =>
    cases item with
    | node previous => rfl
    | bar => exact absurd rfl ends

/-- A part that is added after a bar is an alternative to the part before the bar. -/
theorem append_bar {previous : Node} {rest : List Item} (ends : EndsInPart rest) (node : Node) :
    append node (.bar :: .node previous :: rest) =
      .ok (.node (.alternation previous node) :: rest) := by
  rw [append, append_of_endsInPart ends]

/-- A part that is added without a failure is read after what the level had read. -/
theorem LevelReads.append (part : Part) (reads : LevelReads level read)
    (added : Definition.append part.node level = .ok next) :
    LevelReads next (read ++ part.lexemes) := by
  cases reads with
  | nothing =>
    obtain rfl := Except.ok.inj added
    exact .choice .nothing endsInPart_nil (.only part)
  | choice before ends choice =>
    obtain rfl := Except.ok.inj added
    exact .choice (.choice before ends choice) (endsInPart_node _ _) (.only part)
  | bar before =>
    cases before with
    | nothing => simp [Definition.append] at added
    | bar before => simp [Definition.append] at added
    | choice before ends choice =>
      rw [append_bar ends] at added
      obtain rfl := Except.ok.inj added
      have extended := LevelReads.choice before ends (.or choice part)
      rw [Choice.lexemes, Choice.node] at extended
      simpa using extended

/-- A level is closed by closing what stands before its last item and adding that item. -/
theorem close_cons (item : Item) (level : List Item) :
    close (item :: level) = close level >>= fun nodes =>
      match item with
      | .node node => .ok (nodes ++ [node])
      | .bar => .error .nothingRight := by
  unfold close
  rw [List.reverse_cons, List.mapM_append]
  congr 1
  funext nodes
  cases item with
  | node node => rfl
  | bar => rfl

/-- A level that is closed without a failure has read choices, and it is closed to what they stand
for. -/
theorem LevelReads.close {nodes : List Node} (reads : LevelReads level read)
    (closed : Definition.close level = .ok nodes) :
    ∃ choices, read = Choice.lexemesOfAll choices ∧ nodes = Choice.nodes choices := by
  induction reads generalizing nodes with
  | nothing =>
    obtain rfl := Except.ok.inj closed
    exact ⟨[], rfl, rfl⟩
  | choice _ _ choice ih =>
    rw [close_cons] at closed
    obtain ⟨earlier, inner, last⟩ := Result.bind_eq_ok.mp closed
    obtain rfl := Except.ok.inj last
    obtain ⟨choices, rfl, rfl⟩ := ih inner
    refine ⟨choices ++ [choice], ?_, ?_⟩
    · simp [Choice.lexemesOfAll_append, Choice.lexemesOfAll]
    · simp [Choice.nodes_append, Choice.nodes]
  | bar _ _ =>
    rw [close_cons] at closed
    obtain ⟨_, _, last⟩ := Result.bind_eq_ok.mp closed
    simp at last

end Levels

section Reading

variable {progress next ended : Progress} {level changed : List Item}
  {outer : List (Bracket × List Item)} {read more lexemes : List Lexeme} {lexeme : Lexeme}

/-- What is read into the innermost level is read after everything else. -/
theorem Progress.Reads.extend (reads : Progress.Reads ⟨level, outer⟩ read)
    (extended : ∀ own, LevelReads level own → LevelReads changed (own ++ more)) :
    Progress.Reads ⟨changed, outer⟩ (read ++ more) := by
  cases reads with
  | outermost own => exact .outermost (extended _ own)
  | inside bracket around own =>
    rw [List.append_assoc, List.cons_append]
    exact .inside bracket around (extended _ own)

/-- A bracket that is closed without a failure is read as a part of the level around it. -/
theorem Progress.Reads.closeBracket (reads : progress.Reads read)
    (closed : Definition.closeBracket lexeme progress = .ok next) :
    next.Reads (read ++ [lexeme]) := by
  cases reads with
  | outermost own => simp [Definition.closeBracket] at closed
  | @inside level before outer read inner bracket around own =>
    simp only [Definition.closeBracket] at closed
    split at closed
    · simp at closed
    · rename_i fits
      obtain rfl : bracket.closer = lexeme := Decidable.not_not.mp fits
      obtain ⟨nodes, inside, later⟩ := Result.bind_eq_ok.mp closed
      obtain ⟨changed, added, same⟩ := Result.bind_eq_ok.mp later
      obtain rfl := Except.ok.inj same
      obtain ⟨choices, rfl, rfl⟩ := own.close inside
      rw [← Part.node_enclosed] at added
      have whole := around.extend fun _ own => own.append (.enclosed bracket choices) added
      rw [Part.lexemes] at whole
      simpa using whole

/-- A lexeme that is read without a failure is read after those before it. -/
theorem Progress.Reads.step (reads : progress.Reads read)
    (stepped : Definition.step progress lexeme = .ok next) : next.Reads (read ++ [lexeme]) := by
  unfold Definition.step at stepped
  split at stepped
  · rename_i isOpener
    obtain rfl := Except.ok.inj stepped
    rw [isOpener]
    exact .inside .sequence reads .nothing
  split at stepped
  · rename_i isOpener
    obtain rfl := Except.ok.inj stepped
    rw [isOpener]
    exact .inside .optional reads .nothing
  split at stepped
  · exact reads.closeBracket stepped
  split at stepped
  · rename_i isBar
    obtain rfl := Except.ok.inj stepped
    rw [isBar]
    exact reads.extend fun _ own => .bar own
  · rename_i notBrace notBracket notCloser notBar
    obtain ⟨changed, added, same⟩ := Result.bind_eq_ok.mp stepped
    obtain rfl := Except.ok.inj same
    have plain : lexeme ∉ marks := by
      simp only [marks, List.mem_cons, List.not_mem_nil, or_false, not_or]
      exact ⟨notBrace, fun same => notCloser (.inl same), notBracket,
        fun same => notCloser (.inr same), notBar⟩
    exact reads.extend fun _ own => own.append (.word ⟨lexeme, plain⟩) added

/-- Lexemes that are read without a failure are read after those before them. -/
theorem Progress.Reads.foldlM (reads : progress.Reads read)
    (run : lexemes.foldlM Definition.step progress = .ok ended) :
    ended.Reads (read ++ lexemes) := by
  induction lexemes generalizing progress read with
  | nil =>
    obtain rfl := Except.ok.inj run
    rwa [List.append_nil]
  | cons lexeme rest ih =>
    rw [List.foldlM_cons] at run
    obtain ⟨next, stepped, later⟩ := Result.bind_eq_ok.mp run
    have all := ih (reads.step stepped) later
    rwa [List.append_assoc, List.singleton_append] at all

end Reading

section Writing

/-- A level that holds parts only is closed to these parts. -/
theorem close_nodes (nodes : List Node) : close (nodes.map Item.node).reverse = .ok nodes := by
  unfold close
  rw [List.reverse_reverse]
  induction nodes with
  | nil => rfl
  | cons node rest ih =>
    rw [List.map_cons, List.mapM_cons, ih]
    rfl

/-- The opening mark of a bracket opens a level. -/
theorem step_opener (bracket : Bracket) (progress : Progress) :
    step progress bracket.opener = .ok ⟨[], (bracket, progress.level) :: progress.outer⟩ := by
  cases bracket with
  | sequence => rfl
  | optional => rfl

/-- The closing mark of a bracket closes a level that holds parts only. -/
theorem step_closer (bracket : Bracket) (nodes : List Node) (level : List Item)
    (outer : List (Bracket × List Item)) :
    step ⟨(nodes.map Item.node).reverse, (bracket, level) :: outer⟩ bracket.closer =
      (append (bracket.close nodes) level).map fun changed => ⟨changed, outer⟩ := by
  have same : step ⟨(nodes.map Item.node).reverse, (bracket, level) :: outer⟩ bracket.closer =
      closeBracket bracket.closer ⟨(nodes.map Item.node).reverse, (bracket, level) :: outer⟩ := by
    cases bracket with
    | sequence => rfl
    | optional => rfl
  rw [same, closeBracket]
  simp only [ne_eq, not_true_eq_false, if_false, close_nodes]
  rfl

/-- A word is added as a part. -/
theorem step_word (word : Word) (level : List Item) (outer : List (Bracket × List Item)) :
    step ⟨level, outer⟩ word.lexeme =
      (append (wordNode word.lexeme) level).map fun changed => ⟨changed, outer⟩ := by
  have plain := word.plain
  simp only [marks, List.mem_cons, List.not_mem_nil, or_false, not_or] at plain
  obtain ⟨notBrace, notClosingBrace, notBracket, notClosingBracket, notBar⟩ := plain
  simp only [step, notBrace, notClosingBrace, notBracket, notClosingBracket, notBar, or_self,
    if_false]
  rfl

/-- A run of one step is that step. -/
theorem foldlM_step_singleton (lexeme : Lexeme) (progress : Progress) :
    [lexeme].foldlM step progress = step progress lexeme := by
  rw [List.foldlM_cons]
  exact bind_pure _

mutual

/-- Reading the lexemes of a part adds what it stands for. -/
theorem Part.foldlM_step (part : Part) (level : List Item) (outer : List (Bracket × List Item)) :
    part.lexemes.foldlM step ⟨level, outer⟩ =
      (append part.node level).map fun changed => ⟨changed, outer⟩ := by
  match part with
  | .word word => rw [Part.lexemes, foldlM_step_singleton, step_word, Part.node]
  | .enclosed bracket choices =>
    have inside := Choice.foldlM_step_all choices endsInPart_nil ((bracket, level) :: outer)
    rw [List.append_nil] at inside
    rw [Part.lexemes, Result.foldlM_cons_of_ok (step_opener bracket _),
      Result.foldlM_append_of_ok inside, foldlM_step_singleton, step_closer, Part.node_enclosed]

/-- Reading the lexemes of a choice where no bar waits puts what it stands for last. -/
theorem Choice.foldlM_step (choice : Choice) {level : List Item} (ends : EndsInPart level)
    (outer : List (Bracket × List Item)) :
    choice.lexemes.foldlM step ⟨level, outer⟩ = .ok ⟨.node choice.node :: level, outer⟩ := by
  match choice with
  | .only part =>
    rw [Choice.lexemes, part.foldlM_step, append_of_endsInPart ends]
    rfl
  | .or earlier last =>
    have bar : step ⟨.node earlier.node :: level, outer⟩ "|" =
        .ok ⟨.bar :: .node earlier.node :: level, outer⟩ := rfl
    rw [Choice.lexemes, Result.foldlM_append_of_ok (earlier.foldlM_step ends outer),
      Result.foldlM_cons_of_ok bar, last.foldlM_step, append_bar ends]
    rfl

/-- Reading the lexemes of choices where no bar waits puts what they stand for last, in order. -/
theorem Choice.foldlM_step_all (choices : List Choice) {level : List Item}
    (ends : EndsInPart level) (outer : List (Bracket × List Item)) :
    (Choice.lexemesOfAll choices).foldlM step ⟨level, outer⟩ =
      .ok ⟨((Choice.nodes choices).map Item.node).reverse ++ level, outer⟩ := by
  match choices with
  | [] => rfl
  | choice :: rest =>
    rw [Choice.lexemesOfAll, Result.foldlM_append_of_ok (choice.foldlM_step ends outer),
      Choice.foldlM_step_all rest (endsInPart_node _ _), Choice.nodes]
    simp

end

end Writing

/-- A statement defines a rule exactly when its body is read, and the rule is under its keyword. -/
theorem ofStatement_eq_ok_iff {statement : Statement} {keyword : Lexeme} {rule : Rule} :
    ofStatement statement = .ok (keyword, rule) ↔
      statement.keyword? = some keyword ∧ ∃ node, body (bodyOf statement) = .ok node ∧
        rule = ⟨node, startsStatement keyword⟩ := by
  obtain ⟨lexemes⟩ := statement
  cases lexemes with
  | nil => simp [ofStatement, Statement.keyword?]
  | cons first rest =>
    simp only [ofStatement, bodyOf, Statement.keyword?, List.head?_cons, Option.some.injEq]
    cases body (if startsStatement first = true then first :: rest else rest) with
    | error imbalance => simp
    | ok node =>
      simp only [Except.ok.injEq, Prod.mk.injEq, exists_eq_left']
      constructor
      · rintro ⟨rfl, rfl⟩
        exact ⟨rfl, rfl⟩
      · rintro ⟨rfl, rfl⟩
        exact ⟨rfl, rfl⟩

end ReportLang.Definition
