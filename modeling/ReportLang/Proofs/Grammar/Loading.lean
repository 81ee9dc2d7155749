import Mathlib.Data.List.Induction
import ReportLang.Proofs.Command.Evaluation
import ReportLang.Proofs.Definition.Reading
import ReportLang.Proofs.Result
import ReportLang.Proofs.Text.LowerCase

/-!
# Loaded grammars

A grammar is loaded from a description by adding its definitions one after the other. What the table
and the list of names hold at any time is said of the definitions added so far (`Gathers`): each
name has the alternatives of all its definitions, and stands in the list where it was first defined.
A description that is read is loaded exactly when every reference in it is to a name that it defines
somewhere; so in a loaded grammar no reference that matching meets is without its rule.
-/

namespace ReportLang

/-- What has to name a rule: a repetition, or a named word that is no keyword. -/
theorem Terminal.isReference_iff {word : Terminal} :
    word.isReference = true ↔
      word.role = .repetition ∨ word.role = .word ∧ word.named = true ∧ word.isKeyword = false := by
  unfold isReference
  cases word.role <;> simp

/-- The name under which a definition is kept. -/
def Definition.name (definition : Lexeme × Rule) : String :=
  Text.lower definition.1

/-- The rule that definitions make together: each is an alternative to those before it. -/
def Rule.joined? : List (Lexeme × Rule) → Option Rule
  | [] => none
  | first :: rest => some (rest.foldl (fun rule definition => rule.orElse definition.2) first.2)

/-- A later definition is an alternative to all earlier ones. -/
theorem Rule.joined?_concat (definitions : List (Lexeme × Rule)) (last : Lexeme × Rule) :
    Rule.joined? (definitions ++ [last]) =
      some ((Rule.joined? definitions).elim last.2 fun held => held.orElse last.2) := by
  cases definitions with
  | nil => rfl
  | cons first rest => simp [joined?]

/-- The body of the rule has the bodies of the definitions as alternatives, grouped to the left, and
the rule may start a statement if one of them may. -/
theorem Rule.joined?_cons (first : Lexeme × Rule) (rest : List (Lexeme × Rule)) :
    Rule.joined? (first :: rest) =
      some ⟨(rest.map fun definition => definition.2.node).foldl .alternation first.2.node,
        (first :: rest).any fun definition => definition.2.isStatement⟩ := by
  have joins : ∀ start : Rule,
      rest.foldl (fun rule definition => rule.orElse definition.2) start =
        ⟨(rest.map fun definition => definition.2.node).foldl .alternation start.node,
          start.isStatement || rest.any fun definition => definition.2.isStatement⟩ := by
    induction rest with
    | nil => intro start; simp
    | cons definition rest ih =>
      intro start
      rw [List.foldl_cons, ih (start.orElse definition.2)]
      simp [Rule.orElse, Bool.or_assoc]
  rw [joined?, joins, List.any_cons]

/-- A terminal of the rule is one of a definition. -/
theorem Rule.mem_terminals_joined? {definitions : List (Lexeme × Rule)} {rule : Rule}
    (joined : Rule.joined? definitions = some rule) (word : Terminal) :
    word ∈ rule.node.terminals ↔
      ∃ definition ∈ definitions, word ∈ definition.2.node.terminals := by
  induction definitions using List.reverseRecOn generalizing rule with
  | nil => simp [joined?] at joined
  | append_singleton definitions last ih =>
    rw [joined?_concat] at joined
    obtain rfl := Option.some.inj joined
    cases before : Rule.joined? definitions with
    | none =>
      obtain rfl : definitions = [] := by
        cases definitions with
        | nil => rfl
        | cons first rest => simp [joined?] at before
      simp
    | some held => simp [Rule.orElse, Node.terminals, ih before, or_and_right, exists_or]

namespace Grammar

/-- The definitions of a name, in order. -/
def definitionsOf (definitions : List (Lexeme × Rule)) (name : String) : List (Lexeme × Rule) :=
  definitions.filter fun definition => Definition.name definition = name

/-- What a grammar holds after definitions have been added. -/
structure Gathers (grammar : Grammar) (definitions : List (Lexeme × Rule)) : Prop where
  /-- Each name has the rule that all its definitions make together. -/
  table : ∀ name, grammar.table.lookup name = Rule.joined? (definitionsOf definitions name)
  /-- The names stand in the order in which they were first defined. -/
  names : grammar.names = (definitions.map Definition.name).eraseDups
  /-- Each name stands there once. -/
  nodup : grammar.names.Nodup

section Gathers

variable {grammar : Grammar} {definitions : List (Lexeme × Rule)}

/-- The grammar without rules gathers no definitions. -/
theorem gathers_empty : empty.Gathers [] where
  table _ := rfl
  names := by simp [empty]
  nodup := List.nodup_nil

/-- Taking out the entries of a name leaves the others as they are. -/
theorem lookup_filter_of_ne {table : List (String × Rule)} {name other : String}
    (differ : other ≠ name) :
    (table.filter fun entry => entry.1 ≠ name).lookup other = table.lookup other := by
  induction table with
  | nil => rfl
  | cons entry rest ih =>
    obtain ⟨key, rule⟩ := entry
    rw [List.filter_cons, List.lookup_cons]
    by_cases own : key = name
    · subst own
      have apart : (other == key) = false := by simpa using differ
      simpa [apart] using ih
    · rw [if_pos (by simpa using own), List.lookup_cons, ih]

/-- A definition changes the rule of its own name only: it is the last alternative of it. -/
theorem lookup_define (grammar : Grammar) (keyword : Lexeme) (rule : Rule) (name : String) :
    (grammar.define keyword rule).table.lookup name =
      if name = Text.lower keyword then
        some ((grammar.table.lookup name).elim rule fun held => held.orElse rule)
      else grammar.table.lookup name := by
  by_cases own : name = Text.lower keyword
  · subst own
    rw [if_pos rfl]
    cases held : grammar.table.lookup (Text.lower keyword) with
    | none => simp [define, held]
    | some first => simp [define, held]
  · have apart : (name == Text.lower keyword) = false := by simpa using own
    rw [if_neg own]
    cases held : grammar.table.lookup (Text.lower keyword) with
    | none => simp [define, held, List.lookup_cons, apart]
    | some first =>
      simp only [define, held, List.lookup_cons, apart]
      exact lookup_filter_of_ne own

/-- A definition adds its name at the end if it is new. -/
theorem names_define (grammar : Grammar) (keyword : Lexeme) (rule : Rule) :
    (grammar.define keyword rule).names =
      if (grammar.table.lookup (Text.lower keyword)).isSome then grammar.names
      else grammar.names ++ [Text.lower keyword] := by
  cases held : grammar.table.lookup (Text.lower keyword) with
  | none => simp [define, held]
  | some first => simp [define, held]

/-- A name has a rule exactly when it has a definition. -/
theorem Gathers.isSome_lookup (gathers : grammar.Gathers definitions) (name : String) :
    (grammar.table.lookup name).isSome ↔ name ∈ definitions.map Definition.name := by
  rw [gathers.table]
  cases own : definitionsOf definitions name with
  | nil =>
    have free := List.filter_eq_nil_iff.mp own
    simpa [Rule.joined?, eq_comm] using free
  | cons first rest =>
    have member : first ∈ definitionsOf definitions name := own ▸ List.mem_cons_self
    obtain ⟨among, named⟩ := List.mem_filter.mp member
    have same : Definition.name first = name := by simpa using named
    simpa [Rule.joined?] using ⟨first.1, first.2, among, same⟩

/-- Adding a definition adds it to the definitions that a grammar holds. -/
theorem Gathers.define (gathers : grammar.Gathers definitions) (definition : Lexeme × Rule) :
    (grammar.define definition.1 definition.2).Gathers (definitions ++ [definition]) where
  table name := by
    rw [lookup_define, gathers.table]
    by_cases own : name = Text.lower definition.1
    · have more : definitionsOf (definitions ++ [definition]) name =
          definitionsOf definitions name ++ [definition] := by
        simp [definitionsOf, own, Definition.name]
      rw [if_pos own, more, Rule.joined?_concat]
    · have same : definitionsOf (definitions ++ [definition]) name =
          definitionsOf definitions name := by
        simp [definitionsOf, Definition.name, Ne.symm own]
      rw [if_neg own, same]
  names := by
    have known := gathers.isSome_lookup (Text.lower definition.1)
    rw [names_define, gathers.names, List.map_append, List.eraseDups_append]
    by_cases held : Text.lower definition.1 ∈ definitions.map Definition.name
    · rw [if_pos (known.mpr held)]
      simp [List.removeAll, Definition.name, held]
    · rw [if_neg (mt known.mp held)]
      simp [List.removeAll, Definition.name, held, List.eraseDups_cons]
  nodup := by
    have known := gathers.isSome_lookup (Text.lower definition.1)
    rw [names_define]
    split
    · exact gathers.nodup
    · rename_i unknown
      have new : Text.lower definition.1 ∉ grammar.names := by
        rw [gathers.names, List.mem_eraseDups]
        exact mt known.mpr unknown
      simpa [List.nodup_append] using ⟨gathers.nodup, fun name member same => new (same ▸ member)⟩

/-- Adding definitions one after the other, a grammar holds them all. -/
theorem Gathers.foldl (gathers : grammar.Gathers definitions) (later : List (Lexeme × Rule)) :
    (later.foldl (fun grammar definition => grammar.define definition.1 definition.2)
      grammar).Gathers (definitions ++ later) := by
  induction later generalizing grammar definitions with
  | nil => simpa using gathers
  | cons definition later ih => simpa using ih (gathers.define definition)

/-- The names are those of the definitions, and each has a rule. -/
theorem Gathers.mem_names (gathers : grammar.Gathers definitions) {name : String} :
    name ∈ grammar.names ↔ (grammar.table.lookup name).isSome := by
  rw [gathers.names, List.mem_eraseDups, gathers.isSome_lookup]

/-- Names with a rule are in lower case, so that they are found by themselves. -/
theorem Gathers.lower_of_mem_names (gathers : grammar.Gathers definitions) {name : String}
    (member : name ∈ grammar.names) : Text.lower name = name := by
  rw [gathers.names, List.mem_eraseDups] at member
  obtain ⟨definition, _, rfl⟩ := List.mem_map.mp member
  exact Text.lower_lower _

/-- The rules are listed by their names, in the same order. -/
theorem Gathers.names_rules (gathers : grammar.Gathers definitions) :
    grammar.rules.map Prod.fst = grammar.names := by
  have listed : ∀ names : List String, (∀ name ∈ names, (grammar.table.lookup name).isSome) →
      (names.filterMap fun name => (grammar.table.lookup name).map fun rule => (name, rule)).map
        Prod.fst = names := by
    intro names known
    induction names with
    | nil => rfl
    | cons name rest ih =>
      obtain ⟨here, later⟩ := List.forall_mem_cons.mp known
      obtain ⟨rule, held⟩ := Option.isSome_iff_exists.mp here
      rw [List.filterMap_cons, held, Option.map_some, List.map_cons, ih later]
  exact listed grammar.names fun name member => gathers.mem_names.mp member

/-- A rule is listed with a name exactly when it is found by the name in lower case. -/
theorem Gathers.mem_rules (gathers : grammar.Gathers definitions) {name : String} {rule : Rule} :
    (name, rule) ∈ grammar.rules ↔ Text.lower name = name ∧ grammar.find? name = some rule := by
  have listed : (name, rule) ∈ grammar.rules ↔
      name ∈ grammar.names ∧ grammar.table.lookup name = some rule := by
    simp only [rules, List.mem_filterMap, Option.map_eq_some_iff, Prod.mk.injEq]
    constructor
    · rintro ⟨_, member, _, held, rfl, rfl⟩
      exact ⟨member, held⟩
    · rintro ⟨member, held⟩
      exact ⟨name, member, rule, held, rfl, rfl⟩
  rw [listed, find?]
  constructor
  · rintro ⟨member, held⟩
    have lower := gathers.lower_of_mem_names member
    exact ⟨lower, lower.symm ▸ held⟩
  · rintro ⟨lower, held⟩
    rw [lower] at held
    exact ⟨gathers.mem_names.mpr (held ▸ rfl), held⟩

/-- What is found by a name is what its definitions make together. -/
theorem Gathers.find? (gathers : grammar.Gathers definitions) (name : String) :
    grammar.find? name = Rule.joined? (definitionsOf definitions (Text.lower name)) :=
  gathers.table _

end Gathers

/-- References are resolved exactly when each of those in the rules names a rule. -/
theorem checkReferences_eq_ok_iff {grammar : Grammar} :
    grammar.checkReferences = .ok () ↔
      ∀ entry ∈ grammar.rules, ∀ word ∈ entry.2.node.terminals, word.isReference = true →
        (grammar.find? word.target).isSome := by
  have resolved : ∀ rule : Rule, grammar.unresolved? rule = none ↔
      ∀ word ∈ rule.node.terminals, word.isReference = true →
        (grammar.find? word.target).isSome := by
    intro rule
    simp [unresolved?, List.find?_eq_none, Option.isSome_iff_ne_none]
  unfold checkReferences
  split
  · rename_i keyword word first
    obtain ⟨entry, member, missing⟩ := List.exists_of_findSome?_eq_some first
    obtain ⟨found, here, _⟩ := Option.map_eq_some_iff.mp missing
    refine ⟨fun same => by simp at same, fun all => ?_⟩
    simp [(resolved entry.2).mpr (all entry member)] at here
  · rename_i none
    refine ⟨fun _ entry member => ?_, fun _ => rfl⟩
    have here := List.findSome?_eq_none_iff.mp none entry member
    exact (resolved entry.2).mp (Option.map_eq_none_iff.mp here)

/-- Statements are added exactly when each of them defines a rule; they are then added one after the
other. -/
theorem foldlM_defineStatement_eq_ok_iff {statements : List Statement} {start grammar : Grammar} :
    statements.foldlM defineStatement start = .ok grammar ↔
      ∃ definitions, statements.mapM Definition.ofStatement = .ok definitions ∧
        definitions.foldl (fun held definition => held.define definition.1 definition.2) start =
          grammar := by
  induction statements generalizing start with
  | nil => simp [pure, Except.pure]
  | cons statement rest ih =>
    rw [List.foldlM_cons, List.mapM_cons]
    cases made : Definition.ofStatement statement with
    | error failure => simp [defineStatement, made, bind, Except.bind]
    | ok definition =>
      have goesOn := @ih (start.define definition.1 definition.2)
      simp only [defineStatement, made, bind, Except.bind] at goesOn ⊢
      rw [goesOn]
      cases rest.mapM Definition.ofStatement with
      | error failure => simp
      | ok later => simp [pure, Except.pure]

/-- A description is read as definitions. -/
def Describes (text : String) (definitions : List (Lexeme × Rule)) : Prop :=
  ∃ lexemes statements, Lexeme.scan .grammar text = .ok lexemes ∧
    Statement.segment .grammar lexemes = .ok statements ∧
    statements.mapM Definition.ofStatement = .ok definitions

/-- A definition that is read may start a statement if its keyword is in upper case. -/
theorem Describes.isStatement {text : String} {definitions : List (Lexeme × Rule)}
    (described : Describes text definitions) {definition : Lexeme × Rule}
    (member : definition ∈ definitions) :
    definition.2.isStatement = decide (Text.upper definition.1 = definition.1) := by
  obtain ⟨_, statements, _, _, made⟩ := described
  obtain ⟨statement, _, defined⟩ := Result.exists_of_mem_mapM made member
  obtain ⟨_, node, _, same⟩ := Definition.ofStatement_eq_ok_iff.mp defined
  rw [same, Definition.startsStatement]

/-- The rule of a name has the bodies of the definitions of the name as alternatives, and may start
a statement if one of them is in upper case. -/
theorem Describes.joined?_eq_some_iff {text : String} {definitions : List (Lexeme × Rule)}
    (described : Describes text definitions) {name : String} {rule : Rule} :
    Rule.joined? (definitionsOf definitions name) = some rule ↔
      ∃ first rest, definitionsOf definitions name = first :: rest ∧
        rule = ⟨(rest.map fun definition => definition.2.node).foldl .alternation first.2.node,
          (first :: rest).any fun definition => Text.upper definition.1 = definition.1⟩ := by
  cases own : definitionsOf definitions name with
  | nil => simp [Rule.joined?]
  | cons first rest =>
    have cased : ((first :: rest).any fun definition => definition.2.isStatement) =
        (first :: rest).any fun definition => Text.upper definition.1 = definition.1 := by
      rw [Bool.eq_iff_iff, List.any_eq_true, List.any_eq_true]
      refine exists_congr fun definition => and_congr_right fun member => ?_
      have among : definition ∈ definitionsOf definitions name := own ▸ member
      rw [described.isStatement (List.mem_filter.mp among).1]
    rw [Rule.joined?_cons, cased]
    constructor
    · intro same
      exact ⟨first, rest, rfl, (Option.some.inj same).symm⟩
    · rintro ⟨_, _, same, rfl⟩
      obtain ⟨rfl, rfl⟩ := List.cons.inj same
      rfl

/-- Every repetition and every named word that is no keyword is to a name that is defined, before or
after. -/
def AreClosed (definitions : List (Lexeme × Rule)) : Prop :=
  ∀ definition ∈ definitions, ∀ word ∈ definition.2.node.terminals,
    (word.role = .repetition ∨
        word.role = .word ∧ word.named = true ∧ word.isKeyword = false) →
      ∃ other ∈ definitions, Text.lower other.1 = Text.lower word.target

/-- The grammar of definitions. -/
def gather (definitions : List (Lexeme × Rule)) : Grammar :=
  definitions.foldl (fun grammar definition => grammar.define definition.1 definition.2) empty

/-- The grammar of definitions gathers them. -/
theorem gathers_gather (definitions : List (Lexeme × Rule)) :
    (gather definitions).Gathers definitions :=
  gathers_empty.foldl definitions

/-- References are resolved exactly when all of them are to names that are defined. -/
theorem checkReferences_gather_iff (definitions : List (Lexeme × Rule)) :
    (gather definitions).checkReferences = .ok () ↔ AreClosed definitions := by
  have gathers := gathers_gather definitions
  have defined : ∀ target, ((gather definitions).find? target).isSome ↔
      ∃ other ∈ definitions, Text.lower other.1 = Text.lower target := by
    intro target
    rw [Grammar.find?, gathers.isSome_lookup]
    exact List.mem_map
  rw [checkReferences_eq_ok_iff]
  constructor
  · intro resolved definition member word inside reference
    obtain ⟨rule, held⟩ := Option.isSome_iff_exists.mp
      ((gathers.isSome_lookup _).mpr (List.mem_map_of_mem member))
    have found : (gather definitions).find? (Definition.name definition) = some rule := by
      rw [Grammar.find?, Definition.name, Text.lower_lower]
      exact held
    have listed := gathers.mem_rules.mpr ⟨Text.lower_lower definition.1, found⟩
    rw [gathers.table] at held
    have own : definition ∈ definitionsOf definitions (Definition.name definition) :=
      List.mem_filter.mpr ⟨member, by simp⟩
    have among := (Rule.mem_terminals_joined? held word).mpr ⟨definition, own, inside⟩
    exact (defined _).mp (resolved _ listed word among (Terminal.isReference_iff.mpr reference))
  · rintro closed ⟨name, rule⟩ listed word inside reference
    have found := (gathers.mem_rules.mp listed).2
    rw [gathers.find?] at found
    obtain ⟨definition, own, among⟩ := (Rule.mem_terminals_joined? found word).mp inside
    have member := (List.mem_filter.mp own).1
    exact (defined _).mpr
      (closed definition member word among (Terminal.isReference_iff.mp reference))

/-- A description is loaded exactly when it is read as definitions that are closed; what is loaded
is the grammar of these definitions. -/
theorem load_eq_ok_iff {text : String} {grammar : Grammar} :
    load text = .ok grammar ↔
      ∃ definitions, Describes text definitions ∧ AreClosed definitions ∧
        gather definitions = grammar := by
  simp only [load, Result.bind_eq_ok, Result.mapError_eq_ok, foldlM_defineStatement_eq_ok_iff]
  constructor
  · rintro ⟨lexemes, scanned, statements, formed, _, ⟨definitions, made, rfl⟩, _, resolved, same⟩
    obtain rfl := Except.ok.inj same
    have closed := (checkReferences_gather_iff definitions).mp resolved
    exact ⟨definitions, ⟨lexemes, statements, scanned, formed, made⟩, closed, rfl⟩
  · rintro ⟨definitions, ⟨lexemes, statements, scanned, formed, made⟩, closed, rfl⟩
    have resolved := (checkReferences_gather_iff definitions).mpr closed
    exact ⟨lexemes, scanned, statements, formed, _, ⟨definitions, made, rfl⟩, (), resolved, rfl⟩

section Closure

variable {grammar : Grammar}

/-- Every reference in a rule is to a rule. -/
def IsClosed (grammar : Grammar) : Prop :=
  ∀ name body, grammar.rule? name = some body → ∀ word ∈ body.terminals,
    word.isReference = true → ∃ inner, grammar.rule? word.target = some inner

/-- The grammar of closed definitions is closed. -/
theorem Gathers.isClosed {definitions : List (Lexeme × Rule)}
    (gathers : grammar.Gathers definitions) (closed : AreClosed definitions) :
    grammar.IsClosed := by
  intro name body known word inside reference
  obtain ⟨rule, found, rfl⟩ := Option.map_eq_some_iff.mp known
  rw [gathers.find?] at found
  obtain ⟨definition, own, among⟩ := (Rule.mem_terminals_joined? found word).mp inside
  obtain ⟨other, member, same⟩ := closed definition (List.mem_filter.mp own).1 word among
    (Terminal.isReference_iff.mp reference)
  have defined : (grammar.find? word.target).isSome := by
    rw [Grammar.find?, gathers.isSome_lookup]
    exact List.mem_map.mpr ⟨other, member, same⟩
  obtain ⟨target, held⟩ := Option.isSome_iff_exists.mp defined
  exact ⟨target.node, by rw [rule?, held, Option.map_some]⟩

/-- A repetition of a rule that exists matches, with what its passes capture. -/
theorem matchesWithin?_repetition {word : Terminal} {inner : Node}
    (role : word.role = .repetition) (known : grammar.rule? word.target = some inner) (depth : Nat)
    (input : List Lexeme) :
    ∃ items rest, grammar.matchesWithin? (depth + 1) (.terminal word) input =
      some ⟨.singleton word.capture (.repeated items), rest⟩ := by
  rw [matchesWithin?, Node.matches?, Terminal.matches?, role]
  simp only [known, Option.map_some]
  exact ⟨_, _, rfl⟩

/-- A named word for a rule that exists matches what the rule matches, and captures what it
captures. -/
theorem matchesWithin?_named {word : Terminal} {inner : Node} (role : word.role = .word)
    (named : word.named = true) (free : word.isKeyword = false)
    (known : grammar.rule? word.target = some inner) (depth : Nat) (input : List Lexeme) :
    grammar.matchesWithin? (depth + 1) (.terminal word) input =
      (grammar.matchesWithin? depth inner input).map fun found =>
        ⟨.singleton word.capture (.nested found.captures), found.rest⟩ := by
  rw [matchesWithin?, Node.matches?, Terminal.matches?, role]
  simp only [free, known, named, Option.map_some, Bool.false_eq_true, if_false, if_true]
  cases grammar.matchesWithin? depth inner input <;> rfl

/-- A part of a sequence has terminals of the sequence only. -/
theorem terminals_subset_all {before after : List Node} {node : Node} :
    node.terminals ⊆ Node.terminalsOfAll (before ++ node :: after) := by
  induction before with
  | nil => exact List.subset_append_left _ _
  | cons first rest ih => exact List.Subset.trans ih (List.subset_append_right _ _)

/-- What a call meets are terminals of its caller or of a rule. -/
theorem Call.terminals {node child : Node} {input start : List Lexeme}
    (calls : grammar.Call node input child start) :
    child.terminals ⊆ node.terminals ∨ ∃ name, grammar.rule? name = some child := by
  cases calls with
  | reference role refers => exact .inr ⟨_, rule?_of_body? refers⟩
  | repetition role refers => exact .inr ⟨_, rule?_of_body? refers⟩
  | part taken => exact .inl terminals_subset_all
  | optional => exact .inl (List.Subset.refl _)
  | left => exact .inl (List.subset_append_left _ _)
  | right => exact .inl (List.subset_append_right _ _)

/-- The calls that matching a body against lexemes leads to, those of calls included. -/
def Meets (grammar : Grammar) : Node × List Lexeme → Node × List Lexeme → Prop :=
  Relation.ReflTransGen fun caller called => grammar.Call caller.1 caller.2 called.1 called.2

/-- Every terminal that matching a rule meets is one of a rule. -/
theorem Meets.terminals {start called : Node × List Lexeme} (meets : grammar.Meets start called)
    {name : String} (known : grammar.rule? name = some start.1) :
    ∃ other body, grammar.rule? other = some body ∧ called.1.terminals ⊆ body.terminals := by
  induction meets with
  | refl => exact ⟨name, start.1, known, List.Subset.refl _⟩
  | tail _ calls ih =>
    obtain ⟨other, body, held, among⟩ := ih
    rcases Call.terminals calls with inside | ⟨own, defined⟩
    · exact ⟨other, body, held, List.Subset.trans inside among⟩
    · exact ⟨own, _, defined, List.Subset.refl _⟩

end Closure

/-- A grammar is loaded from a description exactly when the description is read as definitions in
which every reference is to a name that one of them defines. What is loaded lists each name once, in
the order of first definition, and has a rule for just these names: the bodies of all definitions of
the name as alternatives, grouped to the left, which may start a statement if one of them is written
in upper case. Matching a rule meets only terminals of rules; a repetition among them never fails,
and a named reference is always matched by its rule and never captures a lexeme in its place. -/
theorem load_closed_and_faithful (text : String) :
    ((∃ grammar, load text = .ok grammar) ↔
      ∃ definitions, Describes text definitions ∧ AreClosed definitions) ∧
    (∀ grammar, load text = .ok grammar → ∃ definitions, Describes text definitions ∧
      grammar.rules.map Prod.fst = (definitions.map Definition.name).eraseDups ∧
      (grammar.rules.map Prod.fst).Nodup ∧
      (∀ name rule, (name, rule) ∈ grammar.rules ↔
        Text.lower name = name ∧ grammar.find? name = some rule) ∧
      (∀ name rule, grammar.find? name = some rule ↔
        ∃ first rest, definitionsOf definitions (Text.lower name) = first :: rest ∧
          rule = ⟨(rest.map fun definition => definition.2.node).foldl .alternation first.2.node,
            (first :: rest).any fun definition => Text.upper definition.1 = definition.1⟩)) ∧
    ∀ grammar, load text = .ok grammar → ∀ name body, grammar.rule? name = some body →
      ∀ input word start, grammar.Meets (body, input) (.terminal word, start) →
        (∃ other node, grammar.rule? other = some node ∧ word ∈ node.terminals) ∧
        ∀ depth,
          (word.role = .repetition → ∃ items rest,
            grammar.matchesWithin? (depth + 1) (.terminal word) start =
              some ⟨.singleton word.capture (.repeated items), rest⟩) ∧
          (word.role = .word → word.named = true → word.isKeyword = false →
            ∃ inner, grammar.rule? word.target = some inner ∧
              grammar.matchesWithin? (depth + 1) (.terminal word) start =
                (grammar.matchesWithin? depth inner start).map fun found =>
                  ⟨.singleton word.capture (.nested found.captures), found.rest⟩) := by
  refine ⟨?loads, ?faithful, ?closed⟩
  case loads =>
    constructor
    · rintro ⟨grammar, loaded⟩
      obtain ⟨definitions, described, closed, _⟩ := load_eq_ok_iff.mp loaded
      exact ⟨definitions, described, closed⟩
    · rintro ⟨definitions, described, closed⟩
      exact ⟨gather definitions, load_eq_ok_iff.mpr ⟨definitions, described, closed, rfl⟩⟩
  case faithful =>
    intro grammar loaded
    obtain ⟨definitions, described, _, rfl⟩ := load_eq_ok_iff.mp loaded
    have gathers := gathers_gather definitions
    refine ⟨definitions, described, gathers.names_rules.trans gathers.names,
      gathers.names_rules.symm ▸ gathers.nodup, fun name rule => gathers.mem_rules,
      fun name rule => ?_⟩
    rw [gathers.find?, described.joined?_eq_some_iff]
  case closed =>
    intro grammar loaded name body known input word start meets
    obtain ⟨definitions, _, closed, rfl⟩ := load_eq_ok_iff.mp loaded
    have resolved := (gathers_gather definitions).isClosed closed
    obtain ⟨other, node, held, among⟩ := meets.terminals known
    have inside : word ∈ node.terminals := among (List.mem_singleton.mpr rfl)
    refine ⟨⟨other, node, held, inside⟩, fun depth => ⟨fun role => ?_, fun role named free => ?_⟩⟩
    · have reference := Terminal.isReference_iff.mpr (.inl role)
      obtain ⟨inner, target⟩ := resolved other node held word inside reference
      exact matchesWithin?_repetition role target depth start
    · have reference := Terminal.isReference_iff.mpr (.inr ⟨role, named, free⟩)
      obtain ⟨inner, target⟩ := resolved other node held word inside reference
      exact ⟨inner, target, matchesWithin?_named role named free target depth start⟩

end Grammar

end ReportLang
