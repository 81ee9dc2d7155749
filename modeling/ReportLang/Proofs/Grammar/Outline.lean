import ReportLang.Proofs.Captures
import ReportLang.Proofs.Command.Matching
import ReportLang.Proofs.Text.LowerCase

/-!
# Outlines

Which names a rule body can capture, and what is captured under each of them. An outline lists them
for one way through a body; a rule that is referred to by a name of its own contributes nothing but
that name, so outlines stay finite where rules are recursive. If the outlines of the rules cover
those of their bodies, then what a match captures fits one of the outlines of its rule.
-/

namespace ReportLang

/-- What is captured under a name. -/
inductive Capture.Form where
  /-- A lexeme. -/
  | single
  /-- A flag. -/
  | flag
  /-- The captures of a rule. -/
  | nested (rule : String)
  /-- The captures of each match of a rule. -/
  | repeated (rule : String)
deriving DecidableEq

/-- The names that are captured on one way through a body, with the form of each. The first entry of
a name counts. -/
abbrev Outline := List (String × Capture.Form)

mutual

/-- Whether a capture has a form, where `known` gives the outlines of each rule. -/
inductive Capture.Fits (known : String → List Outline) : Capture.Form → Capture → Prop where
  /-- A lexeme. -/
  | single (lexeme : Lexeme) : Capture.Fits known .single (.single lexeme)
  /-- A flag that was passed. -/
  | flag : Capture.Fits known .flag (.flag true)
  /-- The captures of a rule. -/
  | nested {rule : String} {entries : List (String × Capture)}
    (inner : Captures.FitsRule known rule entries) :
    Capture.Fits known (.nested rule) (.nested entries)
  /-- The captures of each match of a rule. -/
  | repeated {rule : String} {items : List (List (String × Capture))}
    (each : ∀ item ∈ items, Captures.FitsRule known rule item) :
    Capture.Fits known (.repeated rule) (.repeated items)

/-- Whether captures are along one of the outlines of a rule: they have the names of the outline and
no others, each in its form. -/
inductive Captures.FitsRule (known : String → List Outline) :
    String → Captures → Prop where
  /-- Captures along an outline. -/
  | along {rule : String} {entries : List (String × Capture)} {outline : Outline}
    (listed : outline ∈ known rule)
    (parts : ∀ name,
      Option.Rel (Capture.Fits known) (outline.lookup name) (entries.lookup name)) :
    Captures.FitsRule known rule entries

end

/-- Whether captures have the names of an outline and no others, each in its form. -/
def Captures.Fits (known : String → List Outline) (outline : Outline) (captures : Captures) :
    Prop :=
  ∀ name, Option.Rel (Capture.Fits known) (outline.lookup name) (captures.get? name)

/-- The outlines of a terminal. -/
def Terminal.outlines (isRule : String → Bool) (outlines : String → List Outline)
    (terminal : Terminal) : List Outline :=
  match terminal.role with
  | .flag => [[(terminal.capture, .flag)]]
  | .position => [[(terminal.capture, .single)]]
  | .repetition => [[(terminal.capture, .repeated terminal.target)]]
  | .word =>
    if terminal.isKeyword then [[]]
    else if isRule terminal.target then
      if terminal.named then [[(terminal.capture, .nested terminal.target)]]
      else outlines terminal.target
    else [[(terminal.capture, .single)]]

namespace Node

mutual

/-- The outlines of a rule body, where `outlines` gives those of the rules it refers to. -/
def outlines (isRule : String → Bool) (known : String → List Outline) : Node → List Outline
  | .literal _ => [[]]
  | .terminal word => word.outlines isRule known
  | .sequence nodes => outlinesOfAll isRule known nodes
  | .optional inner => outlines isRule known inner ++ [[]]
  | .alternation left right => outlines isRule known left ++ outlines isRule known right

/-- The outlines of rule bodies one after the other; what comes later counts first. -/
def outlinesOfAll (isRule : String → Bool) (known : String → List Outline) :
    List Node → List Outline
  | [] => [[]]
  | node :: rest =>
    (outlines isRule known node).flatMap fun first =>
      (outlinesOfAll isRule known rest).map (· ++ first)

end

end Node

/-- The outlines of a rule, with at most `depth` rules inside one another. -/
def Grammar.outlinesWithin (grammar : Grammar) : (depth : Nat) → String → List Outline
  | 0, _ => []
  | depth + 1, name =>
    match grammar.rule? name with
    | none => []
    | some node =>
      node.outlines (fun name => (grammar.rule? name).isSome) (grammar.outlinesWithin depth)

namespace Captures

variable {known : String → List Outline} {outline later : Outline} {captures added : Captures}
  {name : String}

/-- Nothing captured fits the outline without names. -/
theorem fits_empty : Captures.empty.Fits known [] := fun _ => Option.Rel.none

/-- A single capture fits the outline with its name alone. -/
theorem fits_singleton {form : Capture.Form} {capture : Capture}
    (fits : Capture.Fits known form capture) :
    (Captures.singleton name capture).Fits known [(name, form)] := by
  intro other
  rw [get?_singleton]
  by_cases same : other = name
  · subst same
    simpa using Option.Rel.some fits
  · have test : (other == name) = false := by simp [same]
    simp [same, List.lookup_cons, test]

/-- Merged captures fit the joined outlines. -/
theorem Fits.merge (first : captures.Fits known outline) (second : added.Fits known later)
    (ordered : added.Ordered) : (captures.merge added).Fits known (later ++ outline) := by
  intro other
  rw [get?_merge ordered, List.lookup_append]
  have here := second other
  generalize List.lookup other later = form at here
  generalize added.get? other = capture at here
  cases here with
  | some fits => exact Option.Rel.some fits
  | none => exact first other

/-- What is captured along an outline as a lexeme is there. -/
theorem Fits.single? (fits : captures.Fits known outline)
    (listed : outline.lookup name = some .single) :
    ∃ lexeme, captures.single? name = some lexeme := by
  have here := fits name
  rw [listed] at here
  generalize found : captures.get? name = capture at here
  cases here with
  | some own =>
    cases own with
    | single lexeme => exact ⟨lexeme, by rw [Captures.single?, found]⟩

/-- A name that stands for no lexeme has none. -/
theorem Fits.single?_eq_none (fits : captures.Fits known outline)
    (unlisted : outline.lookup name ≠ some .single) : captures.single? name = none := by
  have here := fits name
  generalize List.lookup name outline = form at here unlisted
  generalize found : captures.get? name = capture at here
  rw [Captures.single?, found]
  cases here with
  | none => rfl
  | some own =>
    cases own with
    | single lexeme => exact absurd rfl unlisted
    | flag => rfl
    | nested => rfl
    | repeated => rfl

/-- A flag is set exactly when the outline lists it. -/
theorem Fits.flag_iff (fits : captures.Fits known outline) :
    captures.flag name = true ↔ outline.lookup name = some .flag := by
  have here := fits name
  generalize List.lookup name outline = form at here
  generalize found : captures.get? name = capture at here
  rw [Captures.flag, found]
  cases here with
  | none => simp
  | some own =>
    cases own with
    | single lexeme => simp
    | flag => simp
    | nested => simp
    | repeated => simp

/-- Nested captures are along an outline of the rule that the outline lists. -/
theorem Fits.nested? {inner : Captures} (fits : captures.Fits known outline)
    (found : captures.nested? name = some inner) :
    ∃ rule, outline.lookup name = some (.nested rule) ∧ inner.FitsRule known rule := by
  have here := fits name
  generalize List.lookup name outline = form at here
  rw [Captures.nested?] at found
  generalize captures.get? name = capture at here found
  cases here with
  | none => simp at found
  | some own =>
    cases own with
    | single lexeme => simp at found
    | flag => simp at found
    | nested inside =>
      obtain rfl := Option.some.inj found
      exact ⟨_, rfl, inside⟩
    | repeated => simp at found

/-- A rule that is listed under a name has captures there. -/
theorem Fits.exists_nested? {rule : String} (fits : captures.Fits known outline)
    (listed : outline.lookup name = some (.nested rule)) :
    ∃ inner, captures.nested? name = some inner := by
  have here := fits name
  rw [listed] at here
  generalize found : captures.get? name = capture at here
  cases here with
  | some own =>
    cases own with
    | nested => exact ⟨_, by rw [Captures.nested?, found]⟩

/-- Repeated captures are each along an outline of the rule that the outline lists. -/
theorem Fits.repeated {rule : String} {item : Captures} (fits : captures.Fits known outline)
    (listed : outline.lookup name = some (.repeated rule))
    (member : item ∈ captures.repeated name) : item.FitsRule known rule := by
  have here := fits name
  rw [listed] at here
  rw [Captures.repeated] at member
  generalize captures.get? name = capture at here member
  cases here with
  | some own =>
    cases own with
    | repeated each =>
      exact each item member

end Captures

/-- Whether every match of a rule yields ordered captures along one of the outlines of the rule. -/
def Matcher.Follows (known : String → List Outline) (rule : String) (matcher : Matcher) : Prop :=
  ∀ input found, matcher input = some found →
    found.captures.Ordered ∧ found.captures.FitsRule known rule

section Matching

variable {rule? : String → Option Matcher} {isRule : String → Bool}
  {known : String → List Outline}

/-- A match that captures one thing only is along the outline of that thing alone. -/
theorem Match.fits_alone {found : Match} {name : String} {form : Capture.Form} {capture : Capture}
    (only : found.captures = .singleton name capture) (fits : Capture.Fits known form capture) :
    found.captures.Ordered ∧ ∃ outline ∈ [[(name, form)]], found.captures.Fits known outline := by
  rw [only]
  exact ⟨Captures.ordered_singleton _ _, _, List.mem_singleton_self _,
    Captures.fits_singleton fits⟩

/-- What a terminal captures fits one of its outlines, if that is so for the rules. -/
theorem Terminal.fits_of_matches? (same : ∀ name, isRule name = (rule? name).isSome)
    (follow : ∀ name matcher, rule? name = some matcher → matcher.Follows known name)
    {terminal : Terminal} {input : List Lexeme} {found : Match}
    (matched : terminal.matches? rule? input = some found) :
    found.captures.Ordered ∧
      ∃ outline ∈ terminal.outlines isRule known, found.captures.Fits known outline := by
  unfold Terminal.matches? at matched
  split at matched
  · rename_i role
    obtain rfl := Option.some.inj matched
    rw [Terminal.outlines, role]
    exact Match.fits_alone rfl .flag
  · rename_i role
    obtain ⟨lexeme, _, only⟩ := Match.read_of_capture matched
    rw [Terminal.outlines, role]
    exact Match.fits_alone only (.single lexeme)
  · rename_i role
    obtain ⟨matcher, known, rest⟩ := Option.bind_eq_some_iff.mp matched
    obtain rfl := Option.some.inj rest
    rw [Terminal.outlines, role]
    refine Match.fits_alone rfl (.repeated fun item member => ?_)
    obtain ⟨start, single, taken, rfl⟩ := Match.mem_repeated member
    exact (follow _ matcher known start single taken).2
  · rename_i role
    rw [Terminal.outlines, role]
    split at matched
    · rename_i keyword
      obtain ⟨_, _, none⟩ := Match.read_of_expect matched
      rw [none]
      simp only [keyword, if_true]
      exact ⟨Captures.ordered_empty, _, List.mem_singleton_self _, Captures.fits_empty⟩
    · rename_i keyword
      simp only [keyword, Bool.false_eq_true, if_false, same]
      split at matched
      · rename_i absent
        obtain ⟨lexeme, _, only⟩ := Match.read_of_capture matched
        simp only [absent, Option.isSome_none, Bool.false_eq_true, if_false]
        exact Match.fits_alone only (.single lexeme)
      · rename_i matcher present
        simp only [present, Option.isSome_some, if_true]
        obtain ⟨inner, taken, rest⟩ := Option.bind_eq_some_iff.mp matched
        obtain ⟨ordered, along⟩ := follow _ matcher present input inner taken
        split at rest
        · rename_i named
          obtain rfl := Option.some.inj rest
          rw [if_pos named]
          exact Match.fits_alone rfl (.nested along)
        · rename_i named
          obtain rfl := Option.some.inj rest
          simp only [named, Bool.false_eq_true, if_false]
          obtain ⟨listed, parts⟩ := along
          exact ⟨ordered, _, listed, parts⟩

mutual

/-- What a rule body captures fits one of its outlines, if that is so for the rules. -/
theorem Node.fits_of_matches? (same : ∀ name, isRule name = (rule? name).isSome)
    (follow : ∀ name matcher, rule? name = some matcher → matcher.Follows known name)
    (node : Node) {input : List Lexeme} {found : Match}
    (matched : node.matches? rule? input = some found) :
    found.captures.Ordered ∧
      ∃ outline ∈ node.outlines isRule known, found.captures.Fits known outline := by
  cases node with
  | literal text =>
    rw [Node.matches?] at matched
    obtain ⟨_, _, none⟩ := Match.read_of_expect matched
    rw [none]
    exact ⟨Captures.ordered_empty, _, List.mem_singleton_self _, Captures.fits_empty⟩
  | terminal word =>
    exact Terminal.fits_of_matches? same follow matched
  | sequence nodes =>
    obtain ⟨ordered, outline, listed, fits⟩ := Node.fits_of_matchesAll? same follow nodes
      Captures.ordered_empty Captures.fits_empty matched
    exact ⟨ordered, outline, listed, by simpa using fits⟩
  | optional inner =>
    rw [Node.matches?] at matched
    rw [Node.outlines]
    cases taken : Node.matches? rule? inner input with
    | none =>
      rw [taken] at matched
      obtain rfl := Option.some.inj matched
      exact ⟨Captures.ordered_empty, [], by simp, Captures.fits_empty⟩
    | some read =>
      rw [taken] at matched
      obtain rfl := Option.some.inj matched
      obtain ⟨ordered, outline, listed, fits⟩ := Node.fits_of_matches? same follow inner taken
      exact ⟨ordered, outline, List.mem_append_left _ listed, fits⟩
  | alternation left right =>
    rw [Node.matches?] at matched
    rw [Node.outlines]
    cases taken : Node.matches? rule? left input with
    | none =>
      rw [taken] at matched
      obtain ⟨ordered, outline, listed, fits⟩ := Node.fits_of_matches? same follow right matched
      exact ⟨ordered, outline, List.mem_append_right _ listed, fits⟩
    | some read =>
      rw [taken] at matched
      obtain rfl := Option.some.inj matched
      obtain ⟨ordered, outline, listed, fits⟩ := Node.fits_of_matches? same follow left taken
      exact ⟨ordered, outline, List.mem_append_left _ listed, fits⟩

/-- What rule bodies one after the other add to captures fits one of their outlines. -/
theorem Node.fits_of_matchesAll? (same : ∀ name, isRule name = (rule? name).isSome)
    (follow : ∀ name matcher, rule? name = some matcher → matcher.Follows known name)
    (nodes : List Node) {captures : Captures} {before : Outline} {input : List Lexeme}
    {found : Match} (ordered : captures.Ordered) (fits : captures.Fits known before)
    (matched : Node.matchesAll? rule? nodes captures input = some found) :
    found.captures.Ordered ∧ ∃ outline ∈ Node.outlinesOfAll isRule known nodes,
      found.captures.Fits known (outline ++ before) := by
  cases nodes with
  | nil =>
    rw [Node.matchesAll?] at matched
    obtain rfl := Option.some.inj matched
    exact ⟨ordered, [], List.mem_singleton_self _, fits⟩
  | cons node rest =>
    rw [Node.matchesAll?] at matched
    cases taken : Node.matches? rule? node input with
    | none => simp [taken] at matched
    | some read =>
      rw [taken] at matched
      obtain ⟨inOrder, first, here, own⟩ := Node.fits_of_matches? same follow node taken
      obtain ⟨result, later, after, all⟩ := Node.fits_of_matchesAll? same follow rest
        (ordered.merge read.captures) (fits.merge own inOrder) matched
      refine ⟨result, later ++ first, ?_, by rwa [List.append_assoc]⟩
      rw [Node.outlinesOfAll]
      exact List.mem_flatMap.mpr ⟨first, here, List.mem_map_of_mem after⟩

end

end Matching

namespace Grammar

variable {grammar : Grammar} {known : String → List Outline}

/-- Whether the outlines of every rule cover those of its body. -/
def Covers (grammar : Grammar) (known : String → List Outline) : Prop :=
  ∀ name node, grammar.rule? name = some node →
    node.outlines (fun name => (grammar.rule? name).isSome) known ⊆ known name

/-- What a rule captures is along one of its outlines, whatever the depth. -/
theorem Covers.follows_matchesWithin? (covers : grammar.Covers known) (depth : Nat) {name : String}
    {node : Node} (defined : grammar.rule? name = some node) :
    (grammar.matchesWithin? depth node).Follows known name := by
  induction depth generalizing name node with
  | zero =>
    intro input found matched
    simp [matchesWithin?] at matched
  | succ depth ih =>
    intro input found matched
    rw [matchesWithin?] at matched
    have same : ∀ other, (grammar.rule? other).isSome =
        ((grammar.rule? other).map (grammar.matchesWithin? depth)).isSome := by
      intro other
      rw [Option.isSome_map]
    have follow : ∀ other matcher,
        (grammar.rule? other).map (grammar.matchesWithin? depth) = some matcher →
          matcher.Follows known other := by
      intro other matcher found
      obtain ⟨body, present, rfl⟩ := Option.map_eq_some_iff.mp found
      exact ih present
    obtain ⟨ordered, outline, listed, fits⟩ := node.fits_of_matches? same follow matched
    exact ⟨ordered, .along (covers name node defined listed) fits⟩

/-- If a larger depth yields nothing new, the outlines cover those of the bodies. -/
theorem covers_outlinesWithin {depth : Nat}
    (stable : ∀ entry ∈ grammar.table,
      entry.2.node.outlines (fun name => (grammar.rule? name).isSome)
          (grammar.outlinesWithin (depth + 1)) ⊆
        entry.2.node.outlines (fun name => (grammar.rule? name).isSome)
          (grammar.outlinesWithin depth)) :
    grammar.Covers (grammar.outlinesWithin (depth + 1)) := by
  intro name node defined outline listed
  obtain ⟨rule, found, rfl⟩ := Option.map_eq_some_iff.mp defined
  rw [outlinesWithin, defined]
  exact stable _ (mem_table_of_find? found) listed

end Grammar

/-- What parsing captures is along one of the outlines of the rule of the keyword, which may start a
statement. -/
theorem Statement.fitsRule_of_parse {grammar : Grammar} {known : String → List Outline}
    (covers : grammar.Covers known) {statement : Statement} {command : Command}
    (parsed : statement.parse grammar = .ok command) :
    (∃ rule, (command.keyword, rule) ∈ grammar.table ∧ rule.isStatement = true) ∧
      command.captures.FitsRule known command.keyword := by
  obtain ⟨first, rule, captures, _, found, starts, matched, rfl⟩ :=
    Statement.parse_eq_ok_iff.mp parsed
  have member := Grammar.mem_table_of_find? found
  rw [Text.lower_lower] at member
  have defined : grammar.rule? (Text.lower first) = some rule.node := by
    rw [Grammar.rule?, found, Option.map_some]
  exact ⟨⟨rule, member, starts⟩, (covers.follows_matchesWithin? _ defined _ _ matched).2⟩

end ReportLang
