import ReportLang.Proofs.Command.Matching
import Mathlib.Logic.Relation

/-!
# Matching without a bound

How matching a rule body proceeds, as a relation that knows no depth: it relates a body and lexemes
to a result exactly if matching them ends with it. Matching that never ends has no result. The calls
that matching makes on the way are a relation of their own.
-/

namespace ReportLang

/-- What a word keeps of a match of the rule it refers to. -/
def Terminal.keep (terminal : Terminal) (found : Match) : Match :=
  if terminal.named then
    ⟨.singleton terminal.capture (.nested found.captures), found.rest⟩
  else
    found

namespace Grammar

/-- The body of the rule that a terminal refers to, if it refers to one. -/
def body? (grammar : Grammar) (terminal : Terminal) : Option Node :=
  match terminal.role with
  | .flag | .position => none
  | .repetition => grammar.rule? terminal.target
  | .word => if terminal.isKeyword then none else grammar.rule? terminal.target

mutual

/-- Matching a body against lexemes ends with a result. -/
inductive Answers (grammar : Grammar) : Node → List Lexeme → Option Match → Prop where
  /-- A literal is compared with one lexeme. -/
  | literal {text : String} {input : List Lexeme} {result : Option Match}
    (read : Match.expect (fun lexeme => Text.upper lexeme = Text.upper text) input = result) :
    Answers grammar (.literal text) input result
  /-- A terminal that refers to no rule looks at one lexeme at most. -/
  | alone {word : Terminal} {input : List Lexeme} {result : Option Match}
    (free : grammar.body? word = none) (read : word.matches? (fun _ => none) input = result) :
    Answers grammar (.terminal word) input result
  /-- A word that refers to a rule is matched by the body of the rule. -/
  | reference {word : Terminal} {body : Node} {input : List Lexeme} {result : Option Match}
    (role : word.role = .word) (refers : grammar.body? word = some body)
    (inner : Answers grammar body input result) :
    Answers grammar (.terminal word) input (result.map word.keep)
  /-- A repetition is matched by all matches of the body of its rule. -/
  | repetition {word : Terminal} {body : Node} {input rest : List Lexeme} {passes : Nat}
    {items : List Captures} (role : word.role = .repetition)
    (refers : grammar.body? word = some body)
    (loop : Repeats grammar body input passes items rest) :
    Answers grammar (.terminal word) input
      (some ⟨.singleton word.capture (.repeated items), rest⟩)
  /-- Parts are matched from left to right. -/
  | sequence {nodes : List Node} {input : List Lexeme} {result : Option Match}
    (parts : AnswersAll grammar nodes .empty input result) :
    Answers grammar (.sequence nodes) input result
  /-- A part that may be left out is taken if it matches. -/
  | present {inner : Node} {input : List Lexeme} {found : Match}
    (taken : Answers grammar inner input (some found)) :
    Answers grammar (.optional inner) input (some found)
  /-- A part that does not match is left out. -/
  | absent {inner : Node} {input : List Lexeme} (failed : Answers grammar inner input none) :
    Answers grammar (.optional inner) input (some (.nothing input))
  /-- The first alternative is taken if it matches. -/
  | left {left right : Node} {input : List Lexeme} {found : Match}
    (taken : Answers grammar left input (some found)) :
    Answers grammar (.alternation left right) input (some found)
  /-- The second alternative is tried if the first one does not match. -/
  | right {left right : Node} {input : List Lexeme} {result : Option Match}
    (failed : Answers grammar left input none) (tried : Answers grammar right input result) :
    Answers grammar (.alternation left right) input result

/-- Matching bodies one after the other, with captures so far, ends with a result. -/
inductive AnswersAll (grammar : Grammar) :
    List Node → Captures → List Lexeme → Option Match → Prop where
  /-- No body is left. -/
  | done (captures : Captures) (input : List Lexeme) :
    AnswersAll grammar [] captures input (some ⟨captures, input⟩)
  /-- A body does not match. -/
  | stuck {node : Node} {nodes : List Node} {captures : Captures} {input : List Lexeme}
    (failed : Answers grammar node input none) :
    AnswersAll grammar (node :: nodes) captures input none
  /-- A body matches, and the others take what it leaves. -/
  | next {node : Node} {nodes : List Node} {captures : Captures} {input : List Lexeme}
    {found : Match} {result : Option Match} (taken : Answers grammar node input (some found))
    (later : AnswersAll grammar nodes (captures.merge found.captures) found.rest result) :
    AnswersAll grammar (node :: nodes) captures input result

/-- Matching a body again and again ends after a number of passes, with the captures of those that
matched and the lexemes left over. The pass that ends the loop counts. -/
inductive Repeats (grammar : Grammar) :
    Node → List Lexeme → Nat → List Captures → List Lexeme → Prop where
  /-- A pass does not match. -/
  | failed {body : Node} {input : List Lexeme} (failed : Answers grammar body input none) :
    Repeats grammar body input 1 [] input
  /-- A pass captures nothing or reads nothing. -/
  | idle {body : Node} {input : List Lexeme} {found : Match}
    (taken : Answers grammar body input (some found))
    (ended : found.captures.isEmpty = true ∨ found.rest = input) :
    Repeats grammar body input 1 [] input
  /-- A pass captures and reads something, and another one follows. -/
  | again {body : Node} {input rest : List Lexeme} {found : Match} {passes : Nat}
    {items : List Captures} (taken : Answers grammar body input (some found))
    (captured : found.captures.isEmpty = false) (read : found.rest ≠ input)
    (later : Repeats grammar body found.rest passes items rest) :
    Repeats grammar body input (passes + 1) (found.captures :: items) rest

end

/-- A pass of a repetition is followed by another one, which starts with what the first leaves. -/
def Pass (grammar : Grammar) (body : Node) (input rest : List Lexeme) : Prop :=
  ∃ found : Match, grammar.Answers body input (some found) ∧ found.captures.isEmpty = false ∧
    found.rest ≠ input ∧ found.rest = rest

/-- What matching a body against lexemes calls in turn: another body, and the lexemes it is matched
against. -/
inductive Call (grammar : Grammar) : Node → List Lexeme → Node → List Lexeme → Prop where
  /-- A word calls the body of its rule. -/
  | reference {word : Terminal} {body : Node} (role : word.role = .word)
    (refers : grammar.body? word = some body) (input : List Lexeme) :
    Call grammar (.terminal word) input body input
  /-- A repetition calls the body of its rule in every pass. -/
  | repetition {word : Terminal} {body : Node} {input start : List Lexeme}
    (role : word.role = .repetition) (refers : grammar.body? word = some body)
    (passed : Relation.ReflTransGen (grammar.Pass body) input start) :
    Call grammar (.terminal word) input body start
  /-- A sequence calls a part once the parts before it have matched. -/
  | part {before after : List Node} {node : Node} {input : List Lexeme} {found : Match}
    (taken : grammar.AnswersAll before .empty input (some found)) :
    Call grammar (.sequence (before ++ node :: after)) input node found.rest
  /-- A part that may be left out is tried. -/
  | optional (inner : Node) (input : List Lexeme) :
    Call grammar (.optional inner) input inner input
  /-- The first alternative is tried. -/
  | left (left right : Node) (input : List Lexeme) :
    Call grammar (.alternation left right) input left input
  /-- The second alternative is tried if the first one does not match. -/
  | right {left : Node} {input : List Lexeme} (failed : grammar.Answers left input none)
    (right : Node) : Call grammar (.alternation left right) input right input

end Grammar

/-- Whether a terminal that refers to no rule reads a lexeme: all but flags do. -/
theorem Terminal.input_of_alone {word : Terminal} {input : List Lexeme} {found : Match}
    (matched : word.matches? (fun _ => none) input = some found) :
    (word.role = .flag ∧ found.rest = input) ∨ ∃ lexeme, input = lexeme :: found.rest := by
  rw [Terminal.matches?] at matched
  split at matched
  case h_1 role =>
    obtain rfl := Option.some.inj matched
    exact .inl ⟨role, rfl⟩
  case h_2 =>
    obtain ⟨lexeme, read, _⟩ := Match.read_of_capture matched
    exact .inr ⟨lexeme, read⟩
  case h_3 => simp at matched
  case h_4 =>
    split at matched
    · obtain ⟨lexeme, read, _⟩ := Match.read_of_expect matched
      exact .inr ⟨lexeme, read⟩
    · obtain ⟨lexeme, read, _⟩ := Match.read_of_capture matched
      exact .inr ⟨lexeme, read⟩

/-- Keeping a match under a name leaves the lexemes after it. -/
@[simp] theorem Terminal.rest_keep (word : Terminal) (found : Match) :
    (word.keep found).rest = found.rest := by
  unfold Terminal.keep
  split <;> rfl

namespace Grammar

variable {grammar : Grammar}

/-- A terminal that refers to a rule is a repetition or a word that is no keyword. -/
theorem role_of_body? {word : Terminal} {body : Node} (refers : grammar.body? word = some body) :
    word.role = .repetition ∨ word.role = .word ∧ word.isKeyword = false := by
  cases role : word.role with
  | flag => simp [body?, role] at refers
  | position => simp [body?, role] at refers
  | repetition => exact .inl rfl
  | word =>
    cases keyword : word.isKeyword with
    | false => exact .inr ⟨rfl, rfl⟩
    | true => simp [body?, role, keyword] at refers

/-- A terminal that refers to a rule finds it by its target. -/
theorem rule?_of_body? {word : Terminal} {body : Node} (refers : grammar.body? word = some body) :
    grammar.rule? word.target = some body := by
  rcases role_of_body? refers with role | ⟨role, free⟩
  · simpa [body?, role] using refers
  · simpa [body?, role, free] using refers

mutual

/-- A match leaves an end of its lexemes over. -/
theorem Answers.suffix {node : Node} {input : List Lexeme} {result : Option Match}
    (answers : grammar.Answers node input result) : ∀ found ∈ result, found.rest <:+ input :=
  match answers with
  | .literal read => fun found matched => by
    obtain ⟨lexeme, same, _⟩ := Match.read_of_expect (read.trans matched)
    exact ⟨[lexeme], same.symm⟩
  | .alone _ read => fun found matched => by
    rcases Terminal.input_of_alone (read.trans matched) with ⟨_, same⟩ | ⟨lexeme, same⟩
    · exact same ▸ List.suffix_rfl
    · exact ⟨[lexeme], same.symm⟩
  | .reference _ _ inner => fun found matched => by
    obtain ⟨own, taken, rfl⟩ := Option.map_eq_some_iff.mp matched
    rw [Terminal.rest_keep]
    exact inner.suffix own taken
  | .repetition _ _ loop => fun found matched => by
    obtain rfl := Option.some.inj matched
    exact loop.suffix
  | .sequence parts => parts.suffix
  | .present taken => taken.suffix
  | .absent _ => fun found matched => by
    obtain rfl := Option.some.inj matched
    exact List.suffix_rfl
  | .left taken => taken.suffix
  | .right _ tried => tried.suffix

/-- Matching parts in turn leaves an end of the lexemes over. -/
theorem AnswersAll.suffix {nodes : List Node} {captures : Captures} {input : List Lexeme}
    {result : Option Match} (answers : grammar.AnswersAll nodes captures input result) :
    ∀ found ∈ result, found.rest <:+ input :=
  match answers with
  | .done captures input => fun found matched => by
    obtain rfl := Option.some.inj matched
    exact List.suffix_rfl
  | .stuck _ => fun found matched => by simp at matched
  | .next taken later => fun found matched =>
    (later.suffix found matched).trans (taken.suffix _ rfl)

/-- A repetition leaves an end of its lexemes over. -/
theorem Repeats.suffix {body : Node} {input rest : List Lexeme} {passes : Nat}
    {items : List Captures} (loop : grammar.Repeats body input passes items rest) :
    rest <:+ input :=
  match loop with
  | .failed _ => List.suffix_rfl
  | .idle _ _ => List.suffix_rfl
  | .again taken _ _ later => later.suffix.trans (taken.suffix _ rfl)

end

mutual

/-- Matching a body ends with one result at most. -/
theorem Answers.unique {node : Node} {input : List Lexeme} {first second : Option Match}
    (one : grammar.Answers node input first) (other : grammar.Answers node input second) :
    first = second :=
  match one with
  | .literal read => by
    cases other with
    | literal again => exact read.symm.trans again
  | .alone free read => by
    cases other with
    | alone _ again => exact read.symm.trans again
    | reference role refers => simp [free] at refers
    | repetition role refers => simp [free] at refers
  | .reference role refers inner => by
    cases other with
    | alone free => simp [free] at refers
    | reference _ same again =>
      obtain rfl := Option.some.inj (refers.symm.trans same)
      rw [inner.unique again]
    | repetition other => simp [role] at other
  | .repetition role refers loop => by
    cases other with
    | alone free => simp [free] at refers
    | reference other => simp [role] at other
    | repetition _ same again =>
      obtain rfl := Option.some.inj (refers.symm.trans same)
      obtain ⟨_, rfl, rfl⟩ := loop.unique again
      rfl
  | .sequence parts => by
    cases other with
    | sequence again => exact parts.unique again
  | .present taken => by
    cases other with
    | present again => exact taken.unique again
    | absent failed => cases taken.unique failed
  | .absent failed => by
    cases other with
    | present taken => cases failed.unique taken
    | absent => rfl
  | .left taken => by
    cases other with
    | left again => exact taken.unique again
    | right failed => cases taken.unique failed
  | .right failed tried => by
    cases other with
    | left taken => cases failed.unique taken
    | right _ again => exact tried.unique again

/-- Matching parts in turn ends with one result at most. -/
theorem AnswersAll.unique {nodes : List Node} {captures : Captures} {input : List Lexeme}
    {first second : Option Match} (one : grammar.AnswersAll nodes captures input first)
    (other : grammar.AnswersAll nodes captures input second) : first = second :=
  match one with
  | .done captures input => by
    cases other with
    | done => rfl
  | .stuck failed => by
    cases other with
    | stuck => rfl
    | next taken => cases failed.unique taken
  | .next taken later => by
    cases other with
    | stuck failed => cases taken.unique failed
    | next again after =>
      obtain rfl := Option.some.inj (taken.unique again)
      exact later.unique after

/-- A repetition ends in one way at most. -/
theorem Repeats.unique {body : Node} {input rest rest' : List Lexeme} {passes passes' : Nat}
    {items items' : List Captures} (one : grammar.Repeats body input passes items rest)
    (other : grammar.Repeats body input passes' items' rest') :
    passes = passes' ∧ items = items' ∧ rest = rest' :=
  match one with
  | .failed failed => by
    cases other with
    | failed => exact ⟨rfl, rfl, rfl⟩
    | idle => exact ⟨rfl, rfl, rfl⟩
    | again taken => cases failed.unique taken
  | .idle taken ended => by
    cases other with
    | failed => exact ⟨rfl, rfl, rfl⟩
    | idle => exact ⟨rfl, rfl, rfl⟩
    | again same captured read =>
      obtain rfl := Option.some.inj (taken.unique same)
      simp [captured, read] at ended
  | .again taken captured read later => by
    cases other with
    | failed failed => cases taken.unique failed
    | idle same ended =>
      obtain rfl := Option.some.inj (taken.unique same)
      simp [captured, read] at ended
    | again same _ _ after =>
      obtain rfl := Option.some.inj (taken.unique same)
      obtain ⟨rfl, rfl, rfl⟩ := later.unique after
      exact ⟨rfl, rfl, rfl⟩

end

/-- A pass that is followed by another one reads a lexeme. -/
theorem Pass.length_lt {body : Node} {input rest : List Lexeme}
    (pass : grammar.Pass body input rest) : rest.length < input.length := by
  obtain ⟨found, taken, _, read, rfl⟩ := pass
  have suffix := taken.suffix found rfl
  have shorter : found.rest.length ≠ input.length := fun same => read (suffix.eq_of_length same)
  have bounded := suffix.length_le
  omega

/-- A repetition makes at most one more pass than there are lexemes. -/
theorem Repeats.passes_le {body : Node} {input rest : List Lexeme} {passes : Nat}
    {items : List Captures} (loop : grammar.Repeats body input passes items rest) :
    passes ≤ input.length + 1 :=
  match loop with
  | .failed _ => Nat.le_add_left 1 _
  | .idle _ _ => Nat.le_add_left 1 _
  | .again taken captured read later => by
    have shorter := Pass.length_lt ⟨_, taken, captured, read, rfl⟩
    have bounded := later.passes_le
    omega

end Grammar

end ReportLang
