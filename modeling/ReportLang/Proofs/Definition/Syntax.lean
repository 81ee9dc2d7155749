import ReportLang.Grammar.Definition
import ReportLang.Proofs.Grammar.Terminal
import ReportLang.Proofs.Lexeme.Spelling

/-!
# Written definitions

The body of a definition as it is written: any number of choices, each of them one or more parts
with bars between them, where a part is a word or a body between brackets. `Choice.node` is the part
of a rule that a choice stands for, and `Node.lexemes` writes a part of a rule down again. A literal
is written in character quotes whatever quotes it had; apart from that, writing down what a body
stands for gives the body.
-/

namespace ReportLang

/-- The opening mark of a bracket. -/
def Bracket.opener : Bracket → String
  | .sequence => "\x7b"
  | .optional => "["

/-- A lexeme with a literal in character quotes, whatever quotes it had. -/
def Lexeme.inCharacterQuotes (lexeme : Lexeme) : Lexeme :=
  match lexeme.literalText? with
  | some text => Lexeme.literal .character text.toList
  | none => lexeme

namespace Definition

/-- The lexemes that are no words. -/
def marks : List Lexeme := ["\x7b", "\x7d", "[", "]", "|"]

/-- A lexeme that is no mark. -/
structure Word where
  /-- The lexeme as written. -/
  lexeme : Lexeme
  /-- It is no mark. -/
  plain : lexeme ∉ marks

mutual

/-- A word, or a body between brackets. -/
inductive Part where
  /-- A word. -/
  | word (word : Word)
  /-- Choices between brackets. -/
  | enclosed (bracket : Bracket) (choices : List Choice)

/-- One or more parts with bars between them, the last one apart from those before it. -/
inductive Choice where
  /-- One part. -/
  | only (part : Part)
  /-- A further part after a bar. -/
  | or (earlier : Choice) (last : Part)

end

mutual

/-- The lexemes of a part in order. -/
def Part.lexemes : Part → List Lexeme
  | .word word => [word.lexeme]
  | .enclosed bracket choices =>
    bracket.opener :: (Choice.lexemesOfAll choices ++ [bracket.closer])

/-- The lexemes of a choice in order. -/
def Choice.lexemes : Choice → List Lexeme
  | .only part => part.lexemes
  | .or earlier last => earlier.lexemes ++ "|" :: last.lexemes

/-- The lexemes of choices in order. -/
def Choice.lexemesOfAll : List Choice → List Lexeme
  | [] => []
  | choice :: rest => choice.lexemes ++ Choice.lexemesOfAll rest

end

mutual

/-- What a part stands for in a rule. -/
def Part.node : Part → Node
  | .word word => wordNode word.lexeme
  | .enclosed .sequence choices => .sequence (Choice.nodes choices)
  | .enclosed .optional choices => .optional (.sequence (Choice.nodes choices))

/-- What a choice stands for in a rule; alternatives are grouped to the left. -/
def Choice.node : Choice → Node
  | .only part => part.node
  | .or earlier last => .alternation earlier.node last.node

/-- What choices stand for in a rule. -/
def Choice.nodes : List Choice → List Node
  | [] => []
  | choice :: rest => choice.node :: Choice.nodes rest

end

/-- The lexemes of a statement that spell the body of its rule: all of them if its keyword may start
a statement, and those after the keyword otherwise. -/
def bodyOf (statement : Statement) : List Lexeme :=
  match statement.lexemes with
  | [] => []
  | keyword :: rest => if startsStatement keyword then keyword :: rest else rest

end Definition

namespace Node

mutual

/-- The lexemes that spell a part of a rule. -/
def lexemes : Node → List Lexeme
  | .literal text => [Lexeme.literal .character text.toList]
  | .terminal word => [word.spelling]
  | .sequence nodes => "\x7b" :: (lexemesOfAll nodes ++ ["\x7d"])
  | .optional (.sequence nodes) => "[" :: (lexemesOfAll nodes ++ ["]"])
  | .optional inner => "[" :: (lexemes inner ++ ["]"])
  | .alternation left right => lexemes left ++ "|" :: lexemes right

/-- The lexemes that spell parts of a rule one after the other. -/
def lexemesOfAll : List Node → List Lexeme
  | [] => []
  | node :: rest => lexemes node ++ lexemesOfAll rest

end

end Node

namespace Terminal

/-- A terminal is spelled by its target, after its capture and a colon if it has a name. -/
theorem spelling_ofTarget (capture : Option String) (target : String) :
    (ofTarget capture target).spelling =
      (match capture with
        | some name => name ++ ":"
        | none => "") ++ target := by
  unfold ofTarget
  split
  · cases capture with
    | some name => rfl
    | none => rfl
  · split
    · rename_i rule repeats
      rw [(repeatedRule?_eq_some_iff.mp repeats).2]
      cases capture with
      | some name => exact String.append_assoc
      | none => exact String.append_assoc
    · cases capture with
      | some name => rfl
      | none => rfl

/-- The terminal of a word is spelled by the word. -/
@[simp] theorem spelling_ofWord (word : String) : (ofWord word).spelling = word := by
  unfold ofWord
  split
  · rename_i name flag
    exact (flagName?_eq_some_iff.mp flag).2.symm
  · split
    · rename_i capture target split
      rw [spelling_ofTarget, ← String.toList_inj, Text.eq_of_splitFirst? split]
      simp
    · rw [spelling_ofTarget]
      simp

end Terminal

namespace Definition

/-- The lexemes of choices in a row are those of each in turn. -/
theorem Choice.lexemesOfAll_append (first later : List Choice) :
    lexemesOfAll (first ++ later) = lexemesOfAll first ++ lexemesOfAll later := by
  induction first with
  | nil => rfl
  | cons choice rest ih => simp [lexemesOfAll, ih]

/-- Choices in a row stand for what each of them stands for in turn. -/
theorem Choice.nodes_append (first later : List Choice) :
    nodes (first ++ later) = nodes first ++ nodes later := by
  induction first with
  | nil => rfl
  | cons choice rest ih => simp [nodes, ih]

/-- What a word stands for is spelled by the word, with a literal in character quotes. -/
theorem lexemes_wordNode (word : Lexeme) : (wordNode word).lexemes = [word.inCharacterQuotes] := by
  unfold wordNode Lexeme.inCharacterQuotes
  cases word.literalText? with
  | some text => rw [Node.lexemes]
  | none => rw [Node.lexemes, Terminal.spelling_ofWord]

/-- A mark is no literal. -/
theorem inCharacterQuotes_of_mem_marks {lexeme : Lexeme} (isMark : lexeme ∈ marks) :
    lexeme.inCharacterQuotes = lexeme := by
  have all : ∀ mark ∈ marks, mark.literalText? = none := by decide
  rw [Lexeme.inCharacterQuotes, all lexeme isMark]

/-- The opening mark of a bracket is a mark. -/
theorem opener_mem_marks (bracket : Bracket) : bracket.opener ∈ marks := by
  cases bracket with
  | sequence => decide
  | optional => decide

/-- The closing mark of a bracket is a mark. -/
theorem closer_mem_marks (bracket : Bracket) : bracket.closer ∈ marks := by
  cases bracket with
  | sequence => decide
  | optional => decide

/-- Choices between brackets stand for what the bracket makes of them. -/
theorem Part.node_enclosed (bracket : Bracket) (choices : List Choice) :
    (Part.enclosed bracket choices).node = bracket.close (Choice.nodes choices) := by
  cases bracket with
  | sequence => rfl
  | optional => rfl

/-- What a bracket makes of parts is spelled by the parts between its marks. -/
theorem lexemes_close (bracket : Bracket) (nodes : List Node) :
    (bracket.close nodes).lexemes =
      bracket.opener :: (Node.lexemesOfAll nodes ++ [bracket.closer]) := by
  cases bracket with
  | sequence => rw [Bracket.close, Node.lexemes, Bracket.opener, Bracket.closer]
  | optional => rw [Bracket.close, Node.lexemes, Bracket.opener, Bracket.closer]

mutual

/-- What a part stands for is spelled by its lexemes, with literals in character quotes. -/
theorem Part.lexemes_node (part : Part) :
    part.node.lexemes = part.lexemes.map Lexeme.inCharacterQuotes := by
  match part with
  | .word word => exact lexemes_wordNode word.lexeme
  | .enclosed bracket choices =>
    rw [Part.node_enclosed, lexemes_close, Choice.lexemesOfAll_nodes choices, Part.lexemes,
      List.map_cons, List.map_append, List.map_singleton,
      inCharacterQuotes_of_mem_marks (opener_mem_marks bracket),
      inCharacterQuotes_of_mem_marks (closer_mem_marks bracket)]

/-- What a choice stands for is spelled by its lexemes, with literals in character quotes. -/
theorem Choice.lexemes_node (choice : Choice) :
    choice.node.lexemes = choice.lexemes.map Lexeme.inCharacterQuotes := by
  match choice with
  | .only part => exact part.lexemes_node
  | .or earlier last =>
    rw [Choice.node, Node.lexemes, earlier.lexemes_node, last.lexemes_node, Choice.lexemes,
      List.map_append, List.map_cons, inCharacterQuotes_of_mem_marks (by decide)]

/-- What choices stand for is spelled by their lexemes, with literals in character quotes. -/
theorem Choice.lexemesOfAll_nodes (choices : List Choice) :
    Node.lexemesOfAll (Choice.nodes choices) =
      (Choice.lexemesOfAll choices).map Lexeme.inCharacterQuotes := by
  match choices with
  | [] => rfl
  | choice :: rest =>
    rw [Choice.nodes, Node.lexemesOfAll, choice.lexemes_node, Choice.lexemesOfAll_nodes rest,
      Choice.lexemesOfAll, List.map_append]

end

end Definition

end ReportLang
