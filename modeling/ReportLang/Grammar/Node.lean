import ReportLang.Grammar.Terminal
import ReportLang.Text.Layout

/-!
# Rule bodies

The body of a grammar rule as a tree. Rules refer to each other by name only, so a body is finite
even where rules are mutually recursive.
-/

namespace ReportLang

/-- The body of a grammar rule. -/
inductive Node where
  /-- A lexeme that has to appear as written, in either case. -/
  | literal (text : String)
  /-- A bare word. -/
  | terminal (word : Terminal)
  /-- Parts that match one after the other. -/
  | sequence (nodes : List Node)
  /-- A part that may be left out. -/
  | optional (inner : Node)
  /-- The first alternative that matches is taken. -/
  | alternation (left right : Node)

namespace Node

mutual

/-- Every terminal of a body, from left to right. -/
def terminals : Node → List Terminal
  | .literal _ => []
  | .terminal word => [word]
  | .sequence nodes => terminalsOfAll nodes
  | .optional inner => terminals inner
  | .alternation left right => terminals left ++ terminals right

/-- Every terminal of several bodies, from left to right. -/
def terminalsOfAll : List Node → List Terminal
  | [] => []
  | node :: rest => terminals node ++ terminalsOfAll rest

end

mutual

/-- A body as an indented tree, one line for each part. -/
def tree (depth : Nat) : Node → String
  | .literal text => Text.indent depth ++ "'" ++ text ++ "'\n"
  | .terminal word => Text.indent depth ++ word.spelling ++ "\n"
  | .sequence nodes =>
    Text.indent depth ++ "\x7b\n" ++ treeOfAll (depth + 1) nodes ++ Text.indent depth ++ "\x7d\n"
  | .optional inner =>
    Text.indent depth ++ "[\n" ++ tree (depth + 1) inner ++ Text.indent depth ++ "]\n"
  | .alternation left right => tree depth left ++ Text.indent depth ++ "|\n" ++ tree depth right

/-- Several bodies as indented trees. -/
def treeOfAll (depth : Nat) : List Node → String
  | [] => ""
  | node :: rest => tree depth node ++ treeOfAll depth rest

end

end Node

end ReportLang
