import ReportLang.Command

/-!
# Instructions

Commands arranged in blocks: a simple command, a loop or record declaration with the block it
encloses, or a choice between blocks.
-/

namespace ReportLang

/-- A command with the blocks it governs. -/
inductive Instruction where
  /-- A command on its own. -/
  | simple (command : Command)
  /-- A loop or a record declaration. -/
  | block (opener : Command) (body : List Instruction)
  /-- A choice: one command and one block for each branch. -/
  | choice (branches : List (Command × List Instruction))

namespace Instruction

/-- The keyword an instruction starts with. -/
def keyword : Instruction → String
  | .simple command => command.keyword
  | .block opener _ => opener.keyword
  | .choice _ => "if"

mutual

/-- An instruction as data. -/
def toJson : Instruction → Json
  | .simple command => command.toJson
  | .block opener body => .object (opener.toEntries ++ [("block", .list (listToJson body))])
  | .choice branches => .object [("parts", .list (branchesToJson branches))]

/-- Instructions as data. -/
def listToJson : List Instruction → List Json
  | [] => []
  | instruction :: rest => instruction.toJson :: listToJson rest

/-- The branches of a choice as data. -/
def branchesToJson : List (Command × List Instruction) → List Json
  | [] => []
  | (command, body) :: rest =>
    .object (command.toEntries ++ [("block", .list (listToJson body))]) :: branchesToJson rest

end

mutual

/-- An instruction as an indented tree, two blanks per level. -/
def tree (depth : Nat) : Instruction → String
  | .simple command => Text.indent depth ++ command.line ++ "\n"
  | .block opener body =>
    Text.indent depth ++ opener.line ++ "\n" ++ treeOfAll (depth + 1) body
  | .choice branches => Text.indent depth ++ "if\n" ++ treeOfBranches depth branches

/-- Instructions as indented trees. -/
def treeOfAll (depth : Nat) : List Instruction → String
  | [] => ""
  | instruction :: rest => instruction.tree depth ++ treeOfAll depth rest

/-- The branches of a choice as indented trees. -/
def treeOfBranches (depth : Nat) : List (Command × List Instruction) → String
  | [] => ""
  | (command, body) :: rest =>
    Text.indent depth ++ "->" ++ command.keyword ++ " " ++ command.captures.toJson.compact ++
      "\n" ++ treeOfAll (depth + 1) body ++ treeOfBranches depth rest

end

end Instruction

end ReportLang
