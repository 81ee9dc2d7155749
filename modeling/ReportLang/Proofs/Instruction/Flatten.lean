import ReportLang.Instruction.Group

/-!
# Instructions written out as commands

The commands that a list of instructions stands for, closing commands included, and the instructions
whose blocks are in order. A closing command is written with nothing but what tells which block it
closes; `Command.Agrees` compares commands apart from what else a closing command captures.
-/

namespace ReportLang

/-- The keywords that open, divide or close a block by themselves. -/
def blockKeywords : List String :=
  ["if", "elseif", "else", "endif", "while", "do", "endwhile", "enddo"]

/-- Whether a part in the block structure is that of a closing command. -/
def Command.Role.closes : Command.Role → Bool
  | .closesChoice | .closesLoop _ | .closesRecord => true
  | .opensChoice | .continuesChoice | .opensLoop | .opensRecord | .plain => false

namespace Command

/-- Whether two commands are the same, apart from the captures of closing commands: the same
keyword, the same part in the block structure and, after `end of`, the same name. -/
def Agrees (given written : Command) : Prop :=
  given = written ∨
    (given.role.closes = true ∧ given.role = written.role ∧ given.keyword = written.keyword ∧
      (given.role = .closesRecord → given.recordName? = written.recordName?))

/-- The command that closes a choice. -/
def endOfChoice : Command := ⟨"endif", .empty⟩

/-- What `end of` captures for the name of a record. -/
def endCaptures (name : Option Lexeme) : Captures :=
  ("end", .flag true) :: name.toList.map fun lexeme => ("struc", .single lexeme)

/-- The command that closes the block of a loop or a record declaration. -/
def endOfBlock (opener : Command) : Command :=
  if opener.keyword = "while" then ⟨"endwhile", .empty⟩
  else if opener.keyword = "do" then ⟨"enddo", .empty⟩
  else ⟨opener.keyword, endCaptures opener.recordName?⟩

end Command

namespace Instruction

mutual

/-- The commands that an instruction stands for, closing commands included. -/
def flatten : Instruction → List Command
  | .simple command => [command]
  | .block opener body => opener :: (flattenAll body ++ [opener.endOfBlock])
  | .choice branches => flattenBranches branches ++ [Command.endOfChoice]

/-- The commands that instructions stand for. -/
def flattenAll : List Instruction → List Command
  | [] => []
  | instruction :: rest => flatten instruction ++ flattenAll rest

/-- The commands that the branches of a choice stand for. -/
def flattenBranches : List (Command × List Instruction) → List Command
  | [] => []
  | (command, body) :: rest => command :: (flattenAll body ++ flattenBranches rest)

end

/-- Whether keywords are those of the branches of a choice: one `if`, any number of `elseif` after
it, and at most one `else` at the end. -/
def IsChain (keywords : List String) : Prop :=
  ∃ (count : Nat) (last : List String), (last = [] ∨ last = ["else"]) ∧
    keywords = "if" :: (List.replicate count "elseif" ++ last)

/-- The keywords of branches are three. -/
theorem IsChain.mem {keywords : List String} (chain : IsChain keywords) {keyword : String}
    (member : keyword ∈ keywords) : keyword ∈ ["if", "elseif", "else"] := by
  obtain ⟨count, last, ends, rfl⟩ := chain
  rcases List.mem_cons.mp member with rfl | later
  · simp
  · rcases List.mem_append.mp later with middle | final
    · simp [List.eq_of_mem_replicate middle]
    · rcases ends with rfl | rfl
      · simp at final
      · simp [List.mem_singleton.mp final]

mutual

/-- Whether the blocks of an instruction are in order: a plain command plays no part in the block
structure, a block is a loop or a record declaration, and branches form a chain. -/
def WellFormed : Instruction → Prop
  | .simple command =>
    command.keyword ∉ blockKeywords ∧ command.captures.flag "begin" = false ∧
      command.captures.flag "end" = false
  | .block opener body =>
    (opener.keyword = "while" ∨ opener.keyword = "do" ∨
      (opener.keyword ∉ blockKeywords ∧ opener.captures.flag "begin" = true)) ∧
      WellFormedAll body
  | .choice branches => IsChain (branches.map (·.1.keyword)) ∧ WellFormedBranches branches

/-- Whether the blocks of instructions are in order. -/
def WellFormedAll : List Instruction → Prop
  | [] => True
  | instruction :: rest => WellFormed instruction ∧ WellFormedAll rest

/-- Whether the blocks inside branches are in order. -/
def WellFormedBranches : List (Command × List Instruction) → Prop
  | [] => True
  | (_, body) :: rest => WellFormedAll body ∧ WellFormedBranches rest

end

/-- Instructions in a row stand for the commands of each in turn. -/
theorem flattenAll_append (first later : List Instruction) :
    flattenAll (first ++ later) = flattenAll first ++ flattenAll later := by
  induction first with
  | nil => simp [flattenAll]
  | cons instruction rest ih => simp [flattenAll, ih, List.append_assoc]

/-- Branches in a row stand for the commands of each in turn. -/
theorem flattenBranches_append (first later : List (Command × List Instruction)) :
    flattenBranches (first ++ later) = flattenBranches first ++ flattenBranches later := by
  induction first with
  | nil => simp [flattenBranches]
  | cons branch rest ih => simp [flattenBranches, ih, List.append_assoc]

/-- Instructions are in order exactly when each of them is. -/
theorem wellFormedAll_iff (program : List Instruction) :
    WellFormedAll program ↔ ∀ instruction ∈ program, instruction.WellFormed := by
  induction program with
  | nil => simp [WellFormedAll]
  | cons instruction rest ih => simp [WellFormedAll, ih]

/-- Branches are in order exactly when the body of each is. -/
theorem wellFormedBranches_iff (branches : List (Command × List Instruction)) :
    WellFormedBranches branches ↔ ∀ branch ∈ branches, WellFormedAll branch.2 := by
  induction branches with
  | nil => simp [WellFormedBranches]
  | cons branch rest ih => simp [WellFormedBranches, ih]

end Instruction

namespace Command

/-- A plain command has neither a block keyword nor a flag of a record declaration. -/
theorem role_eq_plain_iff {command : Command} :
    command.role = .plain ↔ command.keyword ∉ blockKeywords ∧
      command.captures.flag "begin" = false ∧ command.captures.flag "end" = false := by
  simp only [role, blockKeywords, List.mem_cons, List.not_mem_nil, or_false, not_or]
  grind

/-- A record declaration is opened by its flag, under a keyword that is no block keyword. -/
theorem role_eq_opensRecord_iff {command : Command} :
    command.role = .opensRecord ↔
      command.keyword ∉ blockKeywords ∧ command.captures.flag "begin" = true := by
  simp only [role, blockKeywords, List.mem_cons, List.not_mem_nil, or_false, not_or]
  grind

/-- A record declaration is closed by its flag, under a keyword that is no block keyword. -/
theorem role_eq_closesRecord_iff {command : Command} :
    command.role = .closesRecord ↔ command.keyword ∉ blockKeywords ∧
      command.captures.flag "begin" = false ∧ command.captures.flag "end" = true := by
  simp only [role, blockKeywords, List.mem_cons, List.not_mem_nil, or_false, not_or]
  grind

/-- Two keywords open loops. -/
theorem role_eq_opensLoop_iff {command : Command} :
    command.role = .opensLoop ↔ command.keyword = "while" ∨ command.keyword = "do" := by
  simp only [role]
  grind

/-- Each keyword that closes a loop closes that of one keyword. -/
theorem role_eq_closesLoop_iff {command : Command} {opener : String} :
    command.role = .closesLoop opener ↔
      (command.keyword = "endwhile" ∧ opener = "while") ∨
        (command.keyword = "enddo" ∧ opener = "do") := by
  simp only [role]
  grind

/-- One keyword opens a choice. -/
theorem role_eq_opensChoice_iff {command : Command} :
    command.role = .opensChoice ↔ command.keyword = "if" := by
  simp only [role]
  grind

/-- Two keywords start a further branch of a choice. -/
theorem role_eq_continuesChoice_iff {command : Command} :
    command.role = .continuesChoice ↔ command.keyword = "elseif" ∨ command.keyword = "else" := by
  simp only [role]
  grind

/-- One keyword closes a choice. -/
theorem role_eq_closesChoice_iff {command : Command} :
    command.role = .closesChoice ↔ command.keyword = "endif" := by
  simp only [role]
  grind

end Command

end ReportLang
