import ReportLang.Instruction
import ReportLang.Proofs.Captures.Data

/-!
# Instructions as data

Instructions are written as data without a tag: a command as its keyword and its captures, a block
as its opening command with the block beside them, and a choice as its parts. These objects have
different names, so no two lists of instructions have the same data, in whatever order the entries
of objects stand.
-/

namespace ReportLang

namespace Command

/-- Commands with the same entries are the same, whatever entries follow. -/
theorem toEntries_append_inj {left right : Command} {rest rest' : List (String × Json)}
    (same : left.toEntries ++ rest = right.toEntries ++ rest') : left = right ∧ rest = rest' := by
  obtain ⟨first, later⟩ := List.cons.inj same
  obtain ⟨second, last⟩ := List.cons.inj later
  obtain ⟨keyword, captures⟩ := left
  obtain ⟨keyword', captures'⟩ := right
  obtain rfl : keyword = keyword' := Json.text.inj (Prod.mk.inj first).2
  obtain rfl : captures = captures' :=
    Captures.toEntries_inj captures captures' (Json.object.inj (Prod.mk.inj second).2)
  exact ⟨rfl, last⟩

end Command

namespace Instruction

section Injectivity

mutual

/-- Instructions with the same data are the same. -/
theorem toJson_inj : (left right : Instruction) → left.toJson = right.toJson → left = right
  | .simple left, .simple right, same => by
    have entries : left.toEntries ++ [] = right.toEntries ++ [] := Json.object.inj same
    rw [(Command.toEntries_append_inj entries).1]
  | .block left body, .block right body', same => by
    obtain ⟨rfl, rest⟩ := Command.toEntries_append_inj (Json.object.inj same)
    have blocks := Json.list.inj (Prod.mk.inj (List.cons.inj rest).1).2
    rw [listToJson_inj body body' blocks]
  | .choice branches, .choice branches', same => by
    have parts := Json.list.inj (Prod.mk.inj (List.cons.inj (Json.object.inj same)).1).2
    rw [branchesToJson_inj branches branches' parts]
  | .simple _, .block .., same | .simple _, .choice _, same | .block .., .simple _, same
  | .block .., .choice _, same | .choice _, .simple _, same | .choice _, .block .., same => by
    have lengths := congrArg List.length (Json.object.inj same)
    cases lengths

/-- Lists of instructions with the same data are the same. -/
theorem listToJson_inj : (left right : List Instruction) →
    listToJson left = listToJson right → left = right
  | [], [], _ => rfl
  | [], _ :: _, same | _ :: _, [], same => nomatch same
  | left :: rest, right :: rest', same => by
    obtain ⟨first, later⟩ := List.cons.inj same
    rw [toJson_inj left right first, listToJson_inj rest rest' later]

/-- Branches of choices with the same data are the same. -/
theorem branchesToJson_inj : (left right : List (Command × List Instruction)) →
    branchesToJson left = branchesToJson right → left = right
  | [], [], _ => rfl
  | [], _ :: _, same | _ :: _, [], same => nomatch same
  | (left, body) :: rest, (right, body') :: rest', same => by
    obtain ⟨first, later⟩ := List.cons.inj same
    obtain ⟨rfl, block⟩ := Command.toEntries_append_inj (Json.object.inj first)
    have blocks := Json.list.inj (Prod.mk.inj (List.cons.inj block).1).2
    rw [listToJson_inj body body' blocks, branchesToJson_inj rest rest' later]

end

end Injectivity

end Instruction

section Order

/-- The entries of a command in the order of their names. -/
theorem Command.sorted_toEntries {command : Command}
    (ordered : command.captures.DeeplyOrdered) :
    (Json.object command.toEntries).sorted =
      .object [("captures", command.captures.toJson), ("keyword", .text command.keyword)] := by
  have names : "captures" < "keyword" := by decide
  simp only [Command.toEntries, Json.sorted, Json.sortedEntries, ordered.sorted_toJson, Json.ofMap,
    List.foldl_cons, List.foldl_nil, Json.insertEntry, if_pos names]

/-- The entries of a command and its block in the order of their names. -/
theorem Command.sorted_toEntries_block {command : Command}
    (ordered : command.captures.DeeplyOrdered) (block : List Json) :
    (Json.object (command.toEntries ++ [("block", .list block)])).sorted =
      .object [("block", .list (Json.sortedItems block)), ("captures", command.captures.toJson),
        ("keyword", .text command.keyword)] := by
  have names : "captures" < "keyword" := by decide
  have first : "block" < "captures" := by decide
  simp only [Command.toEntries, List.cons_append, List.nil_append, Json.sorted, Json.sortedEntries,
    ordered.sorted_toJson, Json.ofMap, List.foldl_cons, List.foldl_nil, Json.insertEntry,
    if_pos names, if_pos first]

/-- Commands are the same if their captures and keywords are the same data. -/
theorem Command.eq_of_toJson {left right : Command}
    (same : [("captures", left.captures.toJson), ("keyword", Json.text left.keyword)] =
      [("captures", right.captures.toJson), ("keyword", Json.text right.keyword)]) :
    left = right := by
  obtain ⟨first, later⟩ := List.cons.inj same
  have captures := Captures.toEntries_inj left.captures right.captures
    (Json.object.inj (Prod.mk.inj first).2)
  have keyword := Json.text.inj (Prod.mk.inj (List.cons.inj later).1).2
  cases left
  cases right
  simp_all

namespace Instruction

/-- Whether names stand in order in the captures of all commands of an instruction. -/
inductive DeeplyOrdered : Instruction → Prop where
  /-- A command on its own. -/
  | simple {command : Command} (captures : command.captures.DeeplyOrdered) :
    DeeplyOrdered (.simple command)
  /-- A command with a block. -/
  | block {opener : Command} {body : List Instruction} (captures : opener.captures.DeeplyOrdered)
    (inner : ∀ instruction ∈ body, DeeplyOrdered instruction) : DeeplyOrdered (.block opener body)
  /-- A choice between blocks. -/
  | choice {branches : List (Command × List Instruction)}
    (captures : ∀ branch ∈ branches, branch.1.captures.DeeplyOrdered)
    (inner : ∀ branch ∈ branches, ∀ instruction ∈ branch.2, DeeplyOrdered instruction) :
    DeeplyOrdered (.choice branches)

/-- How many entries an instruction has as data: its keyword and captures and perhaps a block, or
the parts of a choice. -/
def entryCount : Instruction → Nat
  | .simple _ => 2
  | .block .. => 3
  | .choice _ => 1

/-- An instruction is an object whose number of entries tells its kind. -/
theorem DeeplyOrdered.exists_entries {instruction : Instruction}
    (ordered : instruction.DeeplyOrdered) :
    ∃ entries, instruction.toJson.sorted = .object entries ∧
      entries.length = instruction.entryCount := by
  cases ordered with
  | simple captures => exact ⟨_, Command.sorted_toEntries captures, rfl⟩
  | block captures => exact ⟨_, Command.sorted_toEntries_block captures _, rfl⟩
  | choice => exact ⟨_, rfl, rfl⟩

mutual

/-- Instructions that are the same data are the same. -/
theorem sorted_toJson_inj : (left right : Instruction) → left.DeeplyOrdered → right.DeeplyOrdered →
    left.toJson.sorted = right.toJson.sorted → left = right
  | .simple left, .simple right, .simple ordered, .simple ordered', same => by
    simp only [toJson, Command.toJson, Command.sorted_toEntries ordered,
      Command.sorted_toEntries ordered'] at same
    rw [Command.eq_of_toJson (Json.object.inj same)]
  | .block left body, .block right body', .block ordered inner, .block ordered' inner', same => by
    simp only [toJson, Command.sorted_toEntries_block ordered,
      Command.sorted_toEntries_block ordered'] at same
    obtain ⟨block, entries⟩ := List.cons.inj (Json.object.inj same)
    have blocks := Json.list.inj (Prod.mk.inj block).2
    rw [Command.eq_of_toJson entries, sortedItems_listToJson_inj body body' inner inner' blocks]
  | .choice branches, .choice branches', .choice ordered inner, .choice ordered' inner', same => by
    have parts := Json.list.inj (Prod.mk.inj (List.cons.inj (Json.object.inj same)).1).2
    rw [sortedItems_branchesToJson_inj branches branches' ordered ordered' inner inner' parts]
  | .simple _, .block .., ordered, ordered', same | .simple _, .choice _, ordered, ordered', same
  | .block .., .simple _, ordered, ordered', same | .block .., .choice _, ordered, ordered', same
  | .choice _, .simple _, ordered, ordered', same
  | .choice _, .block .., ordered, ordered', same => by
    obtain ⟨entries, data, count⟩ := ordered.exists_entries
    obtain ⟨entries', data', count'⟩ := ordered'.exists_entries
    obtain rfl := Json.object.inj (data.symm.trans (same.trans data'))
    cases count.symm.trans count'

/-- Lists of instructions that are the same data are the same. -/
theorem sortedItems_listToJson_inj : (left right : List Instruction) →
    (∀ instruction ∈ left, instruction.DeeplyOrdered) →
    (∀ instruction ∈ right, instruction.DeeplyOrdered) →
    Json.sortedItems (listToJson left) = Json.sortedItems (listToJson right) → left = right
  | [], [], _, _, _ => rfl
  | [], _ :: _, _, _, same | _ :: _, [], _, _, same => nomatch same
  | left :: rest, right :: rest', ordered, ordered', same => by
    obtain ⟨first, later⟩ := List.forall_mem_cons.mp ordered
    obtain ⟨first', later'⟩ := List.forall_mem_cons.mp ordered'
    obtain ⟨head, tail⟩ := List.cons.inj same
    rw [sorted_toJson_inj left right first first' head,
      sortedItems_listToJson_inj rest rest' later later' tail]

/-- Branches of choices that are the same data are the same. -/
theorem sortedItems_branchesToJson_inj : (left right : List (Command × List Instruction)) →
    (∀ branch ∈ left, branch.1.captures.DeeplyOrdered) →
    (∀ branch ∈ right, branch.1.captures.DeeplyOrdered) →
    (∀ branch ∈ left, ∀ instruction ∈ branch.2, instruction.DeeplyOrdered) →
    (∀ branch ∈ right, ∀ instruction ∈ branch.2, instruction.DeeplyOrdered) →
    Json.sortedItems (branchesToJson left) = Json.sortedItems (branchesToJson right) → left = right
  | [], [], _, _, _, _, _ => rfl
  | [], _ :: _, _, _, _, _, same | _ :: _, [], _, _, _, _, same => nomatch same
  | (left, body) :: rest, (right, body') :: rest', ordered, ordered', inner, inner', same => by
    obtain ⟨captures, others⟩ := List.forall_mem_cons.mp ordered
    obtain ⟨captures', others'⟩ := List.forall_mem_cons.mp ordered'
    obtain ⟨first, later⟩ := List.forall_mem_cons.mp inner
    obtain ⟨first', later'⟩ := List.forall_mem_cons.mp inner'
    obtain ⟨head, tail⟩ := List.cons.inj same
    rw [Command.sorted_toEntries_block captures, Command.sorted_toEntries_block captures'] at head
    obtain ⟨block, entries⟩ := List.cons.inj (Json.object.inj head)
    have blocks := Json.list.inj (Prod.mk.inj block).2
    obtain rfl : left = right := Command.eq_of_toJson entries
    rw [sortedItems_listToJson_inj body body' first first' blocks,
      sortedItems_branchesToJson_inj rest rest' others others' later later' tail]

end

/-- No two lists of instructions have the same data. This is so for the data as they are written,
and, if the captures of all commands are in the order of their names, for the data in whatever order
the entries of objects stand. -/
theorem toJson_loses_nothing :
    (∀ left right : List Instruction, listToJson left = listToJson right ↔ left = right) ∧
    (∀ left right : List Instruction, (∀ instruction ∈ left, instruction.DeeplyOrdered) →
      (∀ instruction ∈ right, instruction.DeeplyOrdered) →
      ((Json.list (listToJson left)).sorted = (Json.list (listToJson right)).sorted ↔
        left = right)) := by
  refine ⟨fun left right => ⟨listToJson_inj left right, fun same => by rw [same]⟩,
    fun left right ordered ordered' => ⟨fun same => ?_, fun same => by rw [same]⟩⟩
  exact sortedItems_listToJson_inj left right ordered ordered' (Json.list.inj same)

/-- A loop without a body is told apart from the command alone, also if the loop captures something
under the name of a block. -/
theorem toJson_loses_nothing_empty_block :
    (Json.list (listToJson [.block ⟨"do", [("block", .repeated [])]⟩ []])).sorted ≠
      (Json.list (listToJson [.simple ⟨"do", [("block", .nested [])]⟩])).sorted := by
  have repeated : Captures.DeeplyOrdered [("block", .repeated [])] :=
    ⟨Captures.ordered_singleton "block" _, List.forall_mem_singleton.mpr (.repeated nofun nofun)⟩
  have nested : Captures.DeeplyOrdered [("block", .nested [])] :=
    ⟨Captures.ordered_singleton "block" _,
      List.forall_mem_singleton.mpr (.nested Captures.ordered_empty nofun)⟩
  have apart := toJson_loses_nothing.2 [.block ⟨"do", [("block", .repeated [])]⟩ []]
    [.simple ⟨"do", [("block", .nested [])]⟩]
    (List.forall_mem_singleton.mpr (.block repeated nofun))
    (List.forall_mem_singleton.mpr (.simple nested))
  exact fun same => nomatch apart.mp same

end Instruction

end Order

end ReportLang
