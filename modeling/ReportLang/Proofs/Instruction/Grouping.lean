import Mathlib.Data.List.Forall2
import ReportLang.Proofs.Instruction.Flatten
import ReportLang.Proofs.Result

/-!
# Grouping and writing out are inverse

Grouping succeeds exactly on the commands that well-formed instructions stand for, and yields these
instructions. `Group.Step` says once what taking a command into the block structure can do. In one
direction, the commands taken so far are always those that the progress stands for
(`Progress.written`); in the other, taking the commands of an instruction adds the instruction.
-/

namespace ReportLang

namespace Group

/-- What taking a command can do to the progress of grouping. -/
inductive Step : Progress → Command → Progress → Prop where
  /-- A plain command is added to the innermost block. -/
  | plain {collected frames command} (role : command.role = .plain) :
    Step ⟨collected, frames⟩ command ⟨.simple command :: collected, frames⟩
  /-- A choice is opened. -/
  | openChoice {collected frames command} (role : command.role = .opensChoice) :
    Step ⟨collected, frames⟩ command ⟨[], ⟨.choice [] command, collected⟩ :: frames⟩
  /-- A loop is opened. -/
  | openLoop {collected frames command} (role : command.role = .opensLoop) :
    Step ⟨collected, frames⟩ command ⟨[], ⟨.loop command, collected⟩ :: frames⟩
  /-- A record declaration is opened. -/
  | openRecord {collected frames command} (role : command.role = .opensRecord) :
    Step ⟨collected, frames⟩ command ⟨[], ⟨.record command, collected⟩ :: frames⟩
  /-- The next branch of a choice is started, unless the current one is the last. -/
  | nextBranch {collected frames command finished current before}
    (role : command.role = .continuesChoice) (further : current.keyword ≠ "else") :
    Step ⟨collected, ⟨.choice finished current, before⟩ :: frames⟩ command
      ⟨[], ⟨.choice ((current, collected.reverse) :: finished) command, before⟩ :: frames⟩
  /-- A choice is closed. -/
  | closeChoice {collected frames command finished current before}
    (role : command.role = .closesChoice) :
    Step ⟨collected, ⟨.choice finished current, before⟩ :: frames⟩ command
      ⟨.choice ((current, collected.reverse) :: finished).reverse :: before, frames⟩
  /-- A loop is closed by the keyword that belongs to its own. -/
  | closeLoop {collected frames command opener before}
    (role : command.role = .closesLoop opener.keyword) :
    Step ⟨collected, ⟨.loop opener, before⟩ :: frames⟩ command
      ⟨.block opener collected.reverse :: before, frames⟩
  /-- A record declaration is closed under its own keyword and name. -/
  | closeRecord {collected frames command opener before}
    (role : command.role = .closesRecord) (keyword : opener.keyword = command.keyword)
    (name : opener.recordName? = command.recordName?) :
    Step ⟨collected, ⟨.record opener, before⟩ :: frames⟩ command
      ⟨.block opener collected.reverse :: before, frames⟩

/-- Starting a further branch succeeds exactly inside a choice that has no last branch yet. -/
theorem branch_eq_ok_iff {progress after : Progress} {command : Command} {closes : Bool}
    (role : command.role = if closes then .closesChoice else .continuesChoice) :
    branch progress command closes = .ok after ↔ Step progress command after := by
  obtain ⟨collected, frames⟩ := progress
  constructor
  · intro taken
    unfold branch at taken
    split at taken
    · simp at taken
    · rename_i finished current before outer same
      obtain rfl : frames = ⟨.choice finished current, before⟩ :: outer := same
      cases closes with
      | true =>
        simp only [Bool.not_true, Bool.and_false, Bool.false_eq_true, ↓reduceIte,
          Except.ok.injEq] at taken
        subst taken
        exact .closeChoice role
      | false =>
        by_cases last : current.keyword = "else"
        · simp [last] at taken
        · simp only [last, decide_false, Bool.false_and, Bool.false_eq_true, ↓reduceIte,
            Except.ok.injEq] at taken
          subst taken
          exact .nextBranch role last
    · simp at taken
  · intro taken
    cases closes with
    | true =>
      cases taken <;> simp_all [branch, Progress.body]
    | false =>
      cases taken <;> simp_all [branch, Progress.body]

/-- Closing a loop succeeds exactly inside a loop of the keyword that is closed. -/
theorem closeLoop_eq_ok_iff {progress after : Progress} {command : Command} {keyword : String}
    (role : command.role = .closesLoop keyword) :
    closeLoop progress command keyword = .ok after ↔ Step progress command after := by
  obtain ⟨collected, frames⟩ := progress
  constructor
  · intro taken
    unfold closeLoop at taken
    split at taken
    · simp at taken
    · rename_i pending before outer same
      obtain rfl : frames = ⟨pending, before⟩ :: outer := same
      cases pending with
      | loop opener =>
        by_cases own : opener.keyword = keyword
        · simp only [own, ↓reduceIte, Except.ok.injEq] at taken
          subst taken
          exact .closeLoop (own ▸ role)
        · simp [own] at taken
      | choice finished current => simp at taken
      | record opener => simp at taken
  · intro taken
    cases taken <;> simp_all [closeLoop, Progress.body]

/-- Closing a record declaration succeeds exactly inside one of the same keyword and name. -/
theorem closeRecord_eq_ok_iff {progress after : Progress} {command : Command}
    (role : command.role = .closesRecord) :
    closeRecord progress command = .ok after ↔ Step progress command after := by
  obtain ⟨collected, frames⟩ := progress
  constructor
  · intro taken
    unfold closeRecord at taken
    split at taken
    · simp at taken
    · rename_i pending before outer same
      obtain rfl : frames = ⟨pending, before⟩ :: outer := same
      cases pending with
      | record opener =>
        by_cases keyword : opener.keyword = command.keyword
        · by_cases name : opener.recordName? = command.recordName?
          · simp only [keyword, name, ne_eq, not_true_eq_false, ↓reduceIte,
              Except.ok.injEq] at taken
            subst taken
            exact .closeRecord role keyword name
          · simp [keyword, name] at taken
        · simp [keyword] at taken
      | choice finished current => simp at taken
      | loop opener => simp at taken
  · intro taken
    cases taken <;> simp_all [closeRecord, Progress.body]

/-- Taking a command succeeds exactly as the relation says. -/
theorem step_eq_ok_iff {progress after : Progress} {command : Command} :
    step progress command = .ok after ↔ Step progress command after := by
  unfold step
  split
  case h_2 role => exact branch_eq_ok_iff role
  case h_3 role => exact branch_eq_ok_iff role
  case h_5 keyword role => exact closeLoop_eq_ok_iff role
  case h_7 role => exact closeRecord_eq_ok_iff role
  all_goals
    rename_i role
    constructor
    · intro taken
      simp only [Except.ok.injEq] at taken
      subst taken
      constructor
      exact role
    · intro taken
      cases taken <;> simp_all [Progress.push, Progress.add]

/-- The commands that a pending block stands for: those of its finished branches, and the one that
opens what is being collected. -/
def Pending.written : Pending → List Command
  | .choice finished current => Instruction.flattenBranches finished.reverse ++ [current]
  | .loop opener => [opener]
  | .record opener => [opener]

/-- The commands that the open blocks stand for, with the instructions before each of them. -/
def writtenFrames : List Frame → List Command
  | [] => []
  | frame :: outer =>
    writtenFrames outer ++ Instruction.flattenAll frame.before.reverse ++ frame.pending.written

/-- The commands that have been taken, apart from the captures of closing commands. -/
def Progress.written (progress : Progress) : List Command :=
  writtenFrames progress.frames ++ Instruction.flattenAll progress.body

/-- Whether a pending block can become a well-formed instruction. -/
def Pending.WellFormed : Pending → Prop
  | .choice finished current =>
    Instruction.IsChain (finished.reverse.map (·.1.keyword) ++ [current.keyword]) ∧
      Instruction.WellFormedBranches finished.reverse
  | .loop opener => opener.role = .opensLoop
  | .record opener => opener.role = .opensRecord

/-- Whether everything collected so far is well-formed. -/
structure Progress.WellFormed (progress : Progress) : Prop where
  /-- The instructions of the innermost block. -/
  collected : ∀ instruction ∈ progress.collected, instruction.WellFormed
  /-- The open blocks. -/
  pending : ∀ frame ∈ progress.frames, frame.pending.WellFormed
  /-- The instructions before the open blocks. -/
  before : ∀ frame ∈ progress.frames, ∀ instruction ∈ frame.before, instruction.WellFormed

/-- A chain without its last branch goes on with either keyword of a further branch. -/
theorem isChain_append {keywords : List String} {current next : String}
    (chain : Instruction.IsChain (keywords ++ [current])) (further : current ≠ "else")
    (continues : next = "elseif" ∨ next = "else") :
    Instruction.IsChain (keywords ++ [current] ++ [next]) := by
  obtain ⟨count, last, ends, same⟩ := chain
  rw [same]
  rcases ends with rfl | rfl
  · rcases continues with rfl | rfl
    · exact ⟨count + 1, [], .inl rfl, by simp [List.replicate_succ']⟩
    · exact ⟨count, ["else"], .inr rfl, by simp⟩
  · have tail := congrArg List.getLast? same
    simp [List.getLast?_append, List.getLast?_cons] at tail
    exact absurd tail further

/-- A command that closes a choice is the one that is written, its captures apart. -/
theorem agrees_endOfChoice {command : Command} (role : command.role = .closesChoice) :
    command.Agrees Command.endOfChoice := by
  have keyword := Command.role_eq_closesChoice_iff.mp role
  refine .inr ⟨by rw [role]; rfl, ?_, keyword, ?_⟩
  · rw [role]
    exact (Command.role_eq_closesChoice_iff.mpr rfl).symm
  · rw [role]
    intro other
    cases other

/-- A command that closes a loop is the one that is written for its opener, its captures apart. -/
theorem agrees_endOfLoop {command opener : Command}
    (role : command.role = .closesLoop opener.keyword) : command.Agrees opener.endOfBlock := by
  have written : opener.endOfBlock.keyword = command.keyword ∧
      opener.endOfBlock.role = command.role := by
    rw [role]
    rcases Command.role_eq_closesLoop_iff.mp role with ⟨closer, own⟩ | ⟨closer, own⟩
    · simp [Command.endOfBlock, own, closer, Command.role_eq_closesLoop_iff]
    · simp [Command.endOfBlock, own, closer, Command.role_eq_closesLoop_iff]
  refine .inr ⟨by rw [role]; rfl, written.2.symm, written.1.symm, ?_⟩
  rw [role]
  intro other
  cases other

/-- What `end of` captures for a name is the flag, the name and nothing else. -/
theorem endCaptures_reads (name : Option Lexeme) :
    (Command.endCaptures name).flag "begin" = false ∧
      (Command.endCaptures name).flag "end" = true ∧
      (Command.endCaptures name).single? "struc" = name := by
  cases name with
  | none => exact ⟨rfl, rfl, rfl⟩
  | some lexeme => exact ⟨rfl, rfl, rfl⟩

/-- The closing command of a record declaration is written under its keyword and name. -/
theorem endOfRecord_reads {opener : Command} (role : opener.role = .opensRecord) :
    opener.endOfBlock.keyword = opener.keyword ∧ opener.endOfBlock.role = .closesRecord ∧
      opener.endOfBlock.recordName? = opener.recordName? := by
  have other := (Command.role_eq_opensRecord_iff.mp role).1
  have reads := endCaptures_reads opener.recordName?
  have closing : opener.endOfBlock = ⟨opener.keyword, Command.endCaptures opener.recordName?⟩ := by
    unfold Command.endOfBlock
    rw [if_neg, if_neg]
    · intro own
      simp [own, blockKeywords] at other
    · intro own
      simp [own, blockKeywords] at other
  rw [closing]
  exact ⟨rfl, Command.role_eq_closesRecord_iff.mpr ⟨other, reads.1, reads.2.1⟩, reads.2.2⟩

/-- A command that closes a record declaration is the one that is written for its opener, other
captures apart. -/
theorem agrees_endOfRecord {command opener : Command} (opens : opener.role = .opensRecord)
    (role : command.role = .closesRecord) (keyword : opener.keyword = command.keyword)
    (name : opener.recordName? = command.recordName?) : command.Agrees opener.endOfBlock := by
  obtain ⟨sameKeyword, sameRole, sameName⟩ := endOfRecord_reads opens
  refine .inr ⟨by rw [role]; rfl, role.trans sameRole.symm, ?_, fun _ => ?_⟩
  · rw [sameKeyword, keyword]
  · rw [sameName, name]

/-- Opening a block keeps the progress well-formed. -/
theorem Progress.WellFormed.push {progress : Progress} {pending : Pending}
    (wellFormed : progress.WellFormed) (opened : pending.WellFormed) :
    (progress.push pending).WellFormed where
  collected := by simp [Progress.push]
  pending := by simpa [Progress.push, opened] using wellFormed.pending
  before := by simpa [Progress.push] using ⟨wellFormed.collected, wellFormed.before⟩

/-- Opening a block writes the commands that open it. -/
theorem Progress.written_push (progress : Progress) (pending : Pending) :
    (progress.push pending).written = progress.written ++ pending.written := by
  simp [Progress.written, Progress.push, Progress.body, writtenFrames, Instruction.flattenAll]

/-- Closing the innermost block by a well-formed instruction keeps the progress well-formed. -/
theorem Progress.WellFormed.close {collected before : List Instruction} {pending : Pending}
    {frames : List Frame} {instruction : Instruction}
    (wellFormed : Progress.WellFormed ⟨collected, ⟨pending, before⟩ :: frames⟩)
    (closed : instruction.WellFormed) :
    Progress.WellFormed ⟨instruction :: before, frames⟩ where
  collected := by
    have outer := wellFormed.before ⟨pending, before⟩ (by simp)
    simpa [closed] using outer
  pending := fun frame member => wellFormed.pending frame (by simp [member])
  before := fun frame member => wellFormed.before frame (by simp [member])

/-- Closing the innermost block writes the closing command, if the instruction stands for the
pending commands, the collected ones and that command. -/
theorem Progress.written_close {collected before : List Instruction} {pending : Pending}
    {frames : List Frame} {instruction : Instruction} {closer : Command}
    (closed : instruction.flatten =
      pending.written ++ (Instruction.flattenAll collected.reverse ++ [closer])) :
    Progress.written ⟨instruction :: before, frames⟩ =
      Progress.written ⟨collected, ⟨pending, before⟩ :: frames⟩ ++ [closer] := by
  simp [Progress.written, Progress.body, writtenFrames, Instruction.flattenAll_append,
    Instruction.flattenAll, closed]

/-- The instructions of the innermost block are well-formed, also in their order. -/
theorem Progress.WellFormed.body {progress : Progress} (wellFormed : progress.WellFormed) :
    Instruction.WellFormedAll progress.body := by
  rw [Instruction.wellFormedAll_iff]
  intro instruction member
  exact wellFormed.collected instruction (List.mem_reverse.mp member)

/-- Finished branches and the current one, with its body collected, are in order if the pending
choice is. -/
theorem Pending.WellFormed.branches {finished : List (Command × List Instruction)}
    {current : Command} {body : List Instruction}
    (pending : (Pending.choice finished current).WellFormed)
    (inner : Instruction.WellFormedAll body) :
    Instruction.WellFormedBranches ((current, body) :: finished).reverse := by
  have earlier := (Instruction.wellFormedBranches_iff _).mp pending.2
  rw [Instruction.wellFormedBranches_iff]
  intro branch member
  simp only [List.reverse_cons, List.mem_append, List.mem_singleton] at member
  rcases member with old | rfl
  · exact earlier branch old
  · exact inner

/-- One step keeps the progress well-formed and writes one more command, the one that is taken. -/
theorem Step.written {progress after : Progress} {command : Command}
    (taken : Step progress command after) (wellFormed : progress.WellFormed) :
    after.WellFormed ∧ ∃ closer, command.Agrees closer ∧
      after.written = progress.written ++ [closer] := by
  cases taken with
  | plain role =>
    refine ⟨⟨?_, wellFormed.pending, wellFormed.before⟩, command, .inl rfl, ?_⟩
    · have inner := wellFormed.collected
      simpa [Instruction.WellFormed, Command.role_eq_plain_iff.mp role] using inner
    · simp [Progress.written, Progress.body, Instruction.flattenAll_append,
        Instruction.flattenAll, Instruction.flatten]
  | openChoice role =>
    have keyword := Command.role_eq_opensChoice_iff.mp role
    have opened : (Pending.choice [] command).WellFormed := by
      refine ⟨⟨0, [], .inl rfl, by simp [keyword]⟩, ?_⟩
      simp [Instruction.WellFormedBranches]
    exact ⟨wellFormed.push opened, command, .inl rfl,
      Progress.written_push ⟨_, _⟩ (.choice [] command)⟩
  | openLoop role =>
    have opened : (Pending.loop command).WellFormed := role
    exact ⟨wellFormed.push opened, command, .inl rfl,
      Progress.written_push ⟨_, _⟩ (.loop command)⟩
  | openRecord role =>
    have opened : (Pending.record command).WellFormed := role
    exact ⟨wellFormed.push opened, command, .inl rfl,
      Progress.written_push ⟨_, _⟩ (.record command)⟩
  | nextBranch role further =>
    rename_i collected frames finished current before
    have pending := wellFormed.pending ⟨.choice finished current, before⟩ (by simp)
    have continues := Command.role_eq_continuesChoice_iff.mp role
    refine ⟨⟨by simp, ?_, ?_⟩, command, .inl rfl, ?_⟩
    · intro frame member
      rcases List.mem_cons.mp member with rfl | outer
      · refine ⟨?_, pending.branches wellFormed.body⟩
        simpa using isChain_append pending.1 further continues
      · exact wellFormed.pending frame (by simp [outer])
    · intro frame member
      rcases List.mem_cons.mp member with rfl | outer
      · exact wellFormed.before ⟨.choice finished current, before⟩ (by simp)
      · exact wellFormed.before frame (by simp [outer])
    · simp [Progress.written, Progress.body, writtenFrames, Pending.written,
        Instruction.flattenAll, Instruction.flattenBranches_append, Instruction.flattenBranches]
  | closeChoice role =>
    rename_i collected frames finished current before
    have pending := wellFormed.pending ⟨.choice finished current, before⟩ (by simp)
    refine ⟨wellFormed.close ?_, Command.endOfChoice, agrees_endOfChoice role,
      Progress.written_close ?_⟩
    · exact ⟨by simpa using pending.1, pending.branches wellFormed.body⟩
    · simp [Instruction.flatten, Pending.written, Instruction.flattenBranches_append,
        Instruction.flattenBranches]
  | closeLoop role =>
    rename_i collected frames opener before
    have opens : opener.role = .opensLoop := wellFormed.pending ⟨.loop opener, before⟩ (by simp)
    refine ⟨wellFormed.close ?_, opener.endOfBlock, agrees_endOfLoop role,
      Progress.written_close ?_⟩
    · have keyword := Command.role_eq_opensLoop_iff.mp opens
      exact ⟨by tauto, wellFormed.body⟩
    · simp [Instruction.flatten, Pending.written]
  | closeRecord role keyword name =>
    rename_i collected frames opener before
    have opens : opener.role = .opensRecord :=
      wellFormed.pending ⟨.record opener, before⟩ (by simp)
    refine ⟨wellFormed.close ?_, opener.endOfBlock,
      agrees_endOfRecord opens role keyword name, Progress.written_close ?_⟩
    · exact ⟨.inr (.inr (Command.role_eq_opensRecord_iff.mp opens)), wellFormed.body⟩
    · simp [Instruction.flatten, Pending.written]

/-- A run of steps keeps the progress well-formed and writes exactly the commands that are taken. -/
theorem written_of_foldlM_step {commands : List Command} {progress after : Progress}
    (taken : commands.foldlM step progress = .ok after) (wellFormed : progress.WellFormed) :
    after.WellFormed ∧ ∃ written, List.Forall₂ Command.Agrees commands written ∧
      after.written = progress.written ++ written := by
  induction commands generalizing progress with
  | nil =>
    obtain rfl : progress = after := by simpa [pure, Except.pure] using taken
    exact ⟨wellFormed, [], .nil, by simp⟩
  | cons command rest ih =>
    rw [List.foldlM_cons, Result.bind_eq_ok] at taken
    obtain ⟨middle, first, later⟩ := taken
    obtain ⟨kept, closer, agrees, one⟩ := (step_eq_ok_iff.mp first).written wellFormed
    obtain ⟨ended, written, agree, all⟩ := ih later kept
    exact ⟨ended, closer :: written, .cons agrees agree, by rw [all, one]; simp⟩

/-- Whether keywords are those of the branches of a choice after the first one. -/
def IsTail (keywords : List String) : Prop :=
  ∃ (count : Nat) (last : List String), (last = [] ∨ last = ["else"]) ∧
    keywords = List.replicate count "elseif" ++ last

/-- A further branch is the last one, or others follow it in the same way. -/
theorem IsTail.cons {next : String} {later : List String} (tail : IsTail (next :: later)) :
    (next = "elseif" ∨ next = "else") ∧ (later ≠ [] → next ≠ "else") ∧ IsTail later := by
  obtain ⟨count, last, ends, same⟩ := tail
  cases count with
  | zero =>
    rcases ends with rfl | rfl
    · simp at same
    · simp only [List.replicate_zero, List.nil_append, List.cons.injEq] at same
      obtain ⟨rfl, rfl⟩ := same
      exact ⟨.inr rfl, by simp, 0, [], .inl rfl, by simp⟩
  | succ count =>
    simp only [List.replicate_succ, List.cons_append, List.cons.injEq] at same
    obtain ⟨rfl, rfl⟩ := same
    exact ⟨.inl rfl, fun _ => by decide, count, last, ends, rfl⟩

/-- A step that the relation allows comes first in a run. -/
theorem foldlM_step_cons {progress middle : Progress} {command : Command}
    {rest : List Command} (taken : Step progress command middle) :
    (command :: rest).foldlM step progress = rest.foldlM step middle := by
  rw [List.foldlM_cons, step_eq_ok_iff.mpr taken]
  rfl

/-- Commands that have been taken come first in a run. -/
theorem foldlM_step_append {progress middle : Progress} {commands rest : List Command}
    (taken : commands.foldlM step progress = .ok middle) :
    (commands ++ rest).foldlM step progress = rest.foldlM step middle := by
  rw [List.foldlM_append, taken]
  rfl

/-- A block is taken by taking its opener, what it encloses and its closer. -/
theorem foldlM_step_block {progress opened inner after : Progress} {opener closer : Command}
    {commands : List Command} (first : Step progress opener opened)
    (middle : commands.foldlM step opened = .ok inner) (last : Step inner closer after) :
    (opener :: (commands ++ [closer])).foldlM step progress = .ok after := by
  rw [foldlM_step_cons first, foldlM_step_append middle, foldlM_step_cons last]
  rfl

mutual

/-- Taking the commands of a well-formed instruction adds the instruction. -/
theorem foldlM_step_flatten (instruction : Instruction) (wellFormed : instruction.WellFormed)
    (collected : List Instruction) (frames : List Frame) :
    instruction.flatten.foldlM step ⟨collected, frames⟩ =
      .ok ⟨instruction :: collected, frames⟩ := by
  cases instruction with
  | simple command =>
    have role := Command.role_eq_plain_iff.mpr wellFormed
    rw [Instruction.flatten, foldlM_step_cons (.plain role)]
    rfl
  | block opener body =>
    obtain ⟨opens, inner⟩ := wellFormed
    rw [Instruction.flatten]
    rw [← or_assoc, ← Command.role_eq_opensLoop_iff, ← Command.role_eq_opensRecord_iff] at opens
    rcases opens with loop | record
    · have closes : opener.endOfBlock.role = .closesLoop opener.keyword := by
        rcases Command.role_eq_opensLoop_iff.mp loop with own | own
        · simp [Command.endOfBlock, own, Command.role_eq_closesLoop_iff]
        · simp [Command.endOfBlock, own, Command.role_eq_closesLoop_iff]
      have closed := foldlM_step_block (.openLoop loop)
        (foldlM_step_flattenAll body inner [] (⟨.loop opener, collected⟩ :: frames))
        (.closeLoop closes)
      simpa using closed
    · obtain ⟨keyword, closes, name⟩ := endOfRecord_reads record
      have closed := foldlM_step_block (.openRecord record)
        (foldlM_step_flattenAll body inner [] (⟨.record opener, collected⟩ :: frames))
        (.closeRecord closes keyword.symm name.symm)
      simpa using closed
  | choice branches =>
    obtain ⟨⟨count, last, ends, keywords⟩, inner⟩ := wellFormed
    cases branches with
    | nil => simp at keywords
    | cons first rest =>
      obtain ⟨command, body⟩ := first
      simp only [List.map_cons, List.cons.injEq] at keywords
      have opens := Command.role_eq_opensChoice_iff.mpr keywords.1
      rw [Instruction.flatten, Instruction.flattenBranches, List.cons_append,
        foldlM_step_cons (.openChoice opens), List.append_assoc,
        foldlM_step_append (foldlM_step_flattenAll body inner.1 _ _), List.append_nil]
      refine foldlM_step_flattenBranches rest inner.2 command body [] collected frames
        ⟨count, last, ends, keywords.2⟩ fun _ => ?_
      rw [keywords.1]
      decide
termination_by structural instruction

/-- Taking the commands of well-formed instructions adds the instructions. -/
theorem foldlM_step_flattenAll (program : List Instruction)
    (wellFormed : Instruction.WellFormedAll program) (collected : List Instruction)
    (frames : List Frame) :
    (Instruction.flattenAll program).foldlM step ⟨collected, frames⟩ =
      .ok ⟨program.reverse ++ collected, frames⟩ := by
  cases program with
  | nil => rfl
  | cons instruction rest =>
    rw [Instruction.flattenAll,
      foldlM_step_append (foldlM_step_flatten instruction wellFormed.1 collected frames),
      foldlM_step_flattenAll rest wellFormed.2, List.reverse_cons, List.append_assoc]
    rfl
termination_by structural program

/-- Taking the commands of further branches and the closing one adds the whole choice. -/
theorem foldlM_step_flattenBranches (branches : List (Command × List Instruction))
    (wellFormed : Instruction.WellFormedBranches branches) (current : Command)
    (body : List Instruction) (finished : List (Command × List Instruction))
    (before : List Instruction) (frames : List Frame)
    (tail : IsTail (branches.map (·.1.keyword)))
    (further : branches ≠ [] → current.keyword ≠ "else") :
    (Instruction.flattenBranches branches ++ [Command.endOfChoice]).foldlM step
        ⟨body.reverse, ⟨.choice finished current, before⟩ :: frames⟩ =
      .ok ⟨.choice (finished.reverse ++ (current, body) :: branches) :: before, frames⟩ := by
  cases branches with
  | nil =>
    have closes : Command.endOfChoice.role = .closesChoice :=
      Command.role_eq_closesChoice_iff.mpr rfl
    rw [Instruction.flattenBranches, List.nil_append, foldlM_step_cons (.closeChoice closes)]
    simp [pure, Except.pure]
  | cons next later =>
    obtain ⟨command, inner⟩ := next
    obtain ⟨continues, more, rest⟩ := tail.cons
    have role := Command.role_eq_continuesChoice_iff.mpr continues
    rw [Instruction.flattenBranches, List.cons_append,
      foldlM_step_cons (.nextBranch role (further (by simp))), List.append_assoc,
      foldlM_step_append (foldlM_step_flattenAll inner wellFormed.1 _ _), List.append_nil,
      foldlM_step_flattenBranches later wellFormed.2 command inner _ before frames rest
        (by simpa using more)]
    simp
termination_by structural branches

end

/-- A step looks at a closing command only as far as commands agree. -/
theorem Step.of_agrees {progress after : Progress} {given written : Command}
    (agrees : given.Agrees written) (taken : Step progress written after) :
    Step progress given after := by
  rcases agrees with rfl | ⟨closes, sameRole, sameKeyword, sameName⟩
  · exact taken
  · cases taken with
    | closeChoice role => exact .closeChoice (sameRole.trans role)
    | closeLoop role => exact .closeLoop (sameRole.trans role)
    | closeRecord role keyword name =>
      have own := sameRole.trans role
      exact .closeRecord own (keyword.trans sameKeyword.symm) (name.trans (sameName own).symm)
    | plain role => simp [sameRole, role, Command.Role.closes] at closes
    | openChoice role => simp [sameRole, role, Command.Role.closes] at closes
    | openLoop role => simp [sameRole, role, Command.Role.closes] at closes
    | openRecord role => simp [sameRole, role, Command.Role.closes] at closes
    | nextBranch role _ => simp [sameRole, role, Command.Role.closes] at closes

/-- A run looks at closing commands only as far as commands agree. -/
theorem foldlM_step_of_agrees {given written : List Command} {progress after : Progress}
    (agree : List.Forall₂ Command.Agrees given written)
    (taken : written.foldlM step progress = .ok after) :
    given.foldlM step progress = .ok after := by
  induction agree generalizing progress with
  | nil => exact taken
  | cons agrees _ ih =>
    rw [List.foldlM_cons, Result.bind_eq_ok] at taken
    obtain ⟨middle, first, later⟩ := taken
    rw [foldlM_step_cons ((step_eq_ok_iff.mp first).of_agrees agrees)]
    exact ih later

/-- Nothing has been taken at the start. -/
theorem Progress.start_wellFormed : Progress.start.WellFormed where
  collected := by simp [Progress.start]
  pending := by simp [Progress.start]
  before := by simp [Progress.start]

end Group

namespace Instruction

/-- What grouping yields is well-formed and stands for the commands that were given. -/
theorem flatten_of_group {commands : List Command} {program : List Instruction}
    (grouped : group commands = .ok program) :
    WellFormedAll program ∧ List.Forall₂ Command.Agrees commands (flattenAll program) := by
  rw [group, Result.bind_eq_ok] at grouped
  obtain ⟨progress, taken, finished⟩ := grouped
  obtain ⟨wellFormed, written, agree, all⟩ :=
    Group.written_of_foldlM_step taken Group.Progress.start_wellFormed
  unfold Group.finish at finished
  split at finished
  · simp at finished
  · rename_i closed
    simp only [Except.ok.injEq] at finished
    subst finished
    refine ⟨wellFormed.body, ?_⟩
    have same : flattenAll progress.body = written := by
      simpa [Group.Progress.written, closed, Group.writtenFrames, Group.Progress.start,
        Group.Progress.body, flattenAll] using all
    rw [same]
    exact agree

/-- Commands that well-formed instructions stand for are grouped into these instructions. -/
theorem group_of_flatten {commands : List Command} {program : List Instruction}
    (wellFormed : WellFormedAll program)
    (agree : List.Forall₂ Command.Agrees commands (flattenAll program)) :
    group commands = .ok program := by
  have taken := Group.foldlM_step_of_agrees agree
    (Group.foldlM_step_flattenAll program wellFormed [] [])
  rw [group, Group.Progress.start, taken]
  simp [bind, Except.bind, Group.finish, Group.Progress.body]

end Instruction

end ReportLang
