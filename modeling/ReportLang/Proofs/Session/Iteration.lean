import ReportLang.Proofs.Session.Loops

/-!
# Counted loops are bounded iteration

A loop with a number of passes runs its block once for each of the numbers up to it, in turn
(`iterate`). The number is read when the loop is entered, and nothing that the block does changes
how many passes there are, unless it leaves the loop or fails. What leaves the loop is an `EXIT` of
the block itself; one inside of a nested loop leaves that loop alone.
-/

namespace ReportLang

open Result ReportLang.Action ReportLang.Update

mutual

/-- Whether an instruction may leave the loop around it. Loops inside of it end when they are left,
and the declarations of a record are not executed. -/
def Instruction.mayLeave : Instruction → Bool
  | .simple command => command.keyword = "exit"
  | .choice branches => Instruction.anyBranchMayLeave branches
  | .block .. => false

/-- Whether one of some instructions may leave the loop around it. -/
def Instruction.anyMayLeave : List Instruction → Bool
  | [] => false
  | instruction :: rest => instruction.mayLeave || Instruction.anyMayLeave rest

/-- Whether an instruction of one of some branches may leave the loop around it. -/
def Instruction.anyBranchMayLeave : List (Command × List Instruction) → Bool
  | [] => false
  | (_, body) :: rest => Instruction.anyMayLeave body || Instruction.anyBranchMayLeave rest

end

namespace Session

variable {host : Host}

/-- Runs a block once for each of some numbers, in turn. Each pass starts where the one before it
ended, with its number on top of those of the loops around. The passes end with the first one that
leaves the loop or fails, and then only the numbers of the loops around are left. -/
def iterate (block : Action Signal) (around : List Nat) : List Nat → Action Signal
  | [], session => (.ok .proceed, { session with loops := around })
  | number :: later, session =>
    match block { session with loops := number :: around } with
    | (.ok .leaveLoop, after) => (.ok .proceed, { after with loops := around })
    | (.ok .proceed, after) => iterate block around later after
    | (.ok .nextPass, after) => iterate block around later after
    | (.error failure, after) => (.error failure, { after with loops := around })

section Iteration

/-- Passes that are counted are an iteration, if the block leaves the numbers of passes alone. -/
theorem endLoop_countedPasses {block : Action Signal} (restores : Restores block)
    (left number : Nat) (session : Session) :
    endLoop (countedPasses block left number session) =
      iterate block session.loops.tail (List.range' number left) session := by
  induction left generalizing number session with
  | zero => rfl
  | succ left ih =>
    have start : setPass number session =
        { session with loops := number :: session.loops.tail } := rfl
    have passed : countedPasses block (left + 1) number session =
        afterPass (countedPasses block left (number + 1)) (block (setPass number session)) :=
      runPass_bind block number (countedPasses block left (number + 1)) session
    have kept := restores (setPass number session)
    rw [start] at passed kept
    rw [passed, List.range'_succ, iterate]
    generalize block { session with loops := number :: session.loops.tail } = outcome at kept
    obtain ⟨result, after⟩ := outcome
    -- The block leaves its own number on top, so that the same numbers are around the next pass.
    have around : after.loops.tail = session.loops.tail := by
      rw [kept]
      rfl
    have next := ih (number + 1) after
    rw [around] at next
    cases result with
    | error failure => simp [afterPass, endLoop, around, Except.map]
    | ok signal =>
      cases signal with
      | proceed => exact next
      | leaveLoop => simp [afterPass, endLoop, around, Except.map]
      | nextPass => exact next

end Iteration

section Leaving

/-- Whether an action does not leave the loop around it. -/
abbrev Stays (action : Action Signal) : Prop :=
  Update.Yields (· ≠ .leaveLoop) action

/-- A block as an instruction proceeds, if it succeeds: a loop ends when it is left, and the
declaration of a record does not signal. -/
theorem yields_block (opener : Command) (body : List Instruction) (session : Session) :
    Result.Yields (· = .proceed) (execute host (.block opener body) session).1 := by
  by_cases loop : opener.IsLoop
  · rw [execute_loop loop]
    exact Ends.map (Result.yields_any _) fun _ _ => rfl
  · obtain ⟨notTested, notCounted⟩ := not_or.mp loop
    rw [execute, if_neg notTested, if_neg notCounted]
    have declared : Update.Yields (· = Signal.proceed)
        (do declareRecord host opener body; return Signal.proceed) :=
      (Update.yields_any _).bind fun _ _ => keeps_pure rfl
    exact (declared session trivial).2

/-- A command other than `EXIT` does not leave the loop around it. -/
theorem stays_executeCommand {command : Command} (other : command.keyword ≠ "exit") :
    Stays (executeCommand host command) := by
  have proceeds (action : Action Unit) : Stays (do action; return Signal.proceed) :=
    (Update.yields_any action).bind fun _ _ => keeps_pure (by decide)
  unfold executeCommand
  split
  any_goals exact proceeds _
  · exact absurd ‹command.keyword = "exit"› other
  · exact keeps_pure (by decide)
  · exact keeps_throw trivial

mutual

/-- An instruction without an `EXIT` outside of nested loops does not leave the loop around it. -/
theorem stays_execute : (instruction : Instruction) → instruction.mayLeave = false →
    Stays (execute host instruction)
  | .simple command, inside => by
    rw [execute]
    exact stays_executeCommand (by simpa [Instruction.mayLeave] using inside)
  | .choice branches, inside => by
    rw [execute]
    rw [Instruction.mayLeave] at inside
    exact stays_executeFirst branches inside
  | .block opener body, _ => fun session _ => by
    refine ⟨trivial, yields_of_ok fun signal ended => ?_⟩
    rw [(yields_block opener body session).ok signal ended]
    decide

/-- Instructions without an `EXIT` outside of nested loops do not leave the loop around them. -/
theorem stays_executeAll : (program : List Instruction) →
    Instruction.anyMayLeave program = false → Stays (executeAll host program)
  | [], _ => by
    rw [executeAll]
    exact keeps_pure (by decide)
  | instruction :: rest, inside => by
    rw [Instruction.anyMayLeave, Bool.or_eq_false_iff] at inside
    rw [executeAll]
    refine (stays_execute instruction inside.1).bind fun signal stays => ?_
    cases signal with
    | proceed => exact stays_executeAll rest inside.2
    | leaveLoop => exact absurd rfl stays
    | nextPass => exact keeps_pure (by decide)

/-- Branches without an `EXIT` outside of nested loops do not leave the loop around them. -/
theorem stays_executeFirst : (branches : List (Command × List Instruction)) →
    Instruction.anyBranchMayLeave branches = false → Stays (executeFirst host branches)
  | [], _ => by
    rw [executeFirst]
    exact keeps_pure (by decide)
  | (command, body) :: rest, inside => by
    rw [Instruction.anyBranchMayLeave, Bool.or_eq_false_iff] at inside
    rw [executeFirst]
    refine (Update.yields_any (Action.read (·.condition host command.captures))).bind
      fun holds _ => ?_
    cases holds with
    | true => exact stays_executeAll body inside.1
    | false => exact stays_executeFirst rest inside.2

end

end Leaving

section Count

variable {opener : Command} {body : List Instruction} {session counted start : Session}
  {lexeme : Lexeme} {times : Int}

/-- A loop with a number of passes goes on exactly as long as this number is not reached, and tests
nothing for it. -/
theorem goesOn_iff (keyword : opener.keyword = "do")
    (written : opener.captures.single? "count" = some lexeme)
    (read : Action.read (·.count host lexeme) session = (.ok times, counted)) (done : Nat)
    (current tested : Session) :
    GoesOn host opener session done current tested ↔ done < times.toNat ∧ tested = current := by
  constructor
  · intro goesOn
    cases goesOn with
    | condition other => simp [keyword] at other
    | count _ same first left =>
      obtain rfl := Option.some.inj (written.symm.trans same)
      obtain rfl := Except.ok.inj (Prod.mk.inj (read.symm.trans first)).1
      exact ⟨left, rfl⟩
    | endless _ unwritten => simp [written] at unwritten
  · rintro ⟨left, rfl⟩
    exact .count keyword written read left

/-- The passes are numbered from one up to the number that was read. -/
theorem Pass.number_bounds (keyword : opener.keyword = "do")
    (written : opener.captures.single? "count" = some lexeme)
    (read : Action.read (·.count host lexeme) session = (.ok times, counted)) {number : Nat}
    (passed : Pass host opener body session number start) : 1 ≤ number ∧ number ≤ times.toNat := by
  cases passed with
  | first goesOn =>
    have left := ((goesOn_iff keyword written read _ _ _).mp goesOn).1
    omega
  | next _ _ _ goesOn =>
    have left := ((goesOn_iff keyword written read _ _ _).mp goesOn).1
    omega

/-- A loop that succeeds comes to the pass after one that does not leave it, as long as there are
passes left. -/
theorem Pass.exists_next {number : Nat} {signal : Signal} {after : Session}
    (passed : Pass host opener body session number start)
    (inside : Instruction.anyMayLeave body = false)
    (ended : execute host (.block opener body) session = (.ok signal, after))
    (goesOn : ∀ current, GoesOn host opener session number current current) :
    ∃ next, Pass host opener body session (number + 1) next := by
  have stayed : Stays (executeAll host body) := stays_executeAll body inside
  have stays := (stayed start trivial).2
  rcases outcome : executeAll host body start with ⟨result, between⟩
  rw [outcome] at stays
  cases result with
  | error failure =>
    -- A pass that fails makes the loop fail.
    have failed := passed.execute_eq outcome fun _ => rfl
    rw [ended] at failed
    cases (Prod.mk.inj failed).1
  | ok passSignal => exact ⟨_, passed.next outcome (stays.ok passSignal rfl) (goesOn between)⟩

/-- If a loop succeeds and its block cannot leave it, it comes to all of its passes. -/
theorem exists_pass (keyword : opener.keyword = "do")
    (written : opener.captures.single? "count" = some lexeme)
    (read : Action.read (·.count host lexeme) session = (.ok times, counted))
    (inside : Instruction.anyMayLeave body = false) {signal : Signal} {after : Session}
    (ended : execute host (.block opener body) session = (.ok signal, after)) (done : Nat)
    (left : done < times.toNat) : ∃ start, Pass host opener body session (done + 1) start := by
  have goesOn {number : Nat} (left : number < times.toNat) (current : Session) :
      GoesOn host opener session number current current :=
    (goesOn_iff keyword written read number current current).mpr ⟨left, rfl⟩
  induction done with
  | zero => exact ⟨_, .first (goesOn left _)⟩
  | succ done ih =>
    obtain ⟨start, passed⟩ := ih (by omega)
    exact passed.exists_next inside ended (goesOn left)

/-- A loop with a number of passes is the iteration of its block over the numbers from one up to the
number that was read when the loop was entered, none if that is negative, whatever the block does
meanwhile. Every pass has a number in this range, which the system record tells wherever an
instruction of the block starts. If the block has no `EXIT` outside of nested loops, a loop that
succeeds comes to all of these passes; a nested block proceeds whenever it succeeds, also if it is a
loop that is left. -/
theorem doLoop_is_iteration (body : List Instruction) (keyword : opener.keyword = "do")
    (written : opener.captures.single? "count" = some lexeme)
    (read : Action.read (·.count host lexeme) session = (.ok times, counted)) :
    execute host (.block opener body) session =
      iterate (executeAll host body) session.loops (List.range' 1 times.toNat) counted ∧
    (∀ number start, Pass host opener body session number start →
      1 ≤ number ∧ number ≤ times.toNat ∧
        (∀ asked, start.operand host "sy-index" asked = (.ok (.ofInteger number), asked + 1)) ∧
        ∀ instruction there, Starts host body start [] instruction there →
          ∀ asked, there.operand host "sy-index" asked = (.ok (.ofInteger number), asked + 1)) ∧
    (Instruction.anyMayLeave body = false → ∀ signal after,
      execute host (.block opener body) session = (.ok signal, after) →
      ∀ number, 1 ≤ number → number ≤ times.toNat →
        ∃ start, Pass host opener body session number start) ∧
    ∀ inner block start signal after,
      execute host (.block inner block) start = (.ok signal, after) → signal = .proceed := by
  refine ⟨?_, ?_, ?_, ?_⟩
  · have other : opener.keyword ≠ "while" := by simp [keyword]
    have around : counted.loops = session.loops := (restores_read _).loops_eq read
    rw [execute, if_neg other, if_pos keyword, doLoop, written]
    simp only [bind_apply, read, withinLoop_apply]
    rw [endLoop_countedPasses (restores_executeAll body), List.tail_cons, around]
    -- The first pass starts with its own number in place of the one the loop is entered with.
    cases times.toNat with
    | zero => rfl
    | succ left => rfl
  · intro number start passed
    obtain ⟨least, most⟩ := passed.number_bounds keyword written read
    have index {there : Session} (loops : there.loops = number :: session.loops) (asked : Nat) :
        there.operand host "sy-index" asked = (.ok (.ofInteger number), asked + 1) := by
      rw [operand_index, loops, List.headD_cons]
    exact ⟨least, most, index passed.loops,
      fun instruction there starts => index (starts.loops.trans passed.loops)⟩
  · intro inside signal after ended number least most
    obtain ⟨done, rfl⟩ : ∃ done, number = done + 1 := ⟨number - 1, by omega⟩
    exact exists_pass keyword written read inside ended done (by omega)
  · intro inner block start signal after ended
    exact (yields_block inner block start).ok signal (by rw [ended])

/-- The number of passes is read from a variable that the block changes, and the block runs another
loop that is left in its first pass. There are the two passes of the old value all the same. -/
theorem doLoop_is_iteration_changed :
    let host := Host.standard fun asked => ⟨2024, 2, 29, 12, 0, asked⟩
    let session : Session :=
      { Session.start 40 20 with
        environment := ⟨[⟨"n", .integer, .ofInteger 2, false⟩], [("n", 0)], []⟩ }
    let opener : Command := ⟨"do", [("count", .single "n")]⟩
    let body : List Instruction :=
      [.simple ⟨"move", [("dest", .single "n"), ("source", .single "7")]⟩,
        .block ⟨"do", [("count", .single "3")]⟩ [.simple ⟨"exit", []⟩]]
    execute host (.block opener body) session =
      iterate (executeAll host body) [] [1, 2] session ∧
      ((execute host (.block opener body) session).2.count host "n" 0).1 = .ok 7 ∧
      ∃ start, Pass host opener body session 2 start ∧
        start.operand host "sy-index" start.asked = (.ok (.ofInteger 2), start.asked + 1) := by
  intro host session opener body
  have keyword : opener.keyword = "do" := rfl
  have written : opener.captures.single? "count" = some "n" := rfl
  have counted : session.count host "n" session.asked = (.ok 2, session.asked) :=
    Prod.ext (eq_ok_of_toOption (by decide)) (by decide)
  have read : Action.read (·.count host "n") session = (.ok 2, session) :=
    Action.read_eq_ok.mpr ⟨_, counted, rfl⟩
  obtain ⟨iterates, passes, all, _⟩ := doLoop_is_iteration body keyword written read
  have ended : execute host (.block opener body) session =
      (.ok .proceed, (execute host (.block opener body) session).2) :=
    eq_of_toOption (by decide +kernel)
  obtain ⟨start, passed⟩ := all (by decide) _ _ ended 2 (by decide) (by decide)
  exact ⟨iterates, eq_ok_of_toOption (by decide +kernel), start, passed,
    (passes 2 start passed).2.2.1 _⟩

end Count

end Session

end ReportLang
