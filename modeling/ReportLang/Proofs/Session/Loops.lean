import ReportLang.Proofs.Session.Display

/-!
# Passes of loops

A loop has the number of its current pass on top of those of the loops around it, and takes it away
when it ends. So instructions leave the numbers as they find them, whether they succeed, signal or
fail, and a loop passes no signal on. `Pass` says in which session each pass of a loop starts, and
`Starts` which instructions a program comes to execute, at any depth, in which passes of the loops
around them, and in which session each of them starts: there the numbers are those of the passes on
top of what they were for the program. That an instruction does start shows in its failure, which is
the failure of the program.
-/

namespace ReportLang

open Result ReportLang.Action ReportLang.Update

/-- Whether a command starts a loop. -/
def Command.IsLoop (command : Command) : Prop :=
  command.keyword = "while" ∨ command.keyword = "do"

namespace Session

variable {host : Host} {α β : Type}

section Restored

/-- Whether an action leaves the passes of the running loops as they are, however it ends. -/
def Restores (action : Action α) : Prop :=
  ∀ session, (action session).2.loops = session.loops

/-- An action that keeps the passes of loops, whatever they are, restores them. -/
theorem restores_of_preserves {action : Action α}
    (keeps : ∀ loops, Preserves (fun session => session.loops = loops) action) :
    Restores action :=
  fun session => (keeps session.loops session rfl).1

/-- An action that restores the passes of loops keeps what is said about them. -/
theorem Restores.preserves {action : Action α} (restores : Restores action)
    (property : List Nat → Prop) : Preserves (fun session => property session.loops) action := by
  intro session kept
  refine ⟨?_, Result.yields_any _⟩
  show property (action session).2.loops
  rwa [restores session]

/-- The passes of loops are those before the action in the session that it leaves. -/
theorem Restores.loops_eq {action : Action α} (restores : Restores action)
    {session after : Session} {result : Except RunError α}
    (ended : action session = (result, after)) : after.loops = session.loops := by
  have restored := restores session
  rwa [ended] at restored

/-- A result changes nothing. -/
theorem restores_pure (found : α) : Restores (pure found : Action α) := fun _ => rfl

/-- A computation from the session changes nothing but how often the clock was asked. -/
theorem restores_read (compute : Session → Reading α) : Restores (Action.read compute) :=
  fun _ => rfl

/-- Actions in sequence restore what each of them restores. -/
theorem Restores.bind {first : Action α} {next : α → Action β} (head : Restores first)
    (tail : ∀ found, Restores (next found)) : Restores (first >>= next) :=
  restores_of_preserves fun loops => (head.preserves (· = loops)).bind fun found _ =>
    (tail found).preserves (· = loops)

/-- Commands do not touch the passes of loops. -/
theorem keptByCommands_loops (loops : List Nat) :
    KeptByCommands fun session => session.loops = loops where
  title _ _ kept := kept
  clock _ _ kept := kept
  edit _ _ kept := kept
  environment _ _ _ kept := kept

/-- A loop takes its own number away again if its passes leave those below it alone. -/
theorem restores_withinLoop {passes : Action Unit}
    (keeps : ∀ loops, Preserves (fun session => session.loops.tail = loops) passes) :
    Restores (withinLoop passes) :=
  fun session => (keeps session.loops { session with loops := 0 :: session.loops } rfl).1

/-- The number of a pass is on top of the same numbers as that of the pass before it. -/
theorem tail_setPass (loops : List Nat) (session : Session) (pass : Nat)
    (kept : session.loops.tail = loops) : (setPass pass session).loops.tail = loops :=
  kept

/-- A loop with a condition restores what its body restores. -/
theorem restores_whileLoop {body : Action Signal} (inner : Restores body) (captures : Captures) :
    Restores (whileLoop host captures body) :=
  restores_withinLoop fun loops => keeps_testedPasses (tail_setPass loops) trivial
    ((restores_read _).preserves (·.tail = loops)) (inner.preserves (·.tail = loops)) maxPasses 1

/-- A loop with a number of passes restores what its body restores. -/
theorem restores_doLoop {body : Action Signal} (inner : Restores body) (captures : Captures) :
    Restores (doLoop host captures body) := by
  unfold doLoop
  split
  · exact restores_withinLoop fun loops => keeps_testedPasses (tail_setPass loops) trivial
      ((restores_pure true).preserves (·.tail = loops)) (inner.preserves (·.tail = loops))
      maxPasses 1
  · refine (restores_read _).bind fun times => ?_
    exact restores_withinLoop fun loops =>
      keeps_countedPasses (tail_setPass loops) (inner.preserves (·.tail = loops)) times.toNat 1

mutual

/-- An instruction restores the passes of loops. -/
theorem restores_execute : (instruction : Instruction) → Restores (execute host instruction)
  | .simple command => by
    rw [execute]
    exact restores_of_preserves fun loops => (keptByCommands_loops loops).executeCommand command
  | .choice branches => by
    rw [execute]
    exact restores_executeFirst branches
  | .block opener body => by
    have inner : Restores (executeAll host body) := restores_executeAll body
    rw [execute]
    split
    · exact restores_whileLoop inner opener.captures
    · split
      · exact restores_doLoop inner opener.captures
      · have record : Restores (declareRecord host opener body) :=
          restores_of_preserves fun loops => (keptByCommands_loops loops).declareRecord opener body
        exact record.bind fun _ => restores_pure _

/-- Instructions in order restore the passes of loops. -/
theorem restores_executeAll : (program : List Instruction) → Restores (executeAll host program)
  | [] => by
    rw [executeAll]
    exact restores_pure _
  | instruction :: rest => by
    rw [executeAll]
    refine (restores_execute instruction).bind fun signal => ?_
    cases signal with
    | proceed => exact restores_executeAll rest
    | leaveLoop => exact restores_pure _
    | nextPass => exact restores_pure _

/-- The first branch whose condition holds restores the passes of loops. -/
theorem restores_executeFirst : (branches : List (Command × List Instruction)) →
    Restores (executeFirst host branches)
  | [] => by
    rw [executeFirst]
    exact restores_pure _
  | (command, body) :: rest => by
    rw [executeFirst]
    refine (restores_read _).bind fun holds => ?_
    cases holds with
    | true => exact restores_executeAll body
    | false => exact restores_executeFirst rest

end

end Restored

/-- The session in which a loop is entered: the number of passes is read before, if one is
written. -/
def entered (host : Host) (opener : Command) (entry : Session) : Session :=
  if opener.keyword = "while" then entry
  else
    match opener.captures.single? "count" with
    | none => entry
    | some lexeme => (Action.read (·.count host lexeme) entry).2

/-- Whether a loop goes on to another pass after a number of passes, and in which session it does
so, where `entry` is the session in which the loop starts and `session` is the one that its last
pass left. To test a condition may take the clock. -/
inductive GoesOn (host : Host) (opener : Command) (entry : Session) (done : Nat)
    (session : Session) : Session → Prop where
  /-- The condition holds. -/
  | condition {tested : Session} (keyword : opener.keyword = "while") (left : done < maxPasses)
    (holds : Action.read (·.condition host opener.captures) session = (.ok true, tested)) :
    GoesOn host opener entry done session tested
  /-- The number of passes that was read at first is not reached. -/
  | count {lexeme : Lexeme} {times : Int} {counted : Session} (keyword : opener.keyword = "do")
    (written : opener.captures.single? "count" = some lexeme)
    (read : Action.read (·.count host lexeme) entry = (.ok times, counted))
    (left : done < times.toNat) : GoesOn host opener entry done session session
  /-- There is no number of passes. -/
  | endless (keyword : opener.keyword = "do") (unwritten : opener.captures.single? "count" = none)
    (left : done < maxPasses) : GoesOn host opener entry done session session

/-- The sessions in which the passes of a loop start, by number, where `entry` is the session in
which the loop starts. -/
inductive Pass (host : Host) (opener : Command) (body : List Instruction) (entry : Session) :
    Nat → Session → Prop where
  /-- The first pass starts where the loop is entered. -/
  | first {tested : Session}
    (goesOn : GoesOn host opener entry 0
      { entered host opener entry with loops := 0 :: entry.loops } tested) :
    Pass host opener body entry 1 (setPass 1 tested)
  /-- The next pass starts where the one before it ends, unless the loop is left. -/
  | next {done : Nat} {start after tested : Session} {signal : Signal}
    (before : Pass host opener body entry done start)
    (ended : executeAll host body start = (.ok signal, after)) (stays : signal ≠ .leaveLoop)
    (goesOn : GoesOn host opener entry done after tested) :
    Pass host opener body entry (done + 1) (setPass (done + 1) tested)

/-- Whether a block is the one of the first branch whose condition holds, and in which session it
starts once the conditions are tested. -/
inductive Chosen (host : Host) (body : List Instruction) :
    Session → List (Command × List Instruction) → Session → Prop where
  /-- The first condition holds. -/
  | here {session tested : Session} {command : Command} {rest : List (Command × List Instruction)}
    (holds : Action.read (·.condition host command.captures) session = (.ok true, tested)) :
    Chosen host body session ((command, body) :: rest) tested
  /-- A later one does, and the first one does not. -/
  | later {session between tested : Session} {command : Command} {other : List Instruction}
    {rest : List (Command × List Instruction)}
    (fails : Action.read (·.condition host command.captures) session = (.ok false, between))
    (chosen : Chosen host body between rest tested) :
    Chosen host body session ((command, other) :: rest) tested

/-- The instructions that start while a program is executed, at any depth: the passes of the loops
around them, innermost first, the instruction and the session in which it starts. -/
inductive Starts (host : Host) :
    List Instruction → Session → List Nat → Instruction → Session → Prop where
  /-- The first instruction starts at once. -/
  | first {instruction : Instruction} {rest : List Instruction} {session : Session} :
    Starts host (instruction :: rest) session [] instruction session
  /-- What follows an instruction starts after it has proceeded. -/
  | later {first : Instruction} {rest : List Instruction} {session between there : Session}
    {passes : List Nat} {instruction : Instruction}
    (proceeds : execute host first session = (.ok .proceed, between))
    (starts : Starts host rest between passes instruction there) :
    Starts host (first :: rest) session passes instruction there
  /-- The block of a branch starts if the branch is chosen. -/
  | branch {branches : List (Command × List Instruction)} {body rest : List Instruction}
    {session tested there : Session} {passes : List Nat} {instruction : Instruction}
    (chosen : Chosen host body session branches tested)
    (starts : Starts host body tested passes instruction there) :
    Starts host (.choice branches :: rest) session passes instruction there
  /-- The block of a loop starts in each of its passes. -/
  | pass {opener : Command} {body rest : List Instruction} {session start there : Session}
    {number : Nat} {passes : List Nat} {instruction : Instruction}
    (passed : Pass host opener body session number start)
    (starts : Starts host body start passes instruction there) :
    Starts host (.block opener body :: rest) session (passes ++ [number]) instruction there

variable {opener : Command} {body : List Instruction} {entry session start after : Session}

section Remaining

/-- What remains of a loop after a number of passes. -/
def remaining (host : Host) (opener : Command) (body : Action Signal) (entry : Session)
    (done : Nat) : Action Unit :=
  if opener.keyword = "while" then
    testedPasses (Action.read (·.condition host opener.captures)) body (maxPasses - done) (done + 1)
  else
    match opener.captures.single? "count" with
    | none => testedPasses (pure true) body (maxPasses - done) (done + 1)
    | some lexeme => do
      let times ← (Action.read (·.count host lexeme) entry).1
      countedPasses body (times.toNat - done) (done + 1)

/-- What follows a pass that has ended: nothing if it fails or leaves the loop, or else the passes
that remain. -/
def afterPass (rest : Action Unit) (outcome : Except RunError Signal × Session) :
    Except RunError Unit × Session :=
  match outcome with
  | (.ok signal, after) => if signal = .leaveLoop then (.ok (), after) else rest after
  | (.error failure, after) => (.error failure, after)

/-- The end of a loop after its passes. -/
def endLoop (outcome : Except RunError Unit × Session) : Except RunError Signal × Session :=
  (outcome.1.map fun _ => .proceed, { outcome.2 with loops := outcome.2.loops.tail })

/-- A pass and what follows it. -/
theorem runPass_bind (body : Action Signal) (pass : Nat) (rest : Action Unit) (session : Session) :
    (do if ← runPass body pass then rest) session =
      afterPass rest (body (setPass pass session)) := by
  have passed : runPass body pass session =
      (body >>= fun signal => pure (signal != .leaveLoop)) (setPass pass session) := rfl
  rw [bind_apply, passed, bind_apply]
  generalize body (setPass pass session) = outcome
  obtain ⟨ended, after⟩ := outcome
  cases ended with
  | error failure => rfl
  | ok signal =>
    cases signal with
    | proceed => rfl
    | leaveLoop => rfl
    | nextPass => rfl

/-- A loop runs its passes with a number of its own. -/
theorem withinLoop_apply (passes : Action Unit) (session : Session) :
    withinLoop passes session = endLoop (passes { session with loops := 0 :: session.loops }) :=
  rfl

/-- A loop is executed by its passes. -/
theorem execute_loop (loop : opener.IsLoop) (body : List Instruction) (session : Session) :
    execute host (.block opener body) session =
      endLoop (remaining host opener (executeAll host body) session 0
        { entered host opener session with loops := 0 :: session.loops }) := by
  rw [execute]
  by_cases tested : opener.keyword = "while"
  · rw [if_pos tested, whileLoop, withinLoop_apply]
    simp only [remaining, entered, if_pos tested, Nat.sub_zero, Nat.zero_add]
  · have counted : opener.keyword = "do" := loop.resolve_left tested
    rw [if_neg tested, if_pos counted, doLoop]
    simp only [remaining, entered, if_neg tested]
    cases opener.captures.single? "count" with
    | none => simp only [withinLoop_apply, Nat.sub_zero, Nat.zero_add]
    | some lexeme =>
      have same : (Action.read (·.count host lexeme) session).2.loops = session.loops :=
        restores_read _ session
      simp only [bind_apply, lift_apply]
      generalize Action.read (·.count host lexeme) session = outcome at same ⊢
      obtain ⟨read, after⟩ := outcome
      have kept : session.loops = after.loops := same.symm
      -- A number that cannot be read fails before the loop is entered, with the same outcome.
      cases read with
      | ok times => simp only [withinLoop_apply, Nat.sub_zero, Nat.zero_add, kept]
      | error failure =>
        simp only [endLoop, List.tail_cons, kept]
        rfl

/-- A pass starts where the loop goes on, and what remains after it follows. -/
theorem GoesOn.remaining_eq {done : Nat} {tested : Session}
    (goesOn : GoesOn host opener entry done session tested) (body : Action Signal) :
    remaining host opener body entry done session =
      afterPass (remaining host opener body entry (done + 1))
        (body (setPass (done + 1) tested)) := by
  have down {limit : Nat} (left : done < limit) : limit - done = limit - (done + 1) + 1 := by
    omega
  rw [← runPass_bind]
  cases goesOn with
  | condition keyword left holds =>
    simp only [remaining, if_pos keyword]
    rw [down left, testedPasses, bind_apply, holds]
    rfl
  | count keyword written read left =>
    have other : opener.keyword ≠ "while" := by simp [keyword]
    simp only [remaining, if_neg other, written, bind_apply, lift_apply, read]
    rw [down left, countedPasses, bind_apply]
    rfl
  | endless keyword unwritten left =>
    have other : opener.keyword ≠ "while" := by simp [keyword]
    simp only [remaining, if_neg other, unwritten]
    rw [down left, testedPasses, bind_apply]
    rfl

/-- A loop that has come to a pass ends as the pass does and what remains after it. -/
theorem Pass.remaining_eq {number : Nat} (passed : Pass host opener body entry number start) :
    remaining host opener (executeAll host body) entry 0
        { entered host opener entry with loops := 0 :: entry.loops } =
      afterPass (remaining host opener (executeAll host body) entry number)
        (executeAll host body start) := by
  induction passed with
  | first goesOn => exact goesOn.remaining_eq (executeAll host body)
  | next _ ended stays goesOn ih =>
    rw [ih, ended, afterPass, if_neg stays]
    exact goesOn.remaining_eq (executeAll host body)

/-- What comes to a pass is a loop. -/
theorem Pass.isLoop {number : Nat} (passed : Pass host opener body entry number start) :
    opener.IsLoop := by
  have loop {done : Nat} {session tested : Session}
      (goesOn : GoesOn host opener entry done session tested) : opener.IsLoop := by
    cases goesOn with
    | condition keyword => exact .inl keyword
    | count keyword => exact .inr keyword
    | endless keyword => exact .inr keyword
  cases passed with
  | first goesOn => exact loop goesOn
  | next _ _ _ goesOn => exact loop goesOn

/-- Whether a loop goes on is found out without touching the passes of loops. -/
theorem GoesOn.loops {done : Nat} {tested : Session}
    (goesOn : GoesOn host opener entry done session tested) : tested.loops = session.loops := by
  cases goesOn with
  | condition _ _ holds => exact (restores_read _).loops_eq holds
  | count => rfl
  | endless => rfl

/-- A pass has its number on top of those of the loops around. -/
theorem Pass.loops {number : Nat} (passed : Pass host opener body entry number start) :
    start.loops = number :: entry.loops := by
  induction passed with
  | @first tested goesOn =>
    show 1 :: tested.loops.tail = 1 :: entry.loops
    rw [goesOn.loops, List.tail_cons]
  | @next done start after tested signal _ ended _ goesOn ih =>
    have same : after.loops = start.loops := (restores_executeAll body).loops_eq ended
    show (done + 1) :: tested.loops.tail = (done + 1) :: entry.loops
    rw [goesOn.loops, same, ih, List.tail_cons]

/-- A loop that has come to a pass ends with it if the pass leaves the loop or fails. -/
theorem Pass.execute_eq {number : Nat} {ended : Except RunError Signal}
    {result : Except RunError Unit}
    (passed : Pass host opener body entry number start)
    (last : executeAll host body start = (ended, after))
    (ends : ∀ rest, afterPass rest (ended, after) = (result, after)) :
    execute host (.block opener body) entry =
      (result.map fun _ => .proceed, { after with loops := entry.loops }) := by
  have loops : after.loops = number :: entry.loops :=
    ((restores_executeAll body).loops_eq last).trans passed.loops
  rw [execute_loop passed.isLoop, passed.remaining_eq, last, ends]
  simp only [endLoop, loops, List.tail_cons]

end Remaining

section Started

/-- The branch that is chosen is executed. -/
theorem Chosen.executeFirst_eq {branches : List (Command × List Instruction)} {tested : Session}
    (chosen : Chosen host body session branches tested) :
    executeFirst host branches session = executeAll host body tested := by
  induction chosen with
  | here holds =>
    rw [executeFirst, bind_apply, holds]
    rfl
  | later fails _ ih =>
    rw [executeFirst, bind_apply, fails]
    exact ih

/-- A branch is chosen without touching the passes of loops. -/
theorem Chosen.loops {branches : List (Command × List Instruction)} {tested : Session}
    (chosen : Chosen host body session branches tested) : tested.loops = session.loops := by
  induction chosen with
  | here holds => exact (restores_read _).loops_eq holds
  | later fails _ ih => exact ih.trans ((restores_read _).loops_eq fails)

variable {program : List Instruction} {passes : List Nat} {instruction : Instruction}
  {there : Session}

/-- An instruction starts with the passes of the loops around it on top of those that were running
before. -/
theorem Starts.loops (starts : Starts host program session passes instruction there) :
    there.loops = passes ++ session.loops := by
  induction starts with
  | first => rfl
  | @later first rest session between there passes instruction proceeds _ ih =>
    have same : between.loops = session.loops := (restores_execute first).loops_eq proceeds
    rw [ih, same]
  | branch chosen _ ih => rw [ih, chosen.loops]
  | pass passed _ ih => rw [ih, passed.loops, List.append_assoc, List.singleton_append]

/-- An instruction that starts and fails ends the program with its failure, at any depth. Only the
passes of loops are then those before the program again. -/
theorem Starts.executeAll_of_error {failure : RunError}
    (starts : Starts host program session passes instruction there)
    (failed : execute host instruction there = (.error failure, after)) :
    executeAll host program session = (.error failure, { after with loops := session.loops }) := by
  induction starts with
  | @first instruction rest session =>
    have same : after.loops = session.loops := (restores_execute instruction).loops_eq failed
    rw [executeAll, bind_apply, failed, ← same]
  | @later first rest session between there passes instruction proceeds _ ih =>
    have same : between.loops = session.loops := (restores_execute first).loops_eq proceeds
    rw [executeAll, bind_apply, proceeds, ← same]
    exact ih failed
  | branch chosen _ ih =>
    rw [executeAll, bind_apply, execute, chosen.executeFirst_eq, ih failed, chosen.loops]
  | pass passed _ ih =>
    have ended := passed.execute_eq (ih failed) fun _ => rfl
    rw [executeAll, bind_apply, ended]
    rfl

end Started

/-- The system record tells the pass of the innermost loop. -/
theorem operand_index (host : Host) (session : Session) (asked : Nat) :
    session.operand host "sy-index" asked =
      (.ok (.ofInteger (session.loops.headD 0)), asked + 1) := by
  have path : Lexeme.path "sy-index" = (Environment.systemName, ["index"]) := by decide
  exact operand_system (by decide) (by decide) path
    (by simp [systemFields, List.lookup_cons, index])

/-- However an instruction or a program ends, the passes of loops are those before it. A loop that
ends without failing proceeds, also if it has come to a pass in which it is left. An instruction
that starts anywhere in a program starts with the passes of the loops around it, innermost first, on
top of those before the program; so one that starts in the body of a loop in its pass of a number
has that number on top of the passes before the loop, the system record tells this number there, and
zero outside of all loops. If an instruction that starts fails, so does the program, with the passes
before it. -/
theorem loops_restored (host : Host) (session : Session) :
    (∀ instruction, (execute host instruction session).2.loops = session.loops) ∧
    (∀ program, (executeAll host program session).2.loops = session.loops) ∧
    (∀ opener body signal after, opener.IsLoop →
      execute host (.block opener body) session = (.ok signal, after) → signal = .proceed) ∧
    (∀ opener body number start after, Pass host opener body session number start →
      executeAll host body start = (.ok .leaveLoop, after) →
      execute host (.block opener body) session =
        (.ok .proceed, { after with loops := session.loops })) ∧
    (∀ opener body number start instruction there, Pass host opener body session number start →
      Starts host body start [] instruction there →
      there.loops = number :: session.loops ∧
        ∀ asked, there.operand host "sy-index" asked = (.ok (.ofInteger number), asked + 1)) ∧
    ∀ program passes instruction there, Starts host program session passes instruction there →
      there.loops = passes ++ session.loops ∧
      (∀ asked, there.operand host "sy-index" asked =
        (.ok (.ofInteger ((passes ++ session.loops).headD 0)), asked + 1)) ∧
      ∀ failure after, execute host instruction there = (.error failure, after) →
        executeAll host program session =
          (.error failure, { after with loops := session.loops }) := by
  refine ⟨fun instruction => restores_execute instruction session,
    fun program => restores_executeAll program session, ?_, ?_, ?_, ?_⟩
  · intro opener body signal after loop ended
    rw [execute_loop loop] at ended
    obtain ⟨result, _⟩ := Prod.mk.inj ended
    obtain ⟨_, _, proceeds⟩ := map_eq_ok.mp result
    exact proceeds.symm
  · intro opener body number start after passed left
    exact passed.execute_eq left fun _ => rfl
  · intro opener body number start instruction there passed starts
    have loops : there.loops = number :: session.loops := starts.loops.trans passed.loops
    refine ⟨loops, fun asked => ?_⟩
    rw [operand_index, loops]
    rfl
  · intro program passes instruction there starts
    refine ⟨starts.loops, fun asked => ?_,
      fun failure after failed => starts.executeAll_of_error failed⟩
    rw [operand_index, starts.loops]

/-- A loop of two passes runs another loop, which is left in its first pass, and then writes. In the
second pass the write starts with the number of this pass alone. -/
theorem loops_restored_nested :
    let host := Host.standard fun asked => ⟨2024, 2, 29, 12, 0, asked⟩
    ∃ there : Session,
      Starts host
        [.block ⟨"do", [("count", .single "2")]⟩
          [.block ⟨"do", [("count", .single "3")]⟩ [.simple ⟨"exit", []⟩],
            .simple ⟨"write", [("source", .single "sy-index")]⟩]]
        (Session.start 40 20) [2] (.simple ⟨"write", [("source", .single "sy-index")]⟩) there ∧
      there.screen.x = 2 ∧ there.loops = [2] ∧
      there.operand host "sy-index" there.asked = (.ok (.ofInteger 2), there.asked + 1) := by
  intro host
  let inner : Instruction := .block ⟨"do", [("count", .single "3")]⟩ [.simple ⟨"exit", []⟩]
  let body : List Instruction := [inner, .simple ⟨"write", [("source", .single "sy-index")]⟩]
  let opener : Command := ⟨"do", [("count", .single "2")]⟩
  have counted : Action.read (·.count host "2") (Session.start 40 20) =
      (.ok 2, (Action.read (·.count host "2") (Session.start 40 20)).2) :=
    eq_of_toOption (by decide)
  have goesOn (done : Nat) (left : done < 2) (session : Session) :
      GoesOn host opener (Session.start 40 20) done session session := .count rfl rfl counted left
  have first : Pass host opener body (Session.start 40 20) 1 _ := .first (goesOn 0 (by decide) _)
  have ended {session : Session}
      (proceeds : (executeAll host body session).1.toOption = some .proceed) :
      executeAll host body session = (.ok .proceed, (executeAll host body session).2) :=
    eq_of_toOption proceeds
  have second := first.next (ended (by decide)) (by decide) (goesOn 1 (by decide) _)
  have starts : Starts host [.block opener body] (Session.start 40 20) ([] ++ [2])
      (.simple ⟨"write", [("source", .single "sy-index")]⟩) _ :=
    .pass second (.later (eq_of_toOption (by decide)) .first)
  obtain ⟨_, _, _, _, _, all⟩ := loops_restored host (Session.start 40 20)
  obtain ⟨loops, index, _⟩ := all _ _ _ _ starts
  exact ⟨_, starts, by decide, loops, index _⟩

end Session

end ReportLang
