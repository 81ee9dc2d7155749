import ReportLang.Proofs.Session.Loops

/-!
# Failures leave nothing half done

A command that fails leaves the session as it was, but for how often the clock was asked: it reads,
converts and checks before it changes anything, and every change of the environment is atomic. An
action of which this is true is `Atomic` in what is seen of a session without that count; most
commands are sequences of steps that change nothing, with at most one change behind them. Three
commands have changed something before the step that can fail: `CLEAR` the places before the failing
one, `WRITE` the cursor, and `REPORT` the title.
-/

namespace ReportLang

open Result ReportLang.Action ReportLang.Update

/-- What is seen of a session without how often the clock was asked. -/
def Session.unasked (session : Session) : Session :=
  { session with asked := 0 }

/-- Sessions in which the same is seen differ in how often the clock was asked. -/
theorem Session.unasked_eq_iff {session after : Session} :
    after.unasked = session.unasked ↔ ∃ asked, after = { session with asked } := by
  obtain ⟨environment, screen, title, loops, asked⟩ := after
  constructor
  · intro same
    simp only [unasked, mk.injEq, and_true] at same
    obtain ⟨rfl, rfl, rfl, rfl⟩ := same
    exact ⟨asked, rfl⟩
  · rintro ⟨_, same⟩
    rw [same]
    rfl

namespace Action

variable {α τ : Type} {seen : Session → τ}

/-- A computation from the session changes nothing but how often the clock was asked. -/
theorem idle_read (compute : Session → Reading α) : Idle Session.unasked (read compute) :=
  fun _ => rfl

/-- A computation for which the clock is not asked changes nothing. -/
theorem idle_look (compute : Session → Except RunError α) : Idle seen (look compute) := fun _ => rfl

/-- A change of the screen never fails. -/
theorem succeeds_onScreen (change : Screen → Screen) : Succeeds (onScreen change) :=
  succeeds_modify _

/-- A change of the environment that has changed nothing when it fails still has in a session. -/
theorem atomic_onEnvironment {change : Update Environment α} (atomic : Atomic id change) :
    Atomic seen (onEnvironment change) := by
  intro session failure after failed
  rw [onEnvironment_apply] at failed
  obtain ⟨inner, rfl⟩ := Prod.mk.inj failed
  have unchanged : (change session.environment).2 = session.environment :=
    atomic session.environment failure _ (Prod.ext inner rfl)
  rw [unchanged]

end Action

namespace Captures

variable {captures : Captures} {name : String}

/-- A lexeme that a command has to capture is there if it is captured. -/
theorem required_eq_ok {lexeme : Lexeme} :
    captures.required name = .ok lexeme ↔ captures.single? name = some lexeme := by
  unfold required
  cases captures.single? name with
  | some found => simp
  | none => simp

/-- A lexeme that a command has to capture is missing if it is not captured. -/
theorem required_eq_error {failure : RunError} :
    captures.required name = .error failure ↔
      captures.single? name = none ∧ failure = .missingCapture name := by
  unfold required
  cases captures.single? name with
  | some found => simp
  | none => simp [eq_comm]

end Captures

namespace Session

variable {host : Host} {session after : Session} {failure : RunError} {captures : Captures}

section Commands

variable {τ : Type} {seen : Session → τ}

/-- A value is stored or nothing changes. -/
theorem atomic_assign (dest : Lexeme) (value : Value) : Atomic seen (assign dest value) :=
  (idle_look _).bind fun target => atomic_onEnvironment (Reference.atomic_set value target)

/-- The value of a lexeme is stored or nothing changes. -/
theorem atomic_move (captures : Captures) : Atomic unasked (move host captures) :=
  (idle_lift _).bind fun _ => (idle_read _).bind fun value => (idle_lift _).bind fun dest =>
    atomic_assign dest value

/-- The value of an expression is stored or nothing changes. -/
theorem atomic_compute (captures : Captures) : Atomic unasked (compute host captures) :=
  (idle_read _).bind fun value => (idle_lift _).bind fun dest => atomic_assign dest value

/-- A number is changed or nothing changes. -/
theorem atomic_changeBy (operation : Operation) (captures : Captures) :
    Atomic unasked (changeBy host operation captures) :=
  (idle_lift _).bind fun _ => (idle_read _).bind fun _ => (idle_lift _).bind fun _ =>
    (idle_look _).bind fun target => (idle_look _).bind fun _ => (idle_lift _).bind fun result =>
      atomic_onEnvironment (Reference.atomic_set result target)

/-- One place is cleared or nothing changes. -/
theorem atomic_clearOne (captures : Captures) : Atomic seen (clearOne captures) :=
  (idle_lift _).bind fun _ => (idle_look _).bind fun target =>
    atomic_onEnvironment target.atomic_clear

/-- A variable is added or nothing changes. -/
theorem atomic_defineVariable (declared : Declared) (name : String) (ty : Ty)
    (value : Option Value) : Atomic seen (defineVariable declared name ty value) :=
  (idle_lift _).bind fun held => atomic_onEnvironment (Environment.atomic_define held)

/-- A declaration is made or nothing changes. -/
theorem atomic_declare (declared : Declared) (captures : Captures) :
    Atomic unasked (declare host declared captures) := by
  refine (idle_read _).bind fun found => ?_
  simp only
  split
  · exact atomic_onEnvironment (Environment.atomic_defineType found.1 found.2)
  · exact (idle_read _).bind fun value => atomic_defineVariable declared found.1 found.2 value

/-- A record is declared, whatever its fields are, or nothing changes. -/
theorem atomic_declareRecord (opener : Command) (body : List Instruction) :
    Atomic unasked (declareRecord host opener body) := by
  refine (idle_lift _).bind fun name => (idle_read _).bind fun value => ?_
  simp only
  split
  · exact atomic_onEnvironment (Environment.atomic_defineType name value.ty)
  · exact atomic_defineVariable _ name value.ty (some value)

/-- A test of a condition changes nothing. -/
theorem atomic_assert (captures : Captures) : Atomic unasked (assert host captures) := by
  refine (idle_read _).bind fun holds => ?_
  cases holds with
  | true => exact (idle_pure ()).atomic
  | false => exact (idle_throw _).atomic

/-- Lines are skipped or nothing changes. -/
theorem atomic_skip (captures : Captures) : Atomic unasked (skip host captures) := by
  have down (lines : Int) : Atomic unasked (do
      if Screen.maxHeight < lines then
        throw (.skipLimit lines)
      Action.onScreen fun screen =>
        (List.replicate lines.toNat ()).foldl (fun moved _ => moved.newLine) screen.endLine) := by
    simp only
    split
    · exact atomic_throw_bind
    · exact (succeeds_onScreen _).atomic
  simp only [skip]
  split
  · exact atomic_throw_bind
  · split
    · exact (idle_read _).bind down
    · exact down 1

/-- A command other than those that change something before they can fail. -/
theorem atomic_executeCommand {command : Command}
    (whole : command.keyword ∉ ["clear", "write", "report"]) :
    Atomic unasked (executeCommand host command) := by
  have proceeds {action : Action Unit} (atomic : Atomic unasked action) :
      Atomic unasked (do action; return Signal.proceed) :=
    atomic.bind fun _ _ => ⟨.proceed, rfl⟩
  simp only [List.mem_cons, List.not_mem_nil, or_false, not_or] at whole
  unfold executeCommand
  split
  · exact absurd ‹command.keyword = "report"› whole.2.2
  · exact proceeds (atomic_declare .plain _)
  · exact proceeds (atomic_declare .constant _)
  · exact proceeds (atomic_declare .type _)
  · exact proceeds (atomic_move _)
  · exact proceeds (atomic_compute _)
  · exact proceeds (atomic_changeBy .add _)
  · exact proceeds (atomic_changeBy .subtract _)
  · exact proceeds (atomic_changeBy .multiply _)
  · exact proceeds (atomic_changeBy .divide _)
  · exact absurd ‹command.keyword = "clear"› whole.1
  · exact absurd ‹command.keyword = "write"› whole.2.1
  · exact proceeds (succeeds_onScreen _).atomic
  · exact proceeds (succeeds_onScreen _).atomic
  · exact proceeds (atomic_skip _)
  · exact (idle_pure _).atomic
  · exact (idle_pure _).atomic
  · exact proceeds (atomic_assert _)
  · exact (idle_throw _).atomic

end Commands

/-- The position at which a command writes; without one, it writes at the cursor. -/
def writePosition (captures : Captures) : Position :=
  match captures.single? "at" with
  | some lexeme => .ofLexeme lexeme
  | none => ⟨false, none, none⟩

/-- Whether a screen is another one after its cursor has moved to a position, and nothing has been
written. -/
structure OnlyMoved (position : Position) (before after : Screen) : Prop where
  /-- The width is the same. -/
  width : after.width = before.width
  /-- All rows are the same, and there may be one more, which is blank. -/
  rows : after.rows = before.rows ∨
    after.rows = before.rows.push (Screen.blankRow before.width)
  /-- The cursor is in the next row if a new line is asked for, unless it was at the start of
  one. -/
  y : after.y = before.y + if position.newLine ∧ before.x ≠ 0 then 1 else 0
  /-- The cursor is in the column that is asked for, or else where the new line starts, if any. -/
  x : after.x = match position.column with
    | some column => min (column - 1) (before.width - 1)
    | none => if position.newLine then 0 else before.x

/-- In which session a command that governs no block can fail, from the session in which it is
executed. Besides what is told here, the clock may have been asked. -/
inductive FailsIn (host : Host) (failure : RunError) (session : Session) :
    Command → Session → Prop where
  /-- Nothing has changed. -/
  | unchanged {command : Command} {asked : Nat}
    (whole : command.keyword ∉ ["clear", "write", "report"]) :
    FailsIn host failure session command { session with asked }
  /-- The places before the one that fails are cleared. -/
  | cleared {captures : Captures} {done rest : List Captures} {target : Captures}
    {environment : Environment} (targets : captures.repeated "targets" = done ++ target :: rest)
    (earlier : clearAll done session = (.ok (), { session with environment }))
    (failed : clearOne target { session with environment } =
      (.error failure, { session with environment })) :
    FailsIn host failure session ⟨"clear", captures⟩ { session with environment }
  /-- The cursor has moved to the position, and the operand fails there. -/
  | moved {captures : Captures} {source : Lexeme} {screen : Screen} {asked : Nat}
    (written : captures.single? "source" = some source)
    (moved : OnlyMoved (writePosition captures) session.screen screen)
    (failed : { session with screen }.operand host source session.asked =
      (.error failure, asked)) :
    FailsIn host failure session ⟨"write", captures⟩ { session with screen, asked }
  /-- The cursor has moved to the position, and there the program crashes, because the text of the
  operand would be too wide. -/
  | tooWide {captures : Captures} {source : Lexeme} {screen : Screen} {asked : Nat} {value : Value}
    {cause : Crash} (written : captures.single? "source" = some source)
    (moved : OnlyMoved (writePosition captures) session.screen screen)
    (read : { session with screen }.operand host source session.asked = (.ok value, asked))
    (crashed : value.toText (captures.flag "no_zero") = .error cause)
    (failed : failure = .crash cause) :
    FailsIn host failure session ⟨"write", captures⟩ { session with screen, asked }
  /-- The report has a title already, or the command has none to give. -/
  | untitled {captures : Captures}
    (failed : (session.title.isSome ∧ failure = .misplacedReport) ∨
      (session.title = none ∧ captures.single? "title" = none ∧
        failure = .missingCapture "title")) :
    FailsIn host failure session ⟨"report", captures⟩ session
  /-- The title is given, and the width is not a number or out of range. -/
  | titled {captures : Captures} {title lexeme : Lexeme} {asked : Nat}
    (missing : session.title = none) (written : captures.single? "title" = some title)
    (widened : captures.single? "width" = some lexeme)
    (rejected : session.count host lexeme session.asked = (.error failure, asked) ∨
      ∃ width, session.count host lexeme session.asked = (.ok width, asked) ∧
        ¬(1 ≤ width ∧ width ≤ Screen.maxWidth) ∧ failure = .lineSizeLimit width) :
    FailsIn host failure session ⟨"report", captures⟩
      { session with title := some title.content, asked }

section Exceptions

/-- Nothing follows a step that fails but the signal. -/
theorem error_of_proceed {action : Action Unit}
    (failed : (do action; return Signal.proceed : Action Signal) session =
      (.error failure, after)) : action session = (.error failure, after) := by
  rcases bind_eq_error.mp failed with early | ⟨_, _, _, late⟩
  · exact early
  · cases late

/-- A place that is cleared changes the environment alone. -/
theorem clearOne_eq_ok (cleared : clearOne captures session = (.ok (), after)) :
    after = { session with environment := after.environment } := by
  obtain ⟨dest, _, found, later⟩ := bind_eq_ok.mp cleared
  obtain ⟨_, rfl⟩ := lift_eq_ok.mp found
  obtain ⟨target, _, resolved, last⟩ := bind_eq_ok.mp later
  obtain ⟨_, rfl⟩ := look_eq_ok.mp resolved
  obtain ⟨environment, _, rfl⟩ := onEnvironment_eq_ok.mp last
  rfl

/-- If one of several places cannot be cleared, those before it are, and nothing else changes. -/
theorem clearAll_eq_error {targets : List Captures}
    (failed : clearAll targets session = (.error failure, after)) :
    ∃ done target rest environment, targets = done ++ target :: rest ∧
      after = { session with environment } ∧ clearAll done session = (.ok (), after) ∧
      clearOne target after = (.error failure, after) := by
  induction targets generalizing session with
  | nil => cases failed
  | cons target rest ih =>
    rcases bind_eq_error.mp failed with early | ⟨_, between, passed, late⟩
    · have whole : Atomic id (clearOne target) := atomic_clearOne target
      obtain rfl : after = session := whole session failure after early
      exact ⟨[], target, rest, after.environment, rfl, rfl, rfl, early⟩
    · obtain ⟨done, last, remaining, environment, rfl, same, earlier, here⟩ := ih late
      refine ⟨target :: done, last, remaining, environment, rfl, ?_, ?_, here⟩
      · rw [same, clearOne_eq_ok passed]
      · exact bind_eq_ok.mpr ⟨(), between, passed, earlier⟩

/-- Moving to a position changes no cell. -/
theorem onlyMoved_moveTo (position : Position) (screen : Screen) :
    OnlyMoved position screen (moveTo position screen) := by
  obtain ⟨newLine, column, length⟩ := position
  -- The row and the start of the line are settled first, the column is moved to afterwards.
  have line : OnlyMoved ⟨newLine, none, length⟩ screen
      (if newLine then screen.endLine else screen) := by
    cases newLine with
    | false => exact ⟨rfl, .inl rfl, rfl, rfl⟩
    | true =>
      by_cases start : screen.x = 0
      · simp only [if_true, Screen.endLine, if_pos start]
        exact ⟨rfl, .inl rfl, by simp [start], start⟩
      · simp only [if_true, Screen.endLine, if_neg start]
        refine ⟨rfl, ?_, by simp [Screen.newLine, start], rfl⟩
        simp only [Screen.newLine]
        split
        · exact .inl rfl
        · exact .inr rfl
  cases column with
  | none => exact line
  | some column =>
    refine ⟨line.width, line.rows, line.y, ?_⟩
    simp only [moveTo, Screen.moveTo]
    rw [line.width]

/-- A command that writes fails with its operand, or crashes with its text, after the cursor has
moved. -/
theorem write_eq_error (failed : write host captures session = (.error failure, after)) :
    FailsIn host failure session ⟨"write", captures⟩ after := by
  have moved := onlyMoved_moveTo (writePosition captures) session.screen
  rcases bind_eq_error.mp failed with early | ⟨_, between, first, late⟩
  · cases early
  · obtain ⟨_, rfl⟩ := Prod.mk.inj first
    cases written : captures.single? "source" with
    | none =>
      rw [written] at late
      cases late
    | some source =>
      rw [written] at late
      rcases bind_eq_error.mp late with unread | ⟨value, _, read, output⟩
      · obtain ⟨asked, operand, rfl⟩ := read_eq_error.mp unread
        exact .moved written moved operand
      · obtain ⟨asked, operand, rfl⟩ := read_eq_ok.mp read
        rcases bind_eq_error.mp output with crashed | ⟨_, _, _, drawn⟩
        · obtain ⟨wide, rfl⟩ := Prod.mk.inj crashed
          obtain ⟨cause, tooWide, rfl⟩ := mapError_eq_error.mp wide
          exact .tooWide written moved operand tooWide rfl
        · cases drawn

/-- A title can be given only once. -/
theorem giveTitle_of_isSome (titled : session.title.isSome) :
    giveTitle host captures session = (.error .misplacedReport, session) := by
  simp only [giveTitle, bind_apply, get_apply, if_pos titled]
  rfl

/-- A title is given before the width is read, and stays if the width is rejected. -/
theorem giveTitle_eq_error (failed : giveTitle host captures session = (.error failure, after)) :
    FailsIn host failure session ⟨"report", captures⟩ after := by
  by_cases titled : session.title.isSome
  · rw [giveTitle_of_isSome titled] at failed
    obtain ⟨misplaced, rfl⟩ := Prod.mk.inj failed
    exact .untitled (.inl ⟨titled, (Except.error.inj misplaced).symm⟩)
  have missing : session.title = none := Option.not_isSome_iff_eq_none.mp titled
  rcases bind_eq_error.mp failed with never | ⟨current, _, read, checked⟩
  · cases never
  obtain ⟨⟨rfl⟩, rfl⟩ := Prod.mk.inj read
  rw [if_neg titled] at checked
  rcases bind_eq_error.mp checked with unnamed | ⟨title, _, named, noted⟩
  · obtain ⟨absent, rfl⟩ := Prod.mk.inj unnamed
    exact .untitled (.inr ⟨missing, Captures.required_eq_error.mp absent⟩)
  obtain ⟨found, rfl⟩ := lift_eq_ok.mp named
  have written := Captures.required_eq_ok.mp found
  rcases bind_eq_error.mp noted with never | ⟨_, _, given, widening⟩
  · cases never
  obtain ⟨_, rfl⟩ := Prod.mk.inj given
  cases widened : captures.single? "width" with
  | none =>
    rw [widened] at widening
    cases widening
  | some lexeme =>
    rw [widened] at widening
    rcases bind_eq_error.mp widening with uncounted | ⟨width, _, counted, ranged⟩
    · obtain ⟨asked, rejected, rfl⟩ := read_eq_error.mp uncounted
      exact .titled missing written widened (.inl rejected)
    · obtain ⟨asked, read, rfl⟩ := read_eq_ok.mp counted
      by_cases inside : 1 ≤ width ∧ width ≤ Screen.maxWidth
      · rw [if_pos inside] at ranged
        cases ranged
      · rw [if_neg inside] at ranged
        obtain ⟨rejected, rfl⟩ := Prod.mk.inj ranged
        exact .titled missing written widened
          (.inr ⟨width, read, inside, (Except.error.inj rejected).symm⟩)

/-- A command that governs no block fails in one of these ways. -/
theorem failsIn_of_error {command : Command}
    (failed : executeCommand host command session = (.error failure, after)) :
    FailsIn host failure session command after := by
  by_cases whole : command.keyword ∈ ["clear", "write", "report"]
  · obtain ⟨keyword, captures⟩ := command
    simp only [List.mem_cons, List.not_mem_nil, or_false] at whole
    rcases whole with rfl | rfl | rfl
    · have ended := error_of_proceed failed
      obtain ⟨done, target, rest, environment, targets, rfl, earlier, here⟩ :=
        clearAll_eq_error ended
      exact .cleared targets earlier here
    · exact write_eq_error (error_of_proceed failed)
    · exact giveTitle_eq_error (error_of_proceed failed)
  · have seen := atomic_executeCommand whole session failure after failed
    obtain ⟨asked, rfl⟩ := unasked_eq_iff.mp seen
    exact .unchanged whole

/-- A report that has a title keeps one. -/
theorem keptByRun_title : KeptByRun fun session => session.title.isSome = true where
  loops _ _ kept := kept
  title _ _ _ := rfl
  clock _ _ kept := kept
  edit _ _ kept := kept
  environment _ _ _ kept := kept

end Exceptions

/-- A command that governs no block, or a declaration of a record, leaves nothing half done when it
fails: the session is as it was, but for how often the clock was asked, the places that `CLEAR`
cleared before the one that fails, the cursor that `WRITE` moved before its operand failed, and the
title that `REPORT` gave before its width was rejected. Once there is a title, no `REPORT` succeeds
any more, whatever is executed in between. -/
theorem failure_leaves_nothing_half_done (host : Host) (session : Session) :
    (∀ command failure after, execute host (.simple command) session = (.error failure, after) →
      FailsIn host failure session command after) ∧
    (∀ opener body failure after, ¬ opener.IsLoop →
      execute host (.block opener body) session = (.error failure, after) →
      ∃ asked, after = { session with asked }) ∧
    (∀ later captures, session.title.isSome → session.Reaches later →
      execute host (.simple ⟨"report", captures⟩) later = (.error .misplacedReport, later)) := by
  refine ⟨fun command failure after failed => ?_, fun opener body failure after other failed => ?_,
    fun later captures titled reached => ?_⟩
  · rw [execute] at failed
    exact failsIn_of_error failed
  · obtain ⟨notTested, notCounted⟩ := not_or.mp other
    rw [execute, if_neg notTested, if_neg notCounted] at failed
    have seen := atomic_declareRecord opener body session failure after (error_of_proceed failed)
    exact unasked_eq_iff.mp seen
  · have still : later.title.isSome := reached.keeps keptByRun_title titled
    have refused : giveTitle host captures later = (.error .misplacedReport, later) :=
      giveTitle_of_isSome still
    show (giveTitle host captures >>= fun _ => pure Signal.proceed) later = _
    rw [bind_apply, refused]

/-- A `REPORT` with a width that is too large has given its title, and another `REPORT` fails. -/
theorem failure_leaves_nothing_half_done_report :
    let host := Host.standard fun asked => ⟨2024, 2, 29, 12, 0, asked⟩
    let wide : Command := ⟨"report", [("title", .single "first"), ("width", .single "2000")]⟩
    let after : Session := { Session.start 40 20 with title := some "first" }
    execute host (.simple wide) (Session.start 40 20) = (.error (.lineSizeLimit 2000), after) ∧
      FailsIn host (.lineSizeLimit 2000) (Session.start 40 20) wide after ∧
      execute host (.simple ⟨"report", [("title", .single "second")]⟩) after =
        (.error .misplacedReport, after) := by
  intro host wide after
  have failed : execute host (.simple wide) (Session.start 40 20) =
      (.error (.lineSizeLimit 2000), after) := rfl
  obtain ⟨fails, _, _⟩ := failure_leaves_nothing_half_done host (Session.start 40 20)
  obtain ⟨_, _, refused⟩ := failure_leaves_nothing_half_done host after
  exact ⟨failed, fails wide _ after failed, refused after _ rfl .refl⟩

end Session

end ReportLang
