import ReportLang.Proofs.Environment.Change
import ReportLang.Proofs.Session.Rules

/-!
# What runs keep

A command asks the clock, gives the report its title, edits the screen or changes the environment,
and a loop notes the number of its pass. So an invariant that is kept by these changes is kept by
every instruction, whether it succeeds or fails, and holds in every session that can be reached from
one in which it holds.
-/

namespace ReportLang

open Result ReportLang.Action ReportLang.Update

namespace Session

/-- Whether an invariant of the session is kept by everything that commands change. -/
structure KeptByCommands (invariant : Session → Prop) : Prop extends KeptByWriting invariant where
  /-- Changes of the environment keep the invariant. -/
  environment : ∀ session environment, session.environment.Change environment →
    invariant session → invariant { session with environment }

/-- Whether an invariant of the session is kept by everything that a run changes. -/
structure KeptByRun (invariant : Session → Prop) : Prop extends
  KeptByCommands invariant, KeptByOutput invariant

variable {invariant : Session → Prop} {host : Host}

/-- A computation without the clock preserves everything. -/
theorem preserves_look {α : Type} (compute : Session → Except RunError α) :
    Preserves invariant (look compute) :=
  keeps_look fun session _ => Result.yields_any (compute session)

namespace KeptByWriting

/-- A computation from the session keeps the invariant. -/
theorem read {α : Type} (writing : KeptByWriting invariant) (compute : Session → Reading α) :
    Preserves invariant (Action.read compute) :=
  keeps_read writing.clock fun session _ => Update.yields_any (compute session)

end KeptByWriting

namespace KeptByCommands

/-- A change of the environment keeps the invariant. -/
theorem onEnvironment {α : Type} (commands : KeptByCommands invariant)
    {change : Update Environment α}
    (changes : ∀ before : Environment, before.Change (change before).2) :
    Preserves invariant (onEnvironment change) :=
  keeps_onEnvironment fun session kept =>
    ⟨commands.environment session _ (changes session.environment) kept, Result.yields_any _⟩

/-- Storing a value keeps the invariant. -/
theorem assign (commands : KeptByCommands invariant) (dest : Lexeme) (value : Value) :
    Preserves invariant (assign dest value) := by
  refine (preserves_look (·.reference dest)).bind fun target _ => ?_
  exact commands.onEnvironment (Reference.change_set value target)

/-- Storing the value of a lexeme keeps the invariant. -/
theorem move (commands : KeptByCommands invariant) (captures : Captures) :
    Preserves invariant (move host captures) := by
  refine (preserves_lift (captures.required "source")).bind fun source _ => ?_
  refine (commands.read (·.operand host source)).bind fun value _ => ?_
  refine (preserves_lift (captures.required "dest")).bind fun dest _ => ?_
  exact commands.assign dest value

/-- Storing the value of an expression keeps the invariant. -/
theorem compute (commands : KeptByCommands invariant) (captures : Captures) :
    Preserves invariant (compute host captures) := by
  refine (commands.read (·.computed host captures)).bind fun value _ => ?_
  refine (preserves_lift (captures.required "dest")).bind fun dest _ => ?_
  exact commands.assign dest value

/-- Changing a number by another one keeps the invariant. -/
theorem changeBy (commands : KeptByCommands invariant) (operation : Operation)
    (captures : Captures) :
    Preserves invariant (changeBy host operation captures) := by
  refine (preserves_lift (captures.required "source")).bind fun source _ => ?_
  refine (commands.read (·.operand host source)).bind fun value _ => ?_
  refine (preserves_lift (captures.required "dest")).bind fun dest _ => ?_
  refine (preserves_look (·.reference dest)).bind fun target _ => ?_
  refine (preserves_look fun session => target.get session.environment).bind fun current _ => ?_
  refine (preserves_lift _).bind fun result _ => ?_
  exact commands.onEnvironment (Reference.change_set result target)

/-- Clearing places keeps the invariant. -/
theorem clearAll (commands : KeptByCommands invariant) (targets : List Captures) :
    Preserves invariant (clearAll targets) := by
  induction targets with
  | nil => exact keeps_pure trivial
  | cons captures rest ih =>
    have first : Preserves invariant (clearOne captures) := by
      refine (preserves_lift (captures.required "dest")).bind fun dest _ => ?_
      refine (preserves_look (·.reference dest)).bind fun target _ => ?_
      exact commands.onEnvironment target.change_clear
    exact first.bind fun _ _ => ih

/-- Adding a variable keeps the invariant. -/
theorem defineVariable (commands : KeptByCommands invariant) (declared : Declared) (name : String)
    (ty : Ty) (value : Option Value) :
    Preserves invariant (defineVariable declared name ty value) := by
  refine (keeps_lift (yields_of_ok fun _ found => found)).bind fun held found => ?_
  exact commands.onEnvironment fun _ => .define found

/-- A declaration keeps the invariant. -/
theorem declare (commands : KeptByCommands invariant) (declared : Declared) (captures : Captures) :
    Preserves invariant (declare host declared captures) := by
  refine (commands.read (·.declaration host captures)).bind fun found _ => ?_
  simp only
  split
  · exact commands.onEnvironment fun _ => .defineType _ _
  · refine (commands.read (·.declaredValue host captures)).bind fun value _ => ?_
    exact commands.defineVariable declared found.1 found.2 value

/-- A declaration of a record keeps the invariant. -/
theorem declareRecord (commands : KeptByCommands invariant) (opener : Command)
    (body : List Instruction) :
    Preserves invariant (declareRecord host opener body) := by
  refine (preserves_lift (recordName opener.captures)).bind fun name _ => ?_
  refine (commands.read _).bind fun value _ => ?_
  simp only
  split
  · exact commands.onEnvironment fun _ => .defineType _ _
  · exact commands.defineVariable _ name value.ty (some value)

/-- A test that a condition holds keeps the invariant. -/
theorem assert (commands : KeptByCommands invariant) (captures : Captures) :
    Preserves invariant (assert host captures) := by
  refine (commands.read (·.condition host captures)).bind fun holds _ => ?_
  cases holds with
  | true => exact keeps_pure trivial
  | false => exact keeps_throw trivial

/-- A command that governs no block keeps the invariant. -/
theorem executeCommand (commands : KeptByCommands invariant) (command : Command) :
    Preserves invariant (executeCommand host command) := by
  have proceeds {action : Action Unit} (keeps : Preserves invariant action) :
      Preserves invariant (do action; return Signal.proceed) :=
    keeps.bind fun _ _ => keeps_pure trivial
  have output := commands.toKeptByWriting
  unfold Session.executeCommand
  split
  · exact proceeds (keeps_giveTitle output trivial (fun _ => trivial) (Result.yields_any _)
      fun _ _ _ => Update.yields_any _)
  · exact proceeds (commands.declare .plain _)
  · exact proceeds (commands.declare .constant _)
  · exact proceeds (commands.declare .type _)
  · exact proceeds (commands.move _)
  · exact proceeds (commands.compute _)
  · exact proceeds (commands.changeBy .add _)
  · exact proceeds (commands.changeBy .subtract _)
  · exact proceeds (commands.changeBy .multiply _)
  · exact proceeds (commands.changeBy .divide _)
  · exact proceeds (commands.clearAll _)
  · exact proceeds (keeps_write output (fun _ => trivial) fun _ _ _ => Update.yields_any _)
  · exact proceeds (keeps_ofEdits output fun screen => ⟨[.underline], rfl⟩)
  · exact proceeds (keeps_ofEdits output fun screen => ⟨[.endLine], rfl⟩)
  · exact proceeds (keeps_skip output trivial (fun _ => trivial)
      fun _ _ _ => Update.yields_any _)
  · exact keeps_pure trivial
  · exact keeps_pure trivial
  · exact proceeds (commands.assert _)
  · exact keeps_throw trivial

end KeptByCommands

namespace KeptByRun

mutual

/-- An instruction keeps the invariant. -/
theorem execute (run : KeptByRun invariant) :
    (instruction : Instruction) → Preserves invariant (execute host instruction)
  | .simple command => by
    rw [Session.execute]
    exact run.toKeptByCommands.executeCommand command
  | .choice branches => by
    rw [Session.execute]
    exact executeFirst run branches
  | .block opener body => by
    have inner : Preserves invariant (Session.executeAll host body) := executeAll run body
    rw [Session.execute]
    split
    · exact keeps_whileLoop run.toKeptByOutput trivial (fun _ _ => Update.yields_any _) inner
    · split
      · exact keeps_doLoop run.toKeptByOutput trivial (fun _ _ _ => Update.yields_any _) inner
      · exact (run.toKeptByCommands.declareRecord opener body).bind fun _ _ => keeps_pure trivial

/-- Instructions in order keep the invariant. -/
theorem executeAll (run : KeptByRun invariant) :
    (program : List Instruction) → Preserves invariant (executeAll host program)
  | [] => by
    rw [Session.executeAll]
    exact keeps_pure trivial
  | instruction :: rest => by
    rw [Session.executeAll]
    refine (execute run instruction).bind fun signal _ => ?_
    cases signal with
    | proceed => exact executeAll run rest
    | leaveLoop => exact keeps_pure trivial
    | nextPass => exact keeps_pure trivial

/-- The first branch whose condition holds keeps the invariant. -/
theorem executeFirst (run : KeptByRun invariant) :
    (branches : List (Command × List Instruction)) →
      Preserves invariant (executeFirst host branches)
  | [] => by
    rw [Session.executeFirst]
    exact keeps_pure trivial
  | (command, body) :: rest => by
    rw [Session.executeFirst]
    refine (run.toKeptByCommands.read (·.condition host command.captures)).bind fun holds _ => ?_
    cases holds with
    | true => exact executeAll run body
    | false => exact executeFirst run rest

end

end KeptByRun

/-- The sessions that can follow a session: instructions are executed, each on a host of its own and
whether it succeeds or fails, and in between the passes of loops can be others, as they are
inside of a loop. -/
inductive Reaches (origin : Session) : Session → Prop where
  /-- Nothing happens. -/
  | refl : Reaches origin origin
  /-- An instruction is executed. -/
  | step {session : Session} (reached : Reaches origin session) (host : Host)
    (instruction : Instruction) : Reaches origin (execute host instruction session).2
  /-- A loop is entered or left, or its next pass starts. -/
  | loop {session : Session} (reached : Reaches origin session) (loops : List Nat) :
    Reaches origin { session with loops }

/-- What a run keeps holds in every session that can be reached. -/
theorem Reaches.keeps (run : KeptByRun invariant) {origin session : Session}
    (reached : origin.Reaches session) (holds : invariant origin) : invariant session := by
  induction reached with
  | refl => exact holds
  | @step session _ host instruction ih => exact (run.execute instruction session ih).1
  | @loop session _ loops ih => exact run.loops session loops ih

end Session

end ReportLang
