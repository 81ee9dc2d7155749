import ReportLang.Session.Operand

/-!
# Actions

Steps of a run, which change the session and may fail. What a step has changed before it fails stays
changed; what is read of the session changes nothing in it but how often the clock was asked.
-/

namespace ReportLang

/-- A step of a run. -/
abbrev Action := Update Session

/-- How the execution of instructions ends when it does not fail. -/
inductive Signal where
  /-- The next instruction follows. -/
  | proceed
  /-- The innermost loop is left. -/
  | leaveLoop
  /-- The next pass of the innermost loop follows. -/
  | nextPass
deriving DecidableEq

namespace Action

/-- Computes something from the session, for which the clock may be asked. -/
def read {α : Type} (compute : Session → Reading α) : Action α := fun session =>
  let (result, asked) := compute session session.asked
  (result, { session with asked })

/-- Computes something from the session without asking the clock. -/
def look {α : Type} (compute : Session → Except RunError α) : Action α := do
  let session ← get
  compute session

/-- Changes the screen. -/
def onScreen (change : Screen → Screen) : Action Unit :=
  modify fun session => { session with screen := change session.screen }

/-- Changes the environment. What the change leaves of it stays, also if it fails. -/
def onEnvironment {α : Type} (change : Update Environment α) : Action α := fun session =>
  let (result, environment) := change session.environment
  (result, { session with environment })

end Action

/-- The lexeme of a name that a command has to capture. -/
def Captures.required (captures : Captures) (name : String) : Except RunError Lexeme :=
  match captures.single? name with
  | some lexeme => .ok lexeme
  | none => .error (.missingCapture name)

end ReportLang
