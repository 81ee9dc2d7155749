import ReportLang.Environment
import ReportLang.Environment
import ReportLang.Host
import ReportLang.Screen

/-!
# Sessions

The state of a run: the variables, the screen, the title of the report once there is one, the number
of the current pass of every loop that is running, and how often the clock has been asked.
-/

namespace ReportLang

/-- The state of a run. -/
structure Session where
  /-- The variables and named types. -/
  environment : Environment
  /-- What has been written. -/
  screen : Screen
  /-- The title of the report, once it is given. -/
  title : Option String
  /-- The current pass of each running loop, innermost first. -/
  loops : List Nat
  /-- How often the clock has been asked. -/
  asked : Nat

namespace Session

/-- The state in which a run starts. -/
def start (width height : Nat) : Session :=
  ⟨.empty, .blank width height, none, [], 0⟩

/-- The current pass of the innermost loop; zero outside of loops. -/
def index (session : Session) : Nat :=
  session.loops.headD 0

/-- The fields of the system record at an instant. Columns and rows of the cursor count from one. -/
def systemFields (host : Host) (now : Instant) (session : Session) : List (String × Value) :=
  [("linsz", .ofInteger session.screen.width),
    ("datum", .ofDate (host.dateText now)),
    ("uzeit", .ofTime (host.timeText now)),
    ("index", .ofInteger session.index),
    ("colno", .ofInteger (session.screen.x + 1)),
    ("linno", .ofInteger (session.screen.y + 1))]

/-- The system record at an instant. -/
def systemAt (host : Host) (now : Instant) (session : Session) : Value :=
  let fields := session.systemFields host now
  .record (.record (fields.map fun field => (field.1, field.2.ty))) fields

/-- The system record, for which the clock is asked. -/
def system (host : Host) (session : Session) : Reading Value := do
  return session.systemAt host (← host.now)

end Session

end ReportLang
