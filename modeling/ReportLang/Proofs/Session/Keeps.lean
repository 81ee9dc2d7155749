import ReportLang.Proofs.Update
import ReportLang.Session.Action

/-!
# What actions keep

Actions are updates of the session. What is read for an action asks the clock and leaves the rest of
the session as it is; a change of the environment or of the screen leaves the other parts as they
are.
-/

namespace ReportLang.Action

variable {α : Type}

/-- A change of the environment leaves the session with the environment that the change leaves. -/
theorem onEnvironment_apply (change : Update Environment α) (session : Session) :
    onEnvironment change session =
      ((change session.environment).1,
        { session with environment := (change session.environment).2 }) := rfl

/-- A computation from the session changes nothing in it but how often the clock was asked. -/
theorem read_apply (compute : Session → Reading α) (session : Session) :
    read compute session =
      ((compute session session.asked).1,
        { session with asked := (compute session session.asked).2 }) := rfl

/-- A computation from the session succeeds exactly when its result is there, and changes nothing
but how often the clock was asked. -/
theorem read_eq_ok {compute : Session → Reading α} {session after : Session} {found : α} :
    read compute session = (.ok found, after) ↔
      ∃ asked, compute session session.asked = (.ok found, asked) ∧
        after = { session with asked } := by
  rw [read_apply]
  obtain ⟨ended, asked⟩ := compute session session.asked
  constructor
  · intro same
    obtain ⟨rfl, rfl⟩ := Prod.mk.inj same
    exact ⟨asked, rfl, rfl⟩
  · rintro ⟨_, same, rfl⟩
    obtain ⟨rfl, rfl⟩ := Prod.mk.inj same
    rfl

/-- A computation from the session fails exactly when it has no result, and changes nothing but how
often the clock was asked. -/
theorem read_eq_error {compute : Session → Reading α} {session after : Session}
    {failure : RunError} :
    read compute session = (.error failure, after) ↔
      ∃ asked, compute session session.asked = (.error failure, asked) ∧
        after = { session with asked } := by
  rw [read_apply]
  obtain ⟨ended, asked⟩ := compute session session.asked
  constructor
  · intro same
    obtain ⟨rfl, rfl⟩ := Prod.mk.inj same
    exact ⟨asked, rfl, rfl⟩
  · rintro ⟨_, same, rfl⟩
    obtain ⟨rfl, rfl⟩ := Prod.mk.inj same
    rfl

/-- A computation for which the clock is not asked succeeds exactly when its result is there, and
changes nothing. -/
theorem look_eq_ok {compute : Session → Except RunError α} {session after : Session} {found : α} :
    look compute session = (.ok found, after) ↔ compute session = .ok found ∧ session = after :=
  Prod.ext_iff

/-- A change of the environment succeeds exactly when it does where the environment stands, and
leaves the rest of the session as it is. -/
theorem onEnvironment_eq_ok {change : Update Environment α} {session after : Session} {found : α} :
    onEnvironment change session = (.ok found, after) ↔
      ∃ environment, change session.environment = (.ok found, environment) ∧
        after = { session with environment } := by
  rw [onEnvironment_apply]
  obtain ⟨ended, environment⟩ := change session.environment
  constructor
  · intro same
    obtain ⟨rfl, rfl⟩ := Prod.mk.inj same
    exact ⟨environment, rfl, rfl⟩
  · rintro ⟨_, same, rfl⟩
    obtain ⟨rfl, rfl⟩ := Prod.mk.inj same
    rfl

variable {invariant : Session → Prop} {fails : RunError → Prop} {value : α → Prop}

/-- A computation from the session keeps what does not depend on how often the clock was asked. -/
theorem keeps_read {compute : Session → Reading α}
    (clock : ∀ session asked, invariant session → invariant { session with asked })
    (ends : ∀ session, invariant session → (compute session).Keeps (fun _ => True) fails value) :
    (read compute).Keeps invariant fails value :=
  fun session kept => ⟨clock session _ kept, (ends session kept session.asked trivial).2⟩

/-- A computation for which the clock is not asked keeps everything. -/
theorem keeps_look {compute : Session → Except RunError α}
    (ends : ∀ session, invariant session → Result.Ends fails value (compute session)) :
    (look compute).Keeps invariant fails value :=
  fun session kept => ⟨kept, ends session kept⟩

/-- A change of the screen. -/
theorem keeps_onScreen {change : Screen → Screen}
    (changed : ∀ session, invariant session →
      invariant { session with screen := change session.screen }) :
    (onScreen change).Keeps invariant fails (fun _ => True) :=
  Update.keeps_modify changed

/-- A change of the environment keeps what holds with the environment that it leaves. -/
theorem keeps_onEnvironment {change : Update Environment α}
    (changed : ∀ session, invariant session →
      invariant { session with environment := (change session.environment).2 } ∧
        Result.Ends fails value (change session.environment).1) :
    (onEnvironment change).Keeps invariant fails value :=
  changed

end ReportLang.Action
