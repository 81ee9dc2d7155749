import ReportLang.Proofs.Result
import ReportLang.Update

/-!
# What updates keep

An update keeps an invariant if a state that satisfies it is left, by success or by failure, in a
state that satisfies it. `Update.Keeps` says besides which failures and which results an update can
end with. There is one rule for each way in which updates are made. An update that changes nothing
of what is seen of the state is `Update.Idle`, and one that has changed nothing of it when it fails
is `Update.Atomic`: an update can leave anything behind, so that this has to be shown step by step.
With `id` all of the state is seen.
-/

namespace ReportLang.Update

variable {σ α β : Type}

section Sequences

variable {state after : σ} {failure : RunError}

/-- A sequence of updates, as a function of the state. -/
theorem bind_apply (first : Update σ α) (next : α → Update σ β) (state : σ) :
    (first >>= next) state =
      match first state with
      | (.ok found, after) => next found after
      | (.error failure, after) => (.error failure, after) := by
  simp only [bind, ExceptT.bind, ExceptT.mk, StateT.bind]
  obtain ⟨ended, after⟩ := first state
  cases ended with
  | ok found => rfl
  | error failure => rfl

/-- The state is read without being changed. -/
theorem get_apply (state : σ) : (get : Update σ σ) state = (.ok state, state) := rfl

/-- A step that does not look at the state does not change it. -/
theorem lift_apply (step : Except RunError α) (state : σ) :
    (liftM step : Update σ α) state = (step, state) := rfl

/-- A step that does not look at the state succeeds exactly when its result is there, and changes
nothing. -/
theorem lift_eq_ok {step : Except RunError α} {found : α} :
    (liftM step : Update σ α) state = (.ok found, after) ↔ step = .ok found ∧ state = after :=
  Prod.ext_iff

/-- Steps that do not look at the state are one step together. -/
theorem lift_bind (first : Except RunError α) (next : α → Except RunError β) :
    ((liftM first : Update σ α) >>= fun found => liftM (next found)) =
      (liftM (first >>= next) : Update σ β) := by
  cases first with
  | ok found => rfl
  | error failure => rfl

/-- A step that does not look at the state is its result exactly when it succeeds with it. -/
theorem lift_eq_pure [Nonempty σ] {step : Except RunError α} {found : α} :
    (liftM step : Update σ α) = pure found ↔ step = .ok found := by
  constructor
  · intro same
    obtain ⟨state⟩ := ‹Nonempty σ›
    exact (Prod.mk.inj (congrFun same state)).1
  · rintro rfl
    rfl

/-- A sequence of updates succeeds exactly when both do, the second one where the first one ends. -/
theorem bind_eq_ok {first : Update σ α} {next : α → Update σ β} {ended : β} :
    (first >>= next) state = (.ok ended, after) ↔
      ∃ found between, first state = (.ok found, between) ∧
        next found between = (.ok ended, after) := by
  rw [bind_apply]
  obtain ⟨outcome, between⟩ := first state
  cases outcome with
  | ok found =>
    constructor
    · intro later
      exact ⟨found, between, rfl, later⟩
    · rintro ⟨_, _, same, later⟩
      cases same
      exact later
  | error failure =>
    constructor
    · intro failed
      cases failed
    · rintro ⟨_, _, failed, _⟩
      cases failed

/-- A sequence of updates fails exactly when the first does, or the second does where the first one
ends. -/
theorem bind_eq_error {first : Update σ α} {next : α → Update σ β} :
    (first >>= next) state = (.error failure, after) ↔
      first state = (.error failure, after) ∨
        ∃ found between, first state = (.ok found, between) ∧
          next found between = (.error failure, after) := by
  rw [bind_apply]
  obtain ⟨outcome, between⟩ := first state
  cases outcome with
  | ok found =>
    constructor
    · intro later
      exact .inr ⟨found, between, rfl, later⟩
    · rintro (failed | ⟨_, _, same, later⟩)
      · cases failed
      · cases same
        exact later
  | error other =>
    constructor
    · intro failed
      cases failed
      exact .inl rfl
    · rintro (failed | ⟨_, _, passed, _⟩)
      · cases failed
        rfl
      · cases passed

/-- The state that is left does not matter for how an update has ended. -/
theorem eq_of_toOption {update : Update σ α} {found : α}
    (ended : (update state).1.toOption = some found) :
    update state = (.ok found, (update state).2) :=
  Prod.ext (Result.eq_ok_of_toOption ended) rfl

end Sequences

section Invariants

/-- Whether an update keeps an invariant of the state, and ends in one of the given failures or with
one of the given results. -/
def Keeps (invariant : σ → Prop) (fails : RunError → Prop) (value : α → Prop)
    (update : Update σ α) : Prop :=
  ∀ state, invariant state →
    invariant (update state).2 ∧ Result.Ends fails value (update state).1

variable {invariant : σ → Prop} {fails : RunError → Prop} {value : α → Prop} {result : β → Prop}

/-- A result is an update that changes nothing. -/
theorem keeps_pure {found : α} (holds : value found) :
    Keeps invariant fails value (pure found) :=
  fun _ kept => ⟨kept, Result.ends_ok holds⟩

/-- A failure is an update that changes nothing. -/
theorem keeps_throw {failure : RunError} (expected : fails failure) :
    Keeps invariant fails value (throw failure) :=
  fun _ kept => ⟨kept, Result.ends_error expected⟩

/-- Nothing follows a failure. -/
theorem keeps_throw_bind {failure : RunError} {next : α → Update σ β} (expected : fails failure) :
    Keeps invariant fails result (throw failure >>= next) :=
  fun _ kept => ⟨kept, Result.ends_error expected⟩

/-- Updates in sequence keep what each of them keeps. -/
theorem Keeps.bind {first : Update σ α} {next : α → Update σ β}
    (head : Keeps invariant fails value first)
    (tail : ∀ found, value found → Keeps invariant fails result (next found)) :
    Keeps invariant fails result (first >>= next) := by
  intro state kept
  obtain ⟨still, ends⟩ := head state kept
  rw [bind_apply]
  generalize first state = outcome at still ends
  obtain ⟨ended, after⟩ := outcome
  cases ended with
  | ok found => exact tail found (ends.ok found rfl) after still
  | error failure => exact ⟨still, Result.ends_error (ends.error failure rfl)⟩

/-- A change of the result changes nothing else. -/
theorem Keeps.map {update : Update σ α} {change : α → β} (head : Keeps invariant fails value update)
    (tail : ∀ found, value found → result (change found)) :
    Keeps invariant fails result (change <$> update) :=
  head.bind fun found holds => keeps_pure (tail found holds)

/-- A step that does not look at the state is an update that changes nothing. -/
theorem keeps_lift {step : Except RunError α} (ends : Result.Ends fails value step) :
    Keeps invariant fails value (liftM step : Update σ α) :=
  fun _ kept => ⟨kept, ends⟩

/-- The state itself as a result. -/
theorem keeps_get : Keeps invariant fails invariant (get : Update σ σ) :=
  fun _ kept => ⟨kept, Result.ends_ok kept⟩

/-- A new state that satisfies the invariant. -/
theorem keeps_set {state : σ} (holds : invariant state) :
    Keeps invariant fails (fun _ => True) (set state : Update σ PUnit) :=
  fun _ _ => ⟨holds, Result.ends_ok trivial⟩

/-- A change of the state that cannot fail. -/
theorem keeps_modify {change : σ → σ}
    (changed : ∀ state, invariant state → invariant (change state)) :
    Keeps invariant fails (fun _ => True) (modify change : Update σ PUnit) :=
  fun state kept => ⟨changed state kept, Result.ends_ok trivial⟩

/-- Whether an update keeps an invariant, however it ends. -/
abbrev Preserves (invariant : σ → Prop) (update : Update σ α) : Prop :=
  Keeps invariant (fun _ => True) (fun _ => True) update

/-- Whether the results of an update are among the given ones, whatever it changes. -/
abbrev Yields (value : α → Prop) (update : Update σ α) : Prop :=
  Keeps (fun _ => True) (fun _ => True) value update

/-- An update of which nothing matters. -/
theorem yields_any (update : Update σ α) : Yields (fun _ => True) update :=
  fun state _ => ⟨trivial, Result.yields_any (update state).1⟩

/-- A step that does not look at the state preserves everything. -/
theorem preserves_lift (step : Except RunError α) :
    Preserves invariant (liftM step : Update σ α) :=
  keeps_lift (Result.yields_any step)

end Invariants

section Atomicity

variable {τ : Type} {seen : σ → τ}

/-- Whether an update leaves what is seen of the state as it is, however it ends. -/
def Idle (seen : σ → τ) (update : Update σ α) : Prop :=
  ∀ state, seen (update state).2 = seen state

/-- Whether an update leaves what is seen of the state as it is if it fails. -/
def Atomic (seen : σ → τ) (update : Update σ α) : Prop :=
  ∀ state failure after, update state = (.error failure, after) → seen after = seen state

/-- Whether an update never fails. -/
def Succeeds (update : Update σ α) : Prop :=
  ∀ state, ∃ found, (update state).1 = .ok found

/-- Reading the state changes nothing. -/
theorem idle_get : Idle seen (get : Update σ σ) := fun _ => rfl

/-- A step that does not look at the state changes nothing. -/
theorem idle_lift (step : Except RunError α) : Idle seen (liftM step : Update σ α) := fun _ => rfl

/-- A result changes nothing. -/
theorem idle_pure (found : α) : Idle seen (pure found : Update σ α) := fun _ => rfl

/-- A failure changes nothing. -/
theorem idle_throw (failure : RunError) : Idle seen (throw failure : Update σ α) := fun _ => rfl

/-- A new state is always stored. -/
theorem succeeds_set (state : σ) : Succeeds (set state : Update σ PUnit) := fun _ => ⟨⟨⟩, rfl⟩

/-- A change of the state that cannot fail does not fail. -/
theorem succeeds_modify (change : σ → σ) : Succeeds (modify change : Update σ PUnit) :=
  fun _ => ⟨⟨⟩, rfl⟩

/-- What changes nothing at all changes nothing if it fails. -/
theorem Idle.atomic {update : Update σ α} (idle : Idle seen update) : Atomic seen update := by
  intro state failure after failed
  have same := idle state
  rwa [failed] at same

/-- What never fails leaves nothing behind by failing. -/
theorem Succeeds.atomic {update : Update σ α} (succeeds : Succeeds update) :
    Atomic seen update := by
  intro state failure after failed
  obtain ⟨found, ended⟩ := succeeds state
  rw [failed] at ended
  cases ended

/-- Nothing follows a failure, and so nothing changes. -/
theorem atomic_throw_bind {failure : RunError} {next : α → Update σ β} :
    Atomic seen (throw failure >>= next) := by
  intro state _ after failed
  obtain rfl : state = after := (Prod.mk.inj failed).2
  rfl

/-- What holds before an update that is atomic, and whenever it succeeds, holds however it ends. -/
theorem Atomic.holds {update : Update σ α} (atomic : Atomic id update) {property : σ → Prop}
    {state : σ} (before : property state)
    (succeeded : ∀ result after, update state = (.ok result, after) → property after) :
    property (update state).2 := by
  cases ended : update state with
  | mk outcome after =>
    cases outcome with
    | ok result => exact succeeded result after ended
    | error failure =>
      obtain rfl : after = state := atomic state failure after ended
      exact before

/-- What changes nothing may stand before an update. -/
theorem Idle.bind {first : Update σ α} {next : α → Update σ β} (head : Idle seen first)
    (tail : ∀ found, Atomic seen (next found)) : Atomic seen (first >>= next) := by
  intro state failure after failed
  rcases bind_eq_error.mp failed with early | ⟨found, between, passed, late⟩
  · exact head.atomic state failure after early
  · have same := head state
    rw [passed] at same
    exact (tail found between failure after late).trans same

/-- What never fails may stand after an update. -/
theorem Atomic.bind {first : Update σ α} {next : α → Update σ β} (head : Atomic seen first)
    (tail : ∀ found, Succeeds (next found)) : Atomic seen (first >>= next) := by
  intro state failure after failed
  rcases bind_eq_error.mp failed with early | ⟨found, between, _, late⟩
  · exact head state failure after early
  · obtain ⟨result, ended⟩ := tail found between
    rw [late] at ended
    cases ended

end Atomicity

end ReportLang.Update
