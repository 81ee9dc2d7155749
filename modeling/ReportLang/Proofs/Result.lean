/-!
# Results of steps that may fail

How a sequence of steps in `Except` can end: it succeeds exactly when every step does, and it fails
exactly when one of its steps does and those before it succeed. `Result.Ends` says of a step which
failures and which results it can end with, and is followed along a sequence by one rule for each
way of joining steps. `Result.Alike` compares two steps: they fail in the same way, or both succeed.
-/

namespace ReportLang.Result

variable {ε ε' α β : Type}

/-- A sequence of two steps succeeds exactly when both do. -/
theorem bind_eq_ok {first : Except ε α} {next : α → Except ε β} {result : β} :
    (first >>= next) = .ok result ↔ ∃ value, first = .ok value ∧ next value = .ok result := by
  cases first with
  | error failure => simp [bind, Except.bind]
  | ok value => simp [bind, Except.bind]

/-- A sequence of two steps fails exactly when the first does, or the second does after it. -/
theorem bind_eq_error {first : Except ε α} {next : α → Except ε β} {failure : ε} :
    (first >>= next) = .error failure ↔
      first = .error failure ∨ ∃ value, first = .ok value ∧ next value = .error failure := by
  cases first with
  | error other => simp [bind, Except.bind]
  | ok value => simp [bind, Except.bind]

/-- A result that is changed afterwards is there exactly when the step succeeds. -/
theorem map_eq_ok {step : Except ε α} {change : α → β} {result : β} :
    step.map change = .ok result ↔ ∃ value, step = .ok value ∧ change value = result := by
  cases step with
  | error failure => simp [Except.map]
  | ok value => simp [Except.map]

/-- Changing a result in two steps is changing it once. -/
theorem map_map {γ : Type} (step : Except ε α) (first : α → β) (second : β → γ) :
    (step.map first).map second = step.map fun value => second (first value) := by
  cases step with
  | error failure => rfl
  | ok value => rfl

/-- There is no failure to rename in a result. -/
@[simp] theorem mapError_ok {rename : ε → ε'} {value : α} :
    (Except.ok value).mapError rename = .ok value := rfl

/-- A failure is renamed. -/
@[simp] theorem mapError_error {rename : ε → ε'} {cause : ε} :
    (Except.error cause : Except ε α).mapError rename = .error (rename cause) := rfl

/-- Renaming failures does not change a result. -/
theorem mapError_eq_ok {step : Except ε α} {rename : ε → ε'} {value : α} :
    step.mapError rename = .ok value ↔ step = .ok value := by
  cases step with
  | error failure => simp
  | ok other => simp

/-- A renamed failure is the failure of the step under another name. -/
theorem mapError_eq_error {step : Except ε α} {rename : ε → ε'} {failure : ε'} :
    step.mapError rename = .error failure ↔
      ∃ cause, step = .error cause ∧ rename cause = failure := by
  cases step with
  | error cause => simp
  | ok value => simp

/-- A step succeeds if there is a result of it. -/
theorem eq_ok_of_toOption {step : Except ε α} {value : α} (found : step.toOption = some value) :
    step = .ok value := by
  cases step with
  | error failure => cases found
  | ok other => exact congrArg Except.ok (Option.some.inj found)

/-- A run goes on after a first step that succeeds. -/
theorem foldlM_cons_of_ok {step : β → α → Except ε β} {start next : β} {first : α} {rest : List α}
    (stepped : step start first = .ok next) :
    (first :: rest).foldlM step start = rest.foldlM step next := by
  rw [List.foldlM_cons, stepped]
  rfl

/-- A run goes on after a first part that succeeds. -/
theorem foldlM_append_of_ok {step : β → α → Except ε β} {start next : β} {first rest : List α}
    (run : first.foldlM step start = .ok next) :
    (first ++ rest).foldlM step start = rest.foldlM step next := by
  rw [List.foldlM_append, run]
  rfl

/-- Every result of a list of steps is the result of one of them. -/
theorem exists_of_mem_mapM {step : α → Except ε β} {steps : List α} {results : List β}
    (run : steps.mapM step = .ok results) {result : β} (member : result ∈ results) :
    ∃ value ∈ steps, step value = .ok result := by
  induction steps generalizing results with
  | nil =>
    obtain rfl : results = [] := (Except.ok.inj run).symm
    simp at member
  | cons value rest ih =>
    simp only [List.mapM_cons, bind_eq_ok] at run
    obtain ⟨first, here, later, after, same⟩ := run
    obtain rfl := Except.ok.inj same
    rcases List.mem_cons.mp member with rfl | other
    · exact ⟨value, List.mem_cons_self, here⟩
    · obtain ⟨found, among, own⟩ := ih after other
      exact ⟨found, List.mem_cons_of_mem _ among, own⟩

/-- A step that ends in one of the given failures or with one of the given results. -/
structure Ends (fails : ε → Prop) (value : α → Prop) (step : Except ε α) : Prop where
  /-- The results are among the given ones. -/
  ok : ∀ found, step = .ok found → value found
  /-- The failures are among the given ones. -/
  error : ∀ failure, step = .error failure → fails failure

section Ends

variable {fails : ε → Prop} {value : α → Prop} {result : β → Prop}

/-- A result ends a step. -/
theorem ends_ok {found : α} (holds : value found) : Ends fails value (.ok found) where
  ok := by simp [holds]
  error := by simp

/-- A failure ends a step. -/
theorem ends_error {failure : ε} (expected : fails failure) :
    Ends fails value (.error failure) where
  ok := by simp
  error := by simp [expected]

/-- Steps in sequence end as the later one does, or in a failure of the first. -/
theorem Ends.bind {first : Except ε α} {next : α → Except ε β} (head : Ends fails value first)
    (tail : ∀ found, value found → Ends fails result (next found)) :
    Ends fails result (first >>= next) := by
  cases first with
  | error failure => exact ends_error (head.error failure rfl)
  | ok found => exact tail found (head.ok found rfl)

/-- A result that is changed afterwards. -/
theorem Ends.map {step : Except ε α} {change : α → β} (head : Ends fails value step)
    (tail : ∀ found, value found → result (change found)) :
    Ends fails result (step.map change) := by
  cases step with
  | error failure => exact ends_error (head.error failure rfl)
  | ok found => exact ends_ok (tail found (head.ok found rfl))

/-- A failure that is renamed afterwards. -/
theorem Ends.mapError {fails' : ε' → Prop} {step : Except ε α} {rename : ε → ε'}
    (head : Ends fails value step) (tail : ∀ failure, fails failure → fails' (rename failure)) :
    Ends fails' value (step.mapError rename) := by
  cases step with
  | error failure => exact ends_error (tail failure (head.error failure rfl))
  | ok found => exact ends_ok (head.ok found rfl)

end Ends

/-- Whether two steps end alike: in the same failure, or with results that are related. -/
inductive Alike (related : α → α → Prop) : Except ε α → Except ε α → Prop where
  /-- Both succeed. -/
  | ok {found other : α} (results : related found other) : Alike related (.ok found) (.ok other)
  /-- Both fail. -/
  | error (failure : ε) : Alike related (.error failure) (.error failure)

/-- Steps in sequence end alike if the first ones do, and the later ones do after related
results. -/
theorem Alike.bind {related : α → α → Prop} {relatedLater : β → β → Prop}
    {first other : Except ε α} {next otherNext : α → Except ε β} (head : Alike related first other)
    (tail : ∀ found otherFound, first = .ok found → related found otherFound →
      Alike relatedLater (next found) (otherNext otherFound)) :
    Alike relatedLater (first >>= next) (other >>= otherNext) := by
  cases head with
  | ok results => exact tail _ _ rfl results
  | error failure => exact .error failure

/-- A step whose results are among the given ones, whatever its failures are. -/
abbrev Yields (value : α → Prop) (step : Except ε α) : Prop :=
  Ends (fun _ => True) value step

/-- A step of which only the results matter. -/
theorem yields_of_ok {value : α → Prop} {step : Except ε α}
    (holds : ∀ found, step = .ok found → value found) : Yields value step :=
  ⟨holds, fun _ _ => trivial⟩

/-- A step of which nothing matters. -/
theorem yields_any (step : Except ε α) : Yields (fun _ => True) step :=
  yields_of_ok fun _ _ => trivial

/-- Renaming failures does not matter for the results. -/
theorem Yields.mapError {value : α → Prop} {step : Except ε α} {rename : ε → ε'}
    (yields : Yields value step) : Yields value (step.mapError rename) :=
  Ends.mapError yields fun _ _ => trivial

end ReportLang.Result
