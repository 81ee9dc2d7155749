import ReportLang.Proofs.Environment.Change
import ReportLang.Proofs.Value.Record

/-!
# Well-typed environments

In a well-typed environment every variable holds a value that fits the type it was declared with,
and every type obeys the rules. Declarations and changes of variables keep this, whether they
succeed or fail: a value that is stored is converted to the type of its place first, and the place
that is changed is the one whose type was looked up.
-/

namespace ReportLang

open Result

/-- Whether a variable holds a value that fits its type, which obeys the rules. -/
structure Variable.WellTyped (held : Variable) : Prop where
  /-- The type obeys the rules. -/
  valid : held.ty.Valid
  /-- The value fits the type. -/
  fits : held.value.Fits held.ty

/-- Whether all variables and named types of an environment are as they should be. -/
structure Environment.WellTyped (environment : Environment) : Prop where
  /-- Every variable holds a value that fits its type. -/
  bindings : ∀ held ∈ environment.bindings, held.WellTyped
  /-- Every named type obeys the rules. -/
  types : ∀ entry ∈ environment.types, entry.2.Valid

namespace Variable

/-- The value of a well-typed variable is well-typed. -/
theorem WellTyped.value {held : Variable} (typed : held.WellTyped) : held.value.WellTyped :=
  typed.fits.wellTyped typed.valid

/-- A declaration starts with a value of its type. -/
theorem yields_startValue {ty : Ty} {value : Option Value} (valid : ty.Valid)
    (typed : ∀ given, value = some given → given.WellTyped) :
    Result.Yields (fun found => found.Fits ty) (startValue ty value) := by
  cases value with
  | some given =>
    exact Yields.mapError (yields_of_ok fun _ converted =>
      Value.fits_convert (typed given rfl) valid converted)
  | none => exact Yields.mapError (yields_of_ok fun _ made => Value.fits_makeInitial valid made)

/-- A declared variable is well-typed. -/
theorem yields_declare (name : String) {ty : Ty} {value : Option Value} (isConstant : Bool)
    (valid : ty.Valid) (typed : ∀ given, value = some given → given.WellTyped) :
    Result.Yields WellTyped (declare name ty value isConstant) :=
  (yields_startValue valid typed).bind fun _ fits => ends_ok ⟨valid, fits⟩

/-- A variable that takes a well-typed value, or fails to, stays well-typed. -/
theorem WellTyped.assign {held : Variable} {value : Value} (typed : held.WellTyped)
    (source : value.WellTyped) : (assign value held).2.WellTyped := by
  refine (atomic_assign value).holds typed fun _ after done => ?_
  obtain ⟨_, stored, converted, rfl⟩ := assign_eq_ok_iff.mp done
  exact ⟨typed.valid, Value.fits_convert source typed.valid converted⟩

/-- A variable that is cleared, or fails to be, stays well-typed. -/
theorem WellTyped.clear {held : Variable} (typed : held.WellTyped) :
    (clear held).2.WellTyped := by
  refine atomic_clear.holds typed fun _ after done => ?_
  obtain ⟨_, initial, made, rfl⟩ := clear_eq_ok_iff.mp done
  exact ⟨typed.valid, Value.fits_makeInitial typed.valid made⟩

/-- A change that keeps the types of values keeps a variable well-typed. -/
theorem WellTyped.onValue {α : Type} {change : Update Value α} {held : Variable}
    (typed : held.WellTyped) (keeps : Value.KeepsTy change) :
    (onValue change held).2.WellTyped := by
  unfold Variable.onValue
  split
  · exact typed
  · refine ⟨typed.valid, ?_⟩
    have fits := keeps held.value typed.value
    rwa [typed.fits.ty_eq] at fits

end Variable

namespace Environment

variable {environment : Environment} {name : String}

/-- An environment without variables and types is well-typed. -/
theorem wellTyped_empty : empty.WellTyped where
  bindings := by simp [empty]
  types := by simp [empty]

/-- A variable that is found is well-typed. -/
theorem WellTyped.find? (typed : environment.WellTyped) {held : Variable}
    (found : environment.find? name = some held) : held.WellTyped := by
  obtain ⟨position, _, here⟩ := Option.bind_eq_some_iff.mp found
  exact typed.bindings held (List.mem_of_getElem? here)

/-- The variable of a name is the one that is found. -/
theorem yields_get (environment : Environment) (name : String) :
    Result.Yields (fun held => environment.find? name = some held) (environment.get name) := by
  unfold get
  split
  · rename_i held found
    exact ends_ok found
  · exact ends_error trivial

/-- The type of a name obeys the rules. -/
theorem WellTyped.findType? (typed : environment.WellTyped) {ty : Ty}
    (found : environment.findType? name = some ty) : ty.Valid := by
  obtain ⟨before, after, split, _⟩ := List.lookup_eq_some_iff.mp found
  exact typed.types (Text.lower name, ty) (by simp [split])

/-- Adding a well-typed variable keeps an environment well-typed. -/
theorem WellTyped.define (typed : environment.WellTyped) {held : Variable}
    (added : held.WellTyped) : (define held environment).2.WellTyped := by
  rw [define_apply]
  split
  · exact typed
  · refine ⟨fun other member => ?_, typed.types⟩
    rcases List.mem_append.mp member with earlier | last
    · exact typed.bindings other earlier
    · rwa [List.mem_singleton.mp last]

/-- Adding a type that obeys the rules keeps an environment well-typed. -/
theorem WellTyped.defineType (typed : environment.WellTyped) {ty : Ty} (valid : ty.Valid)
    (name : String) : (defineType name ty environment).2.WellTyped := by
  rw [defineType_apply]
  split
  · exact typed
  · refine ⟨typed.bindings, fun entry member => ?_⟩
    rcases List.mem_append.mp member with earlier | last
    · exact typed.types entry earlier
    · rwa [List.mem_singleton.mp last]

/-- A change that keeps variables well-typed keeps an environment well-typed. -/
theorem WellTyped.onVariable {α : Type} {change : Update Variable α}
    (typed : environment.WellTyped)
    (keeps : ∀ held : Variable, held.WellTyped → (change held).2.WellTyped) (name : String) :
    (onVariable name change environment).2.WellTyped := by
  rcases onVariable_cases name change environment with
    ⟨_, same⟩ | ⟨position, held, _, here, same⟩
  · rw [same]
    exact typed
  · rw [same]
    refine ⟨fun other member => ?_, typed.types⟩
    rcases List.mem_or_eq_of_mem_set member with before | rfl
    · exact typed.bindings other before
    · exact keeps held (typed.bindings held (List.mem_of_getElem? here))

end Environment

namespace Reference

variable {environment : Environment}

/-- The value that is referred to is well-typed. -/
theorem yields_get (typed : environment.WellTyped) (target : Reference) :
    Result.Yields Value.WellTyped (target.get environment) := by
  cases target with
  | whole name =>
    refine (environment.yields_get name).bind fun held found => ?_
    exact ends_ok (typed.find? found).value
  | part name path field =>
    refine (environment.yields_get name).bind fun held found => ?_
    refine Yields.mapError (yields_of_ok fun value reached => ?_)
    exact (typed.find? found).value.fieldAt reached

/-- Storing a well-typed value keeps an environment well-typed. -/
theorem wellTyped_set (typed : environment.WellTyped) {value : Value} (source : value.WellTyped)
    (target : Reference) : (target.set value environment).2.WellTyped := by
  cases target with
  | whole name => exact typed.onVariable (fun _ held => held.assign source) name
  | part name path field =>
    exact typed.onVariable
      (fun _ held => held.onValue ((Value.keepsTy_setField source field false).onPath path)) name

/-- Clearing a place keeps an environment well-typed. -/
theorem wellTyped_clear (typed : environment.WellTyped) (target : Reference) :
    (target.clear environment).2.WellTyped := by
  cases target with
  | whole name => exact typed.onVariable (fun _ held => held.clear) name
  | part name path field =>
    exact typed.onVariable
      (fun _ held => held.onValue ((Value.keepsTy_clearField field).onPath path)) name

end Reference

end ReportLang
