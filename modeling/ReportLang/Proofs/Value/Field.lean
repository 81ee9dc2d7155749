import ReportLang.Proofs.Update
import ReportLang.Value.Field

/-!
# Fields that are changed where they are

A change of a field either does not find the field, or leaves in its place what it makes of it. So a
change that has changed nothing when it fails still has if it is made in a field, at the end of any
path. Storing and clearing convert a value before they change anything: they change the record as a
whole or not at all.
-/

namespace ReportLang.Value

open ReportLang.Update

variable {α : Type} {name : String} {value : Value}

/-- A change of a field does not find the field, or leaves in its place what it makes of it. -/
theorem onField_cases (change : Update Value α) (name : String) (value : Value) :
    (∃ failure, value.field name = .error failure ∧
      onField name change value = (.error (.value failure), value)) ∨
    ∃ ty fields held, value = .record ty fields ∧ fields.lookup name = some held ∧
      onField name change value =
        ((change held).1, .record ty (replaceField name (change held).2 fields)) := by
  cases value with
  | record ty fields =>
    cases listed : fields.lookup name with
    | some held =>
      refine .inr ⟨ty, fields, held, rfl, listed, ?_⟩
      simp only [onField, listed]
      rfl
    | none =>
      refine .inl ⟨.unknownField name ty, ?_, ?_⟩
      · simp only [field, listed]
      · simp only [onField, listed]
  | number => exact .inl ⟨_, rfl, rfl⟩
  | float => exact .inl ⟨_, rfl, rfl⟩
  | text => exact .inl ⟨_, rfl, rfl⟩

/-- A value is stored in a field if the field has a type, and the value can be converted to it. -/
theorem setField_apply (name : String) (stored : Value) (allowRecords : Bool) (value : Value) :
    setField name stored allowRecords value =
      match value.ty.field? name with
      | none => (.error (.value (.unknownField name value.ty)), value)
      | some ty =>
        match stored.convert ty allowRecords with
        | .error failure => (.error (.value failure), value)
        | .ok converted => onField name (set converted) value := by
  simp only [setField, bind_apply, get_apply]
  cases value.ty.field? name with
  | none => rfl
  | some ty =>
    simp only [bind_apply, lift_apply]
    cases stored.convert ty allowRecords with
    | ok converted => rfl
    | error failure => rfl

/-- A field is cleared if it is there, and the initial value of its type can be stored in it. -/
theorem clearField_apply (name : String) (value : Value) :
    clearField name value =
      match value.field name with
      | .error failure => (.error (.value failure), value)
      | .ok held =>
        match makeInitial held.ty with
        | .error cause => (.error (.crash cause), value)
        | .ok initial => setField name initial true value := by
  simp only [clearField, bind_apply, get_apply, lift_apply]
  cases value.field name with
  | error failure => rfl
  | ok held =>
    simp only [Result.mapError_ok]
    cases makeInitial held.ty with
    | error cause => rfl
    | ok initial => rfl

section Atomicity

/-- Nothing is replaced by what is there already. -/
theorem replaceField_self {fields : List (String × Value)}
    (listed : fields.lookup name = some value) : replaceField name value fields = fields := by
  induction fields with
  | nil => simp at listed
  | cons field rest ih =>
    obtain ⟨other, held⟩ := field
    rw [List.lookup_cons] at listed
    rw [replaceField]
    by_cases same : other = name
    · subst same
      simp only [beq_self_eq_true, Option.some.injEq] at listed
      rw [if_pos rfl, listed]
    · have differ : (name == other) = false := by simpa using fun equal => same equal.symm
      simp only [differ] at listed
      rw [if_neg same, ih listed]

/-- A change that has changed nothing when it fails still has in a field. -/
theorem atomic_onField {change : Update Value α} (atomic : Atomic id change) (name : String) :
    Atomic id (onField name change) := by
  intro value failure after failed
  rcases onField_cases change name value with
    ⟨missing, _, same⟩ | ⟨ty, fields, held, rfl, listed, same⟩
  · rw [same] at failed
    exact (Prod.mk.inj failed).2.symm
  · rw [same] at failed
    obtain ⟨inner, rfl⟩ := Prod.mk.inj failed
    have unchanged : (change held).2 = held := atomic held failure _ (Prod.ext inner rfl)
    rw [unchanged, replaceField_self listed]

/-- A change that has changed nothing when it fails still has at the end of a path. -/
theorem atomic_onPath {change : Update Value α} (atomic : Atomic id change) (path : List String) :
    Atomic id (onPath change path) := by
  induction path with
  | nil => exact atomic
  | cons name path ih => exact atomic_onField ih name

/-- A value is stored in a field or nothing changes. -/
theorem atomic_setField (name : String) (stored : Value) (allowRecords : Bool) :
    Atomic id (setField name stored allowRecords) := by
  refine idle_get.bind fun container => ?_
  split
  · exact (idle_throw _).atomic
  · exact (idle_lift _).bind fun converted => atomic_onField (succeeds_set converted).atomic name

/-- A field is cleared or nothing changes. -/
theorem atomic_clearField (name : String) : Atomic id (clearField name) :=
  idle_get.bind fun _ => (idle_lift _).bind fun _ => (idle_lift _).bind fun initial =>
    atomic_setField name initial true

end Atomicity

end ReportLang.Value
