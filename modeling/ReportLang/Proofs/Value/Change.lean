import ReportLang.Proofs.Value.Mirror
import ReportLang.Proofs.Value.Record

/-!
# Changes of one component

A change at the end of a path of fields replaces one component of a value: the records on the path
keep their types and all their other fields (`Value.ChangedAt`). So the value at the end of the path
is the new one, a path that leads elsewhere leads to what it did before, and a path that stops on
the way leads to a record in which the same component has changed.
-/

namespace ReportLang

/-- The type at the end of a path of fields. -/
def Ty.fieldAt? (path : List String) (ty : Ty) : Option Ty :=
  path.foldlM (fun held name => held.field? name) ty

namespace Value

/-- Whether a value is another one in which the component at the end of a path was `old` and is
`new` now. -/
inductive ChangedAt (old new : Value) : List String → Value → Value → Prop where
  /-- The component is the value itself. -/
  | here : ChangedAt old new [] old new
  /-- The component is in a field of a record, the first one of its name. -/
  | inside {name : String} {path : List String} {held changed : Value} {ty : Ty}
    {before after : List (String × Value)} (first : before.lookup name = none)
    (inner : ChangedAt old new path held changed) :
    ChangedAt old new (name :: path) (.record ty (before ++ (name, held) :: after))
      (.record ty (before ++ (name, changed) :: after))

variable {α : Type} {old new value changed : Value} {name : String} {path other : List String}
  {change : Update Value α} {result : α}

section Fields

/-- The first field of a name is the one that is found. -/
theorem lookup_first {before after : List (String × Value)} (first : before.lookup name = none) :
    (before ++ (name, value) :: after).lookup name = some value := by
  rw [List.lookup_append, first, Option.none_or, List.lookup_cons_self]

/-- Where another field is, does not depend on what a field holds. -/
theorem lookup_other (value changed : Value) {before after : List (String × Value)} {key : String}
    (differ : key ≠ name) :
    (before ++ (name, changed) :: after).lookup key =
      (before ++ (name, value) :: after).lookup key := by
  have test : (key == name) = false := by simpa using differ
  simp only [List.lookup_append, List.lookup_cons, test]

/-- The first field of a name is the one that is replaced. -/
theorem replaceField_first {before after : List (String × Value)}
    (first : before.lookup name = none) :
    replaceField name changed (before ++ (name, value) :: after) =
      before ++ (name, changed) :: after := by
  induction before with
  | nil => simp [replaceField]
  | cons field rest ih =>
    obtain ⟨key, held⟩ := field
    rw [List.lookup_cons] at first
    have differ : key ≠ name := by
      rintro rfl
      simp at first
    have test : (name == key) = false := by simpa using differ.symm
    simp only [test] at first
    rw [List.cons_append, replaceField, if_neg differ, ih first, List.cons_append]

/-- A path of fields is followed one field at a time. -/
theorem fieldAt_cons (name : String) (path : List String) (value : Value) :
    value.fieldAt (name :: path) = (value.field name) >>= fun held => held.fieldAt path :=
  List.foldlM_cons

/-- The first field of a name is the one that is read. -/
theorem field_first {ty : Ty} {before after : List (String × Value)}
    (first : before.lookup name = none) :
    (record ty (before ++ (name, value) :: after)).field name = .ok value := by
  simp only [field, lookup_first first]

/-- The field of a record is the first one of its name. -/
theorem field_eq_ok {held : Value} :
    value.field name = .ok held ↔
      ∃ ty before after, value = .record ty (before ++ (name, held) :: after) ∧
        before.lookup name = none := by
  constructor
  · intro found
    unfold field at found
    split at found
    · rename_i ty fields
      split at found
      · rename_i other listed
        obtain rfl := Except.ok.inj found
        obtain ⟨before, after, rfl, first⟩ := List.lookup_eq_some_iff.mp listed
        exact ⟨ty, before, after, rfl, List.lookup_eq_none_iff.mpr first⟩
      · cases found
    · cases found
  · rintro ⟨ty, before, after, rfl, first⟩
    exact field_first first

end Fields

section Paths

/-- A component changes in a component that changes exactly when it does at the end of both
paths. -/
theorem changedAt_append {rest : List String} :
    ChangedAt old new (path ++ rest) value changed ↔
      ∃ inner outer, ChangedAt inner outer path value changed ∧
        ChangedAt old new rest inner outer := by
  constructor
  · intro both
    induction path generalizing value changed with
    | nil => exact ⟨value, changed, .here, both⟩
    | cons name path ih =>
      cases both with
      | inside first inner =>
        obtain ⟨held, later, above, below⟩ := ih inner
        exact ⟨held, later, .inside first above, below⟩
  · rintro ⟨inner, outer, above, below⟩
    induction above with
    | here => exact below
    | inside first _ ih => exact .inside first ih

/-- The path leads to the component. -/
theorem ChangedAt.fieldAt (change : ChangedAt old new path value changed) :
    value.fieldAt path = .ok old ∧ changed.fieldAt path = .ok new := by
  induction change with
  | here => exact ⟨rfl, rfl⟩
  | inside first _ ih =>
    rw [fieldAt_cons, fieldAt_cons, field_first first, field_first first]
    exact ih

/-- The field of a component that is in a field of the value itself. -/
theorem ChangedAt.field_old (change : ChangedAt old new [name] value changed) :
    value.field name = .ok old := by
  cases change with
  | inside first inner =>
    cases inner with
    | here => exact field_first first

/-- A path that leads elsewhere leads to the same as before, or fails in the same way. -/
theorem ChangedAt.fieldAt_apart (change : ChangedAt old new path value changed)
    (notBelow : ¬ path <+: other) (notAbove : ¬ other <+: path) :
    changed.fieldAt other = value.fieldAt other := by
  induction change generalizing other with
  | here => exact absurd List.nil_prefix notBelow
  | @inside name path held later ty before after first _ ih =>
    cases other with
    | nil => exact absurd List.nil_prefix notAbove
    | cons key other =>
      rw [fieldAt_cons, fieldAt_cons]
      by_cases same : key = name
      · subst same
        rw [List.cons_prefix_cons] at notBelow notAbove
        rw [field_first first, field_first first]
        exact ih (fun below => notBelow ⟨rfl, below⟩) fun above => notAbove ⟨rfl, above⟩
      · simp only [field, lookup_other held later same]

/-- Whatever can be read can be changed. -/
theorem exists_changedAt (found : value.fieldAt path = .ok old) (new : Value) :
    ∃ changed, ChangedAt old new path value changed := by
  induction path generalizing value with
  | nil =>
    obtain rfl : value = old := Except.ok.inj found
    exact ⟨new, .here⟩
  | cons name path ih =>
    rw [fieldAt_cons] at found
    obtain ⟨held, first, later⟩ := Result.bind_eq_ok.mp found
    obtain ⟨ty, before, after, rfl, absent⟩ := field_eq_ok.mp first
    obtain ⟨changed, inner⟩ := ih later
    exact ⟨_, .inside absent inner⟩

/-- The type of a component of a well-typed value is the one at the end of the same path. -/
theorem WellTyped.fieldAt?_ty (wellTyped : value.WellTyped) (found : value.fieldAt path = .ok old) :
    value.ty.fieldAt? path = some old.ty := by
  induction path generalizing value with
  | nil =>
    obtain rfl : value = old := Except.ok.inj found
    rfl
  | cons name path ih =>
    rw [fieldAt_cons] at found
    obtain ⟨held, first, later⟩ := Result.bind_eq_ok.mp found
    obtain ⟨inner, typed⟩ := wellTyped.field first
    rw [Ty.fieldAt?, List.foldlM_cons, typed]
    exact ih inner later

/-- Whatever is at the end of a path in the type of a well-typed value can be read in the value. -/
theorem WellTyped.exists_fieldAt (wellTyped : value.WellTyped) {ty : Ty}
    (listed : value.ty.fieldAt? path = some ty) : ∃ held, value.fieldAt path = .ok held := by
  induction path generalizing value with
  | nil => exact ⟨value, rfl⟩
  | cons name path ih =>
    rw [Ty.fieldAt?, List.foldlM_cons] at listed
    obtain ⟨inner, first, later⟩ := Option.bind_eq_some_iff.mp listed
    obtain ⟨held, found⟩ := wellTyped.exists_field first
    obtain ⟨own, typed⟩ := wellTyped.field found
    obtain rfl : inner = held.ty := Option.some.inj (first.symm.trans typed)
    obtain ⟨last, reached⟩ := ih own later
    refine ⟨last, ?_⟩
    rw [fieldAt_cons]
    exact Result.bind_eq_ok.mpr ⟨held, found, reached⟩

end Paths

section Stored

/-- A change of a field that succeeds is a change of one component. -/
theorem onField_eq_ok :
    onField name change value = (.ok result, changed) ↔
      ∃ old new, change old = (.ok result, new) ∧ ChangedAt old new [name] value changed := by
  constructor
  · intro done
    rcases onField_cases change name value with ⟨_, _, same⟩ | ⟨ty, fields, held, rfl, listed, same⟩
    · rw [same] at done
      cases (Prod.mk.inj done).1
    · rw [same] at done
      obtain ⟨made, rfl⟩ := Prod.mk.inj done
      obtain ⟨before, after, rfl, absent⟩ := List.lookup_eq_some_iff.mp listed
      have first : before.lookup name = none := List.lookup_eq_none_iff.mpr absent
      refine ⟨held, (change held).2, Prod.ext made rfl, ?_⟩
      rw [replaceField_first first]
      exact .inside first .here
  · rintro ⟨old, new, made, changes⟩
    cases changes with
    | @inside _ _ _ _ ty before after first inner =>
      cases inner with
      | here => simp only [onField, lookup_first first, made, replaceField_first first]

/-- A change at the end of a path that succeeds is a change of one component. -/
theorem onPath_eq_ok :
    onPath change path value = (.ok result, changed) ↔
      ∃ old new, change old = (.ok result, new) ∧ ChangedAt old new path value changed := by
  induction path generalizing value changed with
  | nil =>
    constructor
    · intro made
      exact ⟨value, changed, made, .here⟩
    · rintro ⟨_, _, made, ⟨⟩⟩
      exact made
  | cons name path ih =>
    rw [onPath, onField_eq_ok]
    constructor
    · rintro ⟨held, later, inner, outer⟩
      obtain ⟨old, new, made, below⟩ := ih.mp inner
      exact ⟨old, new, made, changedAt_append.mpr ⟨held, later, outer, below⟩⟩
    · rintro ⟨old, new, made, changes⟩
      have both : ChangedAt old new ([name] ++ path) value changed := changes
      obtain ⟨held, later, outer, below⟩ := changedAt_append.mp both
      exact ⟨held, later, ih.mpr ⟨old, new, made, below⟩, outer⟩

/-- What is stored in a field is converted to the type that the record's type gives the field. -/
theorem setField_eq_ok {stored : Value} {allowRecords : Bool} :
    setField name stored allowRecords value = (.ok (), changed) ↔
      ∃ ty old new, value.ty.field? name = some ty ∧ stored.convert ty allowRecords = .ok new ∧
        ChangedAt old new [name] value changed := by
  rw [setField_apply]
  constructor
  · intro set
    split at set
    · cases (Prod.mk.inj set).1
    · rename_i ty listed
      split at set
      · cases (Prod.mk.inj set).1
      · rename_i new converted
        obtain ⟨old, _, ⟨⟩, changes⟩ := onField_eq_ok.mp set
        exact ⟨ty, old, new, listed, converted, changes⟩
  · rintro ⟨ty, old, new, listed, converted, changes⟩
    simp only [listed, converted]
    exact onField_eq_ok.mpr ⟨old, new, rfl, changes⟩

/-- A value that fits a type is stored under it as it is. -/
theorem convert_of_fits {ty : Ty} (fits : value.Fits ty) : value.convert ty true = .ok value := by
  obtain rfl := fits.ty_eq
  exact fits.mirrors.convert_own

/-- What is stored in a field of a well-typed record is converted to the type of what the field
holds. -/
theorem WellTyped.setField_eq_ok {stored : Value} {allowRecords : Bool}
    (wellTyped : value.WellTyped) :
    setField name stored allowRecords value = (.ok (), changed) ↔
      ∃ old new, stored.convert old.ty allowRecords = .ok new ∧
        ChangedAt old new [name] value changed := by
  have typed {old new : Value} (changes : ChangedAt old new [name] value changed) :
      value.ty.field? name = some old.ty :=
    (wellTyped.field changes.field_old).2
  rw [Value.setField_eq_ok]
  constructor
  · rintro ⟨ty, old, new, listed, converted, changes⟩
    obtain rfl : ty = old.ty := Option.some.inj (listed.symm.trans (typed changes))
    exact ⟨old, new, converted, changes⟩
  · rintro ⟨old, new, converted, changes⟩
    exact ⟨old.ty, old, new, typed changes, converted, changes⟩

/-- A field of a well-typed record that is cleared holds the initial value of its type. -/
theorem WellTyped.clearField_eq_ok (wellTyped : value.WellTyped) :
    clearField name value = (.ok (), changed) ↔
      ∃ old new, makeInitial old.ty = .ok new ∧ ChangedAt old new [name] value changed := by
  have initially {old initial : Value} (found : value.field name = .ok old)
      (made : makeInitial old.ty = .ok initial) : initial.convert old.ty true = .ok initial :=
    convert_of_fits (fits_makeInitial (wellTyped.field found).1.valid made)
  rw [clearField_apply]
  constructor
  · intro cleared
    split at cleared
    · cases (Prod.mk.inj cleared).1
    · rename_i old found
      split at cleared
      · cases (Prod.mk.inj cleared).1
      · rename_i initial made
        obtain ⟨other, new, converted, changes⟩ := wellTyped.setField_eq_ok.mp cleared
        obtain rfl : old = other := Except.ok.inj (found.symm.trans changes.field_old)
        obtain rfl : initial = new :=
          Except.ok.inj ((initially found made).symm.trans converted)
        exact ⟨old, initial, made, changes⟩
  · rintro ⟨old, new, made, changes⟩
    have found := changes.field_old
    simp only [found, made]
    exact wellTyped.setField_eq_ok.mpr ⟨old, new, initially found made, changes⟩

/-- A change of a field of the record at the end of a path is a change of one component. -/
theorem WellTyped.onPath_field_eq_ok {related : Value → Value → Prop} (wellTyped : value.WellTyped)
    (each : ∀ container later : Value, container.WellTyped →
      (change container = (.ok result, later) ↔
        ∃ old new, related old new ∧ ChangedAt old new [name] container later)) :
    onPath change path value = (.ok result, changed) ↔
      ∃ old new, related old new ∧ ChangedAt old new (path ++ [name]) value changed := by
  rw [onPath_eq_ok]
  constructor
  · rintro ⟨container, later, made, above⟩
    have inner := wellTyped.fieldAt above.fieldAt.1
    obtain ⟨old, new, holds, below⟩ := (each container later inner).mp made
    exact ⟨old, new, holds, changedAt_append.mpr ⟨container, later, above, below⟩⟩
  · rintro ⟨old, new, holds, both⟩
    obtain ⟨container, later, above, below⟩ := changedAt_append.mp both
    have inner := wellTyped.fieldAt above.fieldAt.1
    exact ⟨container, later, (each container later inner).mpr ⟨old, new, holds, below⟩, above⟩

end Stored

end Value

end ReportLang
