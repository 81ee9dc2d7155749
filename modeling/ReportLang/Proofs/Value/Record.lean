import ReportLang.Proofs.Value.Field
import ReportLang.Proofs.Value.Typing

/-!
# Fields of well-typed records

The fields of a value that fits a record type are found under the same names as their types, and
have these types. So reading a field yields a well-typed value, and a change at the end of a path
that keeps the type of what it changes keeps the type of the whole value. A record that is made of
well-typed values is well-typed, as no name is added twice.
-/

namespace ReportLang

variable {name : String}

namespace Ty

/-- The types of fields obey the rules exactly when each of them does. -/
theorem validFields_iff {fields : List (String × Ty)} :
    ValidFields fields ↔ ∀ field ∈ fields, field.2.Valid := by
  induction fields with
  | nil => simp [ValidFields]
  | cons field rest ih =>
    obtain ⟨other, ty⟩ := field
    simp [ValidFields, ih]

/-- The type of a field of a record type that obeys the rules obeys them too. -/
theorem ValidFields.lookup {fields : List (String × Ty)} {ty : Ty} (valid : ValidFields fields)
    (found : fields.lookup name = some ty) : ty.Valid := by
  obtain ⟨before, after, rfl, _⟩ := List.lookup_eq_some_iff.mp found
  exact validFields_iff.mp valid (name, ty) (by simp)

end Ty

namespace Value

variable {value stored : Value} {ty : Ty}

/-- A field is found under its name exactly when its type is, and fits it. -/
theorem FieldsFit.lookup {types : List (String × Ty)} {fields : List (String × Value)}
    (fit : FieldsFit types fields) (found : fields.lookup name = some value) :
    ∃ ty, types.lookup name = some ty ∧ value.Fits ty := by
  induction fields generalizing types with
  | nil => simp at found
  | cons field rest ih =>
    cases fit with
    | @cons other ty held types' _ first later =>
      rw [List.lookup_cons] at found ⊢
      cases same : name == other with
      | true =>
        simp only [same, Option.some.injEq] at found
        subst found
        exact ⟨ty, rfl, first⟩
      | false =>
        simp only [same] at found
        exact ih later found

/-- Where a type has a field, the values that fit it have one. -/
theorem FieldsFit.exists_lookup {types : List (String × Ty)} {fields : List (String × Value)}
    (fit : FieldsFit types fields) (listed : types.lookup name = some ty) :
    ∃ held, fields.lookup name = some held := by
  induction fields generalizing types with
  | nil =>
    cases fit
    cases listed
  | cons field rest ih =>
    cases fit with
    | @cons other _ held _ _ first later =>
      rw [List.lookup_cons] at listed ⊢
      cases same : name == other with
      | true => exact ⟨held, rfl⟩
      | false =>
        simp only [same] at listed
        exact ih later listed

/-- A value that fits the type of a field can take its place. -/
theorem FieldsFit.replaceField {types : List (String × Ty)} {fields : List (String × Value)}
    (fit : FieldsFit types fields) (found : types.lookup name = some ty) (fits : value.Fits ty) :
    FieldsFit types (replaceField name value fields) := by
  induction fields generalizing types with
  | nil =>
    cases fit
    exact .nil
  | cons field rest ih =>
    cases fit with
    | @cons other held _ types' _ first later =>
      rw [List.lookup_cons] at found
      rw [Value.replaceField]
      by_cases same : other = name
      · subst same
        simp only [beq_self_eq_true, Option.some.injEq] at found
        subst found
        rw [if_pos rfl]
        exact .cons fits later
      · have differ : (name == other) = false := by simpa using fun equal => same equal.symm
        simp only [differ] at found
        rw [if_neg same]
        exact .cons first (ih later found)

/-- A field of a well-typed value is found under its name with the type of the record's type. -/
theorem WellTyped.field (wellTyped : value.WellTyped) (found : value.field name = .ok stored) :
    stored.WellTyped ∧ value.ty.field? name = some stored.ty := by
  unfold Value.field at found
  split at found
  · rename_i ty fields
    split at found
    · rename_i held present
      obtain rfl := Except.ok.inj found
      obtain ⟨valid, fits⟩ := wellTyped
      cases fits with
      | record inner =>
        obtain ⟨fieldTy, listed, fieldFits⟩ := inner.lookup present
        refine ⟨fieldFits.wellTyped (Ty.ValidFields.lookup valid.2 listed), ?_⟩
        rw [fieldFits.ty_eq]
        exact listed
    · simp at found
  · simp at found

/-- A well-typed value has the fields of its type. -/
theorem WellTyped.exists_field (wellTyped : value.WellTyped)
    (listed : value.ty.field? name = some ty) : ∃ held, value.field name = .ok held := by
  cases value with
  | record own fields =>
    cases wellTyped.fits with
    | record inner =>
      obtain ⟨held, found⟩ := inner.exists_lookup listed
      exact ⟨held, by simp only [Value.field, found]⟩
  | number own n =>
    cases wellTyped.fits
    cases listed
  | float own x =>
    cases wellTyped.fits
    cases listed
  | text own s =>
    cases wellTyped.fits
    cases listed

/-- The value at the end of a path in a well-typed value is well-typed. -/
theorem WellTyped.fieldAt {path : List String} (wellTyped : value.WellTyped)
    (found : value.fieldAt path = .ok stored) : stored.WellTyped := by
  induction path generalizing value with
  | nil =>
    obtain rfl : value = stored := Except.ok.inj found
    exact wellTyped
  | cons name path ih =>
    obtain ⟨held, first, later⟩ := Result.bind_eq_ok.mp found
    exact ih (wellTyped.field first).1 later

/-- Whether a change of well-typed values keeps their types, however it ends. -/
def KeepsTy {α : Type} (change : Update Value α) : Prop :=
  ∀ value, value.WellTyped → (change value).2.Fits value.ty

/-- A change of a field that keeps its type keeps the type of the record. -/
theorem fits_onField {α : Type} {change : Update Value α} (wellTyped : value.WellTyped)
    (keeps : ∀ held, value.field name = .ok held → (change held).2.Fits held.ty) :
    (onField name change value).2.Fits value.ty := by
  rcases onField_cases change name value with ⟨_, _, same⟩ | ⟨ty, fields, held, rfl, listed, same⟩
  · rw [same]
    exact wellTyped.fits
  · rw [same]
    have found : (record ty fields).field name = .ok held := by simp only [field, listed]
    have fits := keeps held found
    have typed := (wellTyped.field found).2
    have outer := wellTyped.fits
    cases outer with
    | record inner => exact .record (inner.replaceField typed fits)

/-- A well-typed value that is stored in a field keeps the type of the record. -/
theorem keepsTy_setField (source : stored.WellTyped) (name : String) (allowRecords : Bool) :
    KeepsTy (setField name stored allowRecords) := by
  intro value wellTyped
  rw [setField_apply]
  split
  · exact wellTyped.fits
  · rename_i ty listed
    split
    · exact wellTyped.fits
    · rename_i converted fitted
      refine fits_onField wellTyped fun held found => ?_
      obtain ⟨inner, typed⟩ := wellTyped.field found
      obtain rfl : ty = held.ty := Option.some.inj (listed.symm.trans typed)
      exact fits_convert source inner.valid fitted

/-- A field that is cleared keeps the type of the record. -/
theorem keepsTy_clearField (name : String) : KeepsTy (clearField name) := by
  intro value wellTyped
  rw [clearField_apply]
  split
  · exact wellTyped.fits
  · rename_i held found
    split
    · exact wellTyped.fits
    · rename_i initial made
      have valid := (wellTyped.field found).1.valid
      exact keepsTy_setField ((fits_makeInitial valid made).wellTyped valid) name true value
        wellTyped

/-- A change at the end of a path that keeps the type there keeps the type of the whole value. -/
theorem KeepsTy.onPath {α : Type} {change : Update Value α} (keeps : KeepsTy change)
    (path : List String) : KeepsTy (onPath change path) := by
  induction path with
  | nil => exact keeps
  | cons name path ih =>
    intro value wellTyped
    exact fits_onField wellTyped fun held found => ih held (wellTyped.field found).1

/-- Values fit the types they have themselves. -/
theorem fieldsFit_of_wellTyped {fields : List (String × Value)}
    (wellTyped : ∀ field ∈ fields, field.2.WellTyped) :
    FieldsFit (fields.map fun field => (field.1, field.2.ty)) fields := by
  induction fields with
  | nil => exact .nil
  | cons field rest ih =>
    refine .cons (wellTyped field List.mem_cons_self).fits (ih fun other member => ?_)
    exact wellTyped other (List.mem_cons_of_mem field member)

/-- A record of different names and well-typed values is well-typed. -/
theorem wellTyped_record {fields : List (String × Value)}
    (different : (fields.map Prod.fst).Nodup) (wellTyped : ∀ field ∈ fields, field.2.WellTyped) :
    (record (.record (fields.map fun field => (field.1, field.2.ty))) fields).WellTyped where
  valid := by
    refine ⟨?_, Ty.validFields_iff.mpr ?_⟩
    · rw [List.map_map]
      exact different
    · simp only [List.mem_map]
      rintro field ⟨held, member, rfl⟩
      exact (wellTyped held member).valid
  fits := .record (fieldsFit_of_wellTyped wellTyped)

/-- Adding values to a record type appends their types under their names in lower case, and fails if
a name is there already. -/
theorem recordTy_from {types : List (String × Ty)} {fields : List (String × Value)}
    (different : (types.map Prod.fst).Nodup)
    (made : fields.foldlM (fun ty field => ty.addField field.1 field.2.ty) (Ty.record types) =
      .ok ty) :
    ty = .record (types ++ fields.map fun field => (Text.lower field.1, field.2.ty)) ∧
      ((types ++ fields.map fun field => (Text.lower field.1, field.2.ty)).map Prod.fst).Nodup := by
  induction fields generalizing types with
  | nil =>
    obtain rfl : Ty.record types = ty := Except.ok.inj made
    simpa using different
  | cons field rest ih =>
    obtain ⟨wider, first, later⟩ := Result.bind_eq_ok.mp made
    simp only [Ty.addField] at first
    split at first
    · simp at first
    · rename_i absent
      obtain rfl := Except.ok.inj first
      have fresh : types.lookup (Text.lower field.1) = none :=
        Option.not_isSome_iff_eq_none.mp absent
      have longer : ((types ++ [(Text.lower field.1, field.2.ty)]).map Prod.fst).Nodup := by
        rw [List.map_append, List.map_singleton, ← List.concat_eq_append, List.nodup_concat]
        refine ⟨fun member => ?_, different⟩
        obtain ⟨held, present, same⟩ := List.mem_map.mp member
        have differ := List.lookup_eq_none_iff.mp fresh held present
        simp [same] at differ
      have result := ih longer later
      simpa using result

/-- A record of named values holds them under their own names; its type has their types under the
names in lower case, which are all different. -/
theorem ofFields_eq_ok {fields : List (String × Value)} (made : ofFields fields = .ok value) :
    value = .record (.record (fields.map fun field => (Text.lower field.1, field.2.ty))) fields ∧
      (fields.map fun field => Text.lower field.1).Nodup := by
  obtain ⟨ty, typed, rfl⟩ := Result.map_eq_ok.mp made
  obtain ⟨rfl, different⟩ := recordTy_from (by simp) typed
  rw [List.nil_append, List.map_map] at different
  exact ⟨rfl, different⟩

/-- A record of well-typed values under names in lower case is well-typed. -/
theorem wellTyped_ofFields {fields : List (String × Value)}
    (lower : ∀ field ∈ fields, Text.lower field.1 = field.1)
    (wellTyped : ∀ field ∈ fields, field.2.WellTyped) (made : ofFields fields = .ok value) :
    value.WellTyped := by
  obtain ⟨rfl, different⟩ := ofFields_eq_ok made
  have names : (fields.map fun field => Text.lower field.1) = fields.map Prod.fst :=
    List.map_congr_left lower
  have types : (fields.map fun field => (Text.lower field.1, field.2.ty)) =
      fields.map fun field => (field.1, field.2.ty) :=
    List.map_congr_left fun field member => by rw [lower field member]
  rw [names] at different
  rw [types]
  exact wellTyped_record different wellTyped

end Value

end ReportLang
