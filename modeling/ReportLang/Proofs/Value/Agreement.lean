import ReportLang.Proofs.Text.LowerCase
import ReportLang.Proofs.Value.Change

/-!
# Records that agree with their types

A record is read through the fields it holds and written through the fields of its type. The two
agree if they have the same names in the same order; then a field can be read exactly when the type
has it, and storing what was read changes nothing. A record that mirrors its type agrees with it,
and still does after any writes to its fields or to those of records inside it. Records that are
made of named values keep the names as they are given, while their types have them in lower case: so
they agree with their types exactly if the names are in lower case.
-/

namespace ReportLang.Value

/-- The names of the fields that a value holds, in order. -/
def fieldNames : Value → List String
  | .record _ fields => fields.map Prod.fst
  | .number .. | .float .. | .text .. => []

/-- Whether the names of fields are in lower case. -/
def LowerNames (fields : List (String × Value)) : Prop :=
  ∀ field ∈ fields, Text.lower field.1 = field.1

/-- Whether the fields that a value holds are those of its type. -/
structure Agrees (value : Value) : Prop where
  /-- The names are the same, in the same order. -/
  names : value.fieldNames = value.ty.fields.map Prod.fst
  /-- A field can be read exactly when the type has it. -/
  readable : ∀ name,
    (∃ held, value.field name = .ok held) ↔ ∃ ty, value.ty.field? name = some ty
  /-- Storing what was read changes nothing. -/
  rewritten : ∀ name held,
    value.field name = .ok held → setField name held true value = (.ok (), value)

/-- Whether a value comes from another one by writes, each of which stores a value that mirrors its
type in a field of the value itself or of a record inside it, or fails to. -/
inductive Written (value : Value) : Value → Prop where
  /-- Nothing has been written. -/
  | start : Written value value
  /-- A field of the record at the end of a path has been written, if the write has not failed. -/
  | set {before after stored : Value} {path : List String} {name : String} {allowRecords : Bool}
    {outcome : Except RunError Unit} (earlier : Written value before) (source : stored.Mirrors)
    (done : onPath (setField name stored allowRecords) path before = (outcome, after)) :
    Written value after

variable {value changed old new stored : Value} {name : String} {path : List String}
  {allowRecords : Bool}

section Mirroring

/-- A field can be replaced by itself. -/
theorem changedAt_own (found : value.field name = .ok old) :
    ChangedAt old old [name] value value := by
  obtain ⟨ty, before, after, rfl, first⟩ := field_eq_ok.mp found
  exact .inside first .here

/-- A value that mirrors its type agrees with it. -/
theorem Mirrors.agrees (mirrors : value.Mirrors) : value.Agrees where
  names := by
    cases mirrors with
    | @record fields =>
      show fields.map Prod.fst = (fieldTypes fields).map Prod.fst
      rw [fieldTypes, List.map_map]
      rfl
    | number => rfl
    | float => rfl
    | text => rfl
  readable _ := mirrors.exists_field_iff
  rewritten name held found := by
    obtain ⟨inner, listed⟩ := mirrors.field found
    exact setField_eq_ok.mpr ⟨held.ty, held, held, listed, inner.convert_own, changedAt_own found⟩

/-- What stands at the end of a path in a value that mirrors its type mirrors its own. -/
theorem Mirrors.fieldAt (mirrors : value.Mirrors) (found : value.fieldAt path = .ok old) :
    old.Mirrors := by
  induction path generalizing value with
  | nil =>
    obtain rfl : value = old := Except.ok.inj found
    exact mirrors
  | cons name path ih =>
    rw [fieldAt_cons] at found
    obtain ⟨held, first, later⟩ := Result.bind_eq_ok.mp found
    exact ih (mirrors.field first).1 later

/-- A component that is replaced by one of its type leaves a value that mirrors its type. -/
theorem Mirrors.changedAt (mirrors : value.Mirrors) (source : new.Mirrors) (same : new.ty = old.ty)
    (change : ChangedAt old new path value changed) :
    changed.Mirrors ∧ changed.ty = value.ty := by
  induction change with
  | here => exact ⟨source, same⟩
  | @inside name path held later ty before after first _ ih =>
    cases mirrors with
    | record inner =>
      obtain ⟨mirrored, kept⟩ := ih (inner (name, held) (by simp))
      have types : fieldTypes (before ++ (name, held) :: after) =
          fieldTypes (before ++ (name, later) :: after) := by
        simp [fieldTypes, kept]
      rw [types]
      refine ⟨.record fun field member => ?_, rfl⟩
      rcases List.mem_append.mp member with earlier | here
      · exact inner field (List.mem_append_left _ earlier)
      · rcases List.mem_cons.mp here with rfl | behind
        · exact mirrored
        · exact inner field (List.mem_append_right _ (List.mem_cons_of_mem _ behind))

/-- A field that is written leaves a record that mirrors its type. -/
theorem Mirrors.setField (mirrors : value.Mirrors) (source : stored.Mirrors)
    (set : setField name stored allowRecords value = (.ok (), changed)) :
    changed.Mirrors ∧ changed.ty = value.ty := by
  obtain ⟨ty, old, new, listed, converted, change⟩ := setField_eq_ok.mp set
  obtain ⟨mirrored, typed⟩ := source.convert converted
  have declared := (mirrors.field change.field_old).2
  obtain rfl : ty = old.ty := Option.some.inj (listed.symm.trans declared)
  exact mirrors.changedAt mirrored typed change

/-- However much is written, a value goes on mirroring its type. -/
theorem Written.mirrors (written : value.Written changed) (mirrors : value.Mirrors) :
    changed.Mirrors := by
  induction written with
  | start => exact mirrors
  | @set before _ stored path name allowRecords outcome _ source done ih =>
    cases outcome with
    | ok =>
      obtain ⟨container, later, set, change⟩ := onPath_eq_ok.mp done
      obtain ⟨mirrored, typed⟩ := (ih.fieldAt change.fieldAt.1).setField source set
      exact (ih.changedAt mirrored typed change).1
    | error failure =>
      obtain rfl := atomic_onPath (atomic_setField name stored allowRecords) path before failure _
        done
      exact ih

end Mirroring

section Named

variable {fields : List (String × Value)}

/-- A record made of values under names in lower case has the type of its fields. -/
theorem ofFields_eq_ok_of_lower (made : ofFields fields = .ok value) (lower : LowerNames fields) :
    value = .record (.record (fieldTypes fields)) fields := by
  have types : (fields.map fun field => (Text.lower field.1, field.2.ty)) = fieldTypes fields :=
    List.map_congr_left fun field member => by rw [lower field member]
  rw [(ofFields_eq_ok made).1, types]

/-- The names of the type of a record made of values are in lower case. -/
theorem lower_of_field? {ty : Ty} (made : ofFields fields = .ok value)
    (listed : value.ty.field? name = some ty) : Text.lower name = name := by
  obtain ⟨rfl, _⟩ := ofFields_eq_ok made
  obtain ⟨before, after, same, _⟩ := List.lookup_eq_some_iff.mp listed
  have member : (name, ty) ∈ fields.map fun field => (Text.lower field.1, field.2.ty) := by
    show (name, ty) ∈ (Value.record (.record _) fields).ty.fields
    rw [same]
    simp
  obtain ⟨field, _, pair⟩ := List.mem_map.mp member
  obtain ⟨rfl, _⟩ := Prod.mk.inj pair
  exact Text.lower_lower field.1

/-- A field that is not in lower case is read from a record made of values, but the type does not
have it and nothing can be stored in it. -/
theorem field_of_not_lower (made : ofFields fields = .ok value) {field : String × Value}
    (member : field ∈ fields) (other : Text.lower field.1 ≠ field.1) :
    (∃ held, value.field field.1 = .ok held) ∧ value.ty.field? field.1 = none ∧
      ∀ stored allowRecords, setField field.1 stored allowRecords value =
        (.error (.value (.unknownField field.1 value.ty)), value) := by
  have unlisted : value.ty.field? field.1 = none :=
    Option.eq_none_iff_forall_ne_some.mpr fun ty listed => other (lower_of_field? made listed)
  refine ⟨?_, unlisted, fun stored allowRecords => ?_⟩
  · obtain ⟨rfl, _⟩ := ofFields_eq_ok made
    have present : fields.lookup field.1 ≠ none := fun absent => by
      simpa using List.lookup_eq_none_iff.mp absent field member
    obtain ⟨held, listed⟩ := Option.ne_none_iff_exists'.mp present
    exact ⟨held, field_record_eq_ok_iff.mpr listed⟩
  · simp only [setField_apply, unlisted]

/-- A record made of named values has the field names of its type exactly if the names are in lower
case. -/
theorem fieldNames_ofFields_iff (made : ofFields fields = .ok value) :
    value.fieldNames = value.ty.fields.map Prod.fst ↔ LowerNames fields := by
  obtain ⟨rfl, _⟩ := ofFields_eq_ok made
  show fields.map Prod.fst = (fields.map fun field => (Text.lower field.1, field.2.ty)).map _ ↔ _
  rw [List.map_map, List.map_inj_left]
  exact forall₂_congr fun _ _ => eq_comm

/-- Reading a record made of named values agrees with its type exactly if the names are in lower
case. -/
theorem field_ofFields_iff (made : ofFields fields = .ok value) :
    (∀ name, (∃ held, value.field name = .ok held) ↔ ∃ ty, value.ty.field? name = some ty) ↔
      LowerNames fields := by
  constructor
  · intro readable field member
    by_contra other
    obtain ⟨read, unlisted, _⟩ := field_of_not_lower made member other
    obtain ⟨ty, listed⟩ := (readable field.1).mp read
    rw [unlisted] at listed
    cases listed
  · intro lower name
    obtain rfl := ofFields_eq_ok_of_lower made lower
    exact exists_field_record_iff fields

/-- The fields of a record made of named values are those of its type exactly if the names are in
lower case. A name that is not can be read, but the type does not have it and it cannot be written.
If all names are in lower case and the values mirror their types, the record and all records inside
it agree with their types, and go on doing so whatever is written to their fields. -/
theorem ofFields_agrees (made : ofFields fields = .ok value) :
    (value.fieldNames = value.ty.fields.map Prod.fst ↔ LowerNames fields) ∧
    ((∀ name, (∃ held, value.field name = .ok held) ↔ ∃ ty, value.ty.field? name = some ty) ↔
      LowerNames fields) ∧
    (∀ field ∈ fields, Text.lower field.1 ≠ field.1 →
      (∃ held, value.field field.1 = .ok held) ∧ value.ty.field? field.1 = none ∧
        ∀ stored allowRecords, setField field.1 stored allowRecords value =
          (.error (.value (.unknownField field.1 value.ty)), value)) ∧
    (LowerNames fields → (∀ field ∈ fields, field.2.Mirrors) →
      ∀ later, value.Written later → ∀ path component, later.fieldAt path = .ok component →
        component.Agrees) := by
  refine ⟨fieldNames_ofFields_iff made, field_ofFields_iff made,
    fun field member other => field_of_not_lower made member other,
    fun lower inner later written path component found => ?_⟩
  obtain rfl := ofFields_eq_ok_of_lower made lower
  exact ((written.mirrors (.record inner)).fieldAt found).agrees

/-- A record with a record in it agrees with its type, and so does the inner one after a write. -/
theorem ofFields_agrees_nested :
    ∃ value later component,
      ofFields [("a", ofInteger 1), ("r", initial (.record [("z", .string)]))] = .ok value ∧
      onPath (setField "z" (ofCharacters "w") false) ["r"] value = (.ok (), later) ∧
      later.fieldAt ["r"] = .ok component ∧ component.field "z" = .ok (ofString "w") ∧
      value.Agrees ∧ component.Agrees := by
  have nested : (initial (.record [("z", .string)])).Mirrors :=
    (fits_initial (.record [("z", .string)]) ⟨by decide, rfl, trivial⟩).mirrors
  have inner : ∀ field ∈ [("a", ofInteger 1), ("r", initial (.record [("z", .string)]))],
      field.2.Mirrors :=
    List.forall_mem_cons.mpr ⟨.number rfl, List.forall_mem_singleton.mpr nested⟩
  have lower : LowerNames [("a", ofInteger 1), ("r", initial (.record [("z", .string)]))] :=
    List.forall_mem_cons.mpr ⟨rfl, List.forall_mem_singleton.mpr rfl⟩
  obtain ⟨value, made⟩ : ∃ value,
      ofFields [("a", ofInteger 1), ("r", initial (.record [("z", .string)]))] = .ok value :=
    ⟨_, rfl⟩
  obtain ⟨later, component, done, found, written⟩ : ∃ later component,
      onPath (setField "z" (ofCharacters "w") false) ["r"] value = (.ok (), later) ∧
      later.fieldAt ["r"] = .ok component ∧ component.field "z" = .ok (ofString "w") := by
    obtain rfl := Except.ok.inj made
    exact ⟨_, _, rfl, rfl, rfl⟩
  obtain ⟨_, _, _, kept⟩ := ofFields_agrees made
  have source : (ofCharacters "w").Mirrors := (wellTyped_ofCharacters "w").fits.mirrors
  exact ⟨value, later, component, made, done, found, written,
    kept lower inner value .start [] value rfl,
    kept lower inner later (.set .start source done) ["r"] component found⟩

/-- The field of a record made of a value under the name `A` is `A` for reading and `a` in the
type: the type's field cannot be read, and the field that is read cannot be written. -/
theorem ofFields_upper_case :
    ∃ value, ofFields [("A", ofInteger 1)] = .ok value ∧
      value.ty.field? "a" = some .integer ∧
      value.field "a" = .error (.unknownField "a" value.ty) ∧
      value.field "A" = .ok (ofInteger 1) ∧ value.ty.field? "A" = none ∧
      setField "A" (ofInteger 1) true value =
        (.error (.value (.unknownField "A" value.ty)), value) ∧
      ¬ value.Agrees := by
  refine ⟨_, rfl, rfl, rfl, rfl, rfl, rfl, fun agrees => ?_⟩
  have names := agrees.names
  revert names
  decide

end Named

end ReportLang.Value
