import ReportLang.Proofs.Value.Typing

/-!
# Values that mirror their types

A value mirrors its type if its payload is of the kind the type asks for and each record in it has
exactly the fields of its type, in the same order and with values of their types. Nothing is said
about lengths, so this holds of more values than fit their types. A value that mirrors its type is
stored under that type as it is, and what is stored under another type mirrors that one.
-/

namespace ReportLang.Value

variable {value stored : Value} {ty target : Ty} {name : String}

/-- The names of fields with the types of their values. -/
def fieldTypes (fields : List (String × Value)) : List (String × Ty) :=
  fields.map fun field => (field.1, field.2.ty)

/-- Whether the payload of a value is of the kind that its type asks for, and each record in it has
the fields of its type. -/
inductive Mirrors : Value → Prop where
  /-- A whole number. -/
  | number {base : Base} {length : Option Nat} {n : Int} (kind : base.holdsNumbers = true) :
    Mirrors (.number (.elementary base length) n)
  /-- A floating-point number. -/
  | float {length : Option Nat} {x : Float} : Mirrors (.float (.elementary .float length) x)
  /-- A text. -/
  | text {base : Base} {length : Option Nat} {s : String} (kind : base.holdsTexts = true) :
    Mirrors (.text (.elementary base length) s)
  /-- A record whose type has the names of its fields and the types of their values. -/
  | record {fields : List (String × Value)} (inner : ∀ field ∈ fields, Mirrors field.2) :
    Mirrors (.record (.record (fieldTypes fields)) fields)

section Fitting

mutual

/-- A value that fits a type mirrors it. -/
theorem Fits.mirrors : {ty : Ty} → {value : Value} → value.Fits ty → value.Mirrors
  | _, _, .number kind _ => .number kind
  | _, _, .float => .float
  | _, _, .text kind _ => .text kind
  | _, _, .record inner => by
    obtain ⟨rfl, mirrored⟩ := inner.mirrors
    exact .record mirrored

/-- Fields that fit types have these types and mirror them. -/
theorem FieldsFit.mirrors : {types : List (String × Ty)} → {fields : List (String × Value)} →
    FieldsFit types fields → types = fieldTypes fields ∧ ∀ field ∈ fields, field.2.Mirrors
  | _, _, .nil => ⟨rfl, by simp⟩
  | _, _, .cons first rest => by
    obtain ⟨rfl, mirrored⟩ := rest.mirrors
    obtain rfl := first.ty_eq
    exact ⟨rfl, List.forall_mem_cons.mpr ⟨first.mirrors, mirrored⟩⟩

end

end Fitting

section Stored

/-- A value of an elementary type that takes its own type stays as it is. -/
theorem Mirrors.retag_own {base : Base} {length : Option Nat} (mirrors : value.Mirrors)
    (typed : value.ty = .elementary base length) :
    value.retag (.elementary base length) = .ok value := by
  cases mirrors with
  | number kind =>
    obtain ⟨rfl, rfl⟩ := Ty.elementary.inj typed
    exact retag_number (Base.ne_float_of_holdsNumbers kind) _ _ _
  | float =>
    obtain ⟨rfl, rfl⟩ := Ty.elementary.inj typed
    rfl
  | text =>
    obtain ⟨rfl, rfl⟩ := Ty.elementary.inj typed
    rfl
  | record => cases typed

/-- A value whose type has a length is as long as the type says. -/
theorem length_of_ty {limit : Nat} (typed : value.ty.length? = some limit) :
    value.length = limit := by
  cases value with
  | number ty n => simp_all [length, Value.ty]
  | float ty x => simp_all [length, Value.ty]
  | text ty s => simp_all [length, Value.ty]
  | record ty fields => simp_all [length, Value.ty]

/-- A value that mirrors its type is stored under it as it is. -/
theorem Mirrors.convert_own (mirrors : value.Mirrors) :
    value.convert value.ty true = .ok value := by
  cases typed : value.ty with
  | record fields => simp [convert, typed]
  | elementary base length =>
    have own : sameFamily value.ty (.elementary base length) = true := by
      simp [sameFamily, typed]
    -- A type that has a length gives it to all of its values.
    have short : length.filter (· < value.length) = none := by
      cases length with
      | none => rfl
      | some limit =>
        have counted : value.length = limit := length_of_ty (by rw [typed]; rfl)
        simp [counted]
    simp only [convert, short, own, if_true]
    exact mirrors.retag_own typed

/-- A payload that takes a type of its family is of the kind this type asks for. -/
theorem Mirrors.retag {base : Base} {length : Option Nat} (mirrors : value.Mirrors)
    (family : sameFamily value.ty (.elementary base length) = true)
    (retagged : value.retag (.elementary base length) = .ok stored) :
    stored.Mirrors ∧ stored.ty = .elementary base length := by
  have number (numeric : base.isNumeric = true) (source : value.toFloat?.isSome = true) :
      stored.Mirrors ∧ stored.ty = .elementary base length := by
    obtain ⟨kind, n, rfl⟩ | ⟨rfl, x, rfl⟩ := retag_numeric numeric source retagged
    · exact ⟨.number kind, rfl⟩
    · exact ⟨.float, rfl⟩
  cases mirrors with
  | number kind =>
    exact number ((kind_of_sameFamily family).1 (Base.isNumeric_of_holdsNumbers kind)).1 rfl
  | float => exact number ((kind_of_sameFamily family).1 rfl).1 rfl
  | text kind =>
    obtain rfl : Value.text _ _ = stored := Except.ok.inj retagged
    exact ⟨.text ((kind_of_sameFamily family).2 kind).1, rfl⟩
  | record => simp [sameFamily, Value.ty, Ty.isNumeric, Ty.isTextual, Ty.shape] at family

/-- What is stored under a type mirrors it. -/
theorem Mirrors.convert {allowRecords : Bool} (mirrors : value.Mirrors)
    (converted : value.convert target allowRecords = .ok stored) :
    stored.Mirrors ∧ stored.ty = target := by
  cases target with
  | record fields =>
    simp only [Value.convert] at converted
    split at converted
    · cases converted
    · split at converted
      · cases converted
      · rename_i same
        obtain rfl := Except.ok.inj converted
        exact ⟨mirrors, Decidable.not_not.mp same⟩
  | elementary base length =>
    simp only [Value.convert] at converted
    split at converted
    · cases converted
    · split at converted
      · rename_i family
        exact mirrors.retag family converted
      · cases converted

end Stored

section Fields

/-- A field is found under its name exactly when its type is. -/
theorem lookup_fieldTypes (fields : List (String × Value)) :
    (fieldTypes fields).lookup name = (fields.lookup name).map Value.ty := by
  induction fields with
  | nil => rfl
  | cons field rest ih =>
    obtain ⟨other, value⟩ := field
    show List.lookup name ((other, value.ty) :: fieldTypes rest) = _
    rw [List.lookup_cons, List.lookup_cons]
    cases name == other with
    | true => rfl
    | false => exact ih

/-- The field of a record is what is found under its name. -/
theorem field_record_eq_ok_iff {fields : List (String × Value)} {held : Value} :
    (record ty fields).field name = .ok held ↔ fields.lookup name = some held := by
  simp only [Value.field]
  cases fields.lookup name with
  | none => simp
  | some other => simp

/-- A field of a value that mirrors its type does so too, under the type that the record's type has
for it. -/
theorem Mirrors.field {held : Value} (mirrors : value.Mirrors)
    (found : value.field name = .ok held) :
    held.Mirrors ∧ value.ty.field? name = some held.ty := by
  cases mirrors with
  | @record fields inner =>
    have present := field_record_eq_ok_iff.mp found
    refine ⟨?_, ?_⟩
    · obtain ⟨before, after, rfl, _⟩ := List.lookup_eq_some_iff.mp present
      exact inner (name, held) (by simp)
    · show (fieldTypes fields).lookup name = some held.ty
      rw [lookup_fieldTypes, present]
      rfl
  | number => cases found
  | float => cases found
  | text => cases found

/-- A field of a record that has the type of its fields can be read exactly when the type has it. -/
theorem exists_field_record_iff (fields : List (String × Value)) :
    (∃ held, (record (.record (fieldTypes fields)) fields).field name = .ok held) ↔
      ∃ ty, (Ty.record (fieldTypes fields)).field? name = some ty := by
  have listed : (Ty.record (fieldTypes fields)).field? name =
      (fields.lookup name).map Value.ty := lookup_fieldTypes fields
  simp only [field_record_eq_ok_iff, listed, Option.map_eq_some_iff]
  exact ⟨fun ⟨held, found⟩ => ⟨held.ty, held, found, rfl⟩, fun ⟨_, held, found, _⟩ => ⟨held, found⟩⟩

/-- A field can be read exactly when the type has it. -/
theorem Mirrors.exists_field_iff (mirrors : value.Mirrors) :
    (∃ held, value.field name = .ok held) ↔ ∃ ty, value.ty.field? name = some ty := by
  constructor
  · rintro ⟨held, found⟩
    exact ⟨held.ty, (mirrors.field found).2⟩
  · rintro ⟨ty, listed⟩
    cases mirrors with
    | @record fields => exact (exists_field_record_iff fields).mpr ⟨ty, listed⟩
    | number => cases listed
    | float => cases listed
    | text => cases listed

end Fields

end ReportLang.Value
