import ReportLang.Proofs.Value.Change

/-!
# Conversion of values

A conversion puts the payload of a value under another type. As long as no floating-point number is
involved, the payload itself never changes, however many conversions follow each other, and whether
a conversion fails is decided by the types and the length of the value. A floating-point number that
is to become a whole one may also have none next to it that is in range.
-/

namespace ReportLang

namespace Value

variable {value stored result : Value} {ty target : Ty} {allowRecords : Bool}

/-- The payload of a value under another type. -/
def withTy (ty : Ty) : Value → Value
  | .number _ n => .number ty n
  | .float _ x => .float ty x
  | .text _ s => .text ty s
  | .record _ fields => .record ty fields

/-- The payload has the type under which it is put. -/
@[simp] theorem ty_withTy (ty : Ty) (value : Value) : (value.withTy ty).ty = ty := by
  cases value <;> rfl

/-- Of two types one after the other, the later one counts. -/
@[simp] theorem withTy_withTy (ty target : Ty) (value : Value) :
    (value.withTy ty).withTy target = value.withTy target := by
  cases value <;> rfl

/-- A value is its payload under its own type. -/
@[simp] theorem withTy_ty (value : Value) : value.withTy value.ty = value := by
  cases value <;> rfl

/-- The type does not matter for what numbers the payload holds. -/
theorem FloatFree.withTy (free : value.FloatFree) (ty : Ty) : (value.withTy ty).FloatFree := by
  cases value with
  | number => exact trivial
  | float => exact absurd free id
  | text => exact trivial
  | record => exact free

section Payload

/-- Where no floating-point number is involved, the payload is put under the other type. -/
theorem FloatFree.retag_eq (free : value.FloatFree) (whole : target.shape ≠ .elementary .float) :
    value.retag target = .ok (value.withTy target) := by
  cases value with
  | number ty n =>
    cases target with
    | elementary base length =>
      have other : base ≠ .float := by
        rintro rfl
        exact whole rfl
      exact retag_number other length ty n
    | record fields => rfl
  | float => exact absurd free id
  | text => rfl
  | record => rfl

/-- A conversion in which no floating-point number is involved yields the payload under the other
type. -/
theorem FloatFree.eq_withTy (free : value.FloatFree) (whole : target.shape ≠ .elementary .float)
    (converted : value.convert target allowRecords = .ok stored) :
    stored = value.withTy target := by
  cases target with
  | record fields =>
    simp only [convert] at converted
    split at converted
    · cases converted
    · split at converted
      · cases converted
      · rename_i same
        obtain rfl := Except.ok.inj converted
        rw [← Decidable.not_not.mp same, withTy_ty]
  | elementary base length =>
    simp only [convert] at converted
    split at converted
    · cases converted
    · split at converted
      · rw [free.retag_eq whole] at converted
        exact (Except.ok.inj converted).symm
      · cases converted

/-- After a chain of conversions the payload is what it was, under the last of the types. -/
theorem FloatFree.foldlM_convert {types : List Ty} (free : value.FloatFree)
    (whole : ∀ ty ∈ types, ty.shape ≠ .elementary .float)
    (converted : types.foldlM (fun held ty => held.convert ty allowRecords) value = .ok result) :
    result = value.withTy (types.getLast?.getD value.ty) := by
  induction types generalizing value with
  | nil =>
    obtain rfl : value = result := Except.ok.inj converted
    exact (withTy_ty value).symm
  | cons ty rest ih =>
    rw [List.foldlM_cons] at converted
    obtain ⟨held, first, later⟩ := Result.bind_eq_ok.mp converted
    obtain rfl := free.eq_withTy (whole ty List.mem_cons_self) first
    have others (other : Ty) (member : other ∈ rest) : other.shape ≠ .elementary .float :=
      whole other (List.mem_cons_of_mem ty member)
    have last := ih (free.withTy ty) others later
    rw [last, withTy_withTy, ty_withTy, List.getLast?_cons, Option.getD_some]

/-- An elementary value is stored under its own type as it is, whether or not records are
allowed. -/
theorem convert_own_of_elementary (wellTyped : value.WellTyped)
    (elementary : value.isRecord = false) (allowRecords : Bool) :
    value.convert value.ty allowRecords = .ok value := by
  have allowed := convert_of_fits wellTyped.fits
  unfold isRecord at elementary
  cases typed : value.ty with
  | elementary base length =>
    rw [typed] at allowed
    exact allowed
  | record fields =>
    rw [typed] at elementary
    cases elementary

end Payload

section Failure

/-- Whether a floating-point number has no whole number of the range next to it, where a type asks
for one. -/
def IsOutOfRange (base : Base) : Value → Prop
  | .float _ x =>
    base ≠ .float ∧ base.isNumeric = true ∧
      (Number.nearest? x).filter Text.inIntegerRange = none
  | _ => False

/-- Without floating-point numbers nothing is out of range. -/
theorem FloatFree.not_isOutOfRange (free : value.FloatFree) (base : Base) :
    ¬ value.IsOutOfRange base := by
  cases value with
  | number => exact id
  | float => exact absurd free id
  | text => exact id
  | record => exact id

/-- A payload cannot be put under an elementary type exactly if it is out of range. -/
theorem exists_retag_error_iff {base : Base} (length : Option Nat) :
    (∃ failure, value.retag (.elementary base length) = .error failure) ↔
      value.IsOutOfRange base := by
  cases value with
  | number ty n => cases base <;> simp [retag, IsOutOfRange]
  | float ty x =>
    simp only [retag, IsOutOfRange]
    split
    · rename_i asks
      cases (Number.nearest? x).filter Text.inIntegerRange with
      | none => simp [asks]
      | some n => simp
    · rename_i other
      constructor
      · rintro ⟨failure, failed⟩
        cases failed
      · rintro ⟨whole, numeric, _⟩
        exact absurd ⟨whole, numeric⟩ other
  | text => simp [retag, IsOutOfRange]
  | record => simp [retag, IsOutOfRange]

/-- A conversion to a record type fails exactly if records are not allowed or the value has another
type. -/
theorem exists_convert_record_error_iff {fields : List (String × Ty)} :
    (∃ failure, value.convert (.record fields) allowRecords = .error failure) ↔
      allowRecords = false ∨ value.ty ≠ .record fields := by
  cases allowRecords with
  | false => simp [convert]
  | true =>
    by_cases same : value.ty = .record fields
    · simp [convert, same]
    · simp [convert, same]

/-- Whether values of a type and values of an elementary type are of one kind: both numbers, both
texts, or of the same type apart from the length. -/
def SameKind (base : Base) (source : Ty) : Prop :=
  (base.isNumeric = true ∧ source.isNumeric = true) ∨
    (base.isTextual = true ∧ source.isTextual = true) ∨ source.shape = .elementary base

/-- Values are stored under types of their kind. -/
theorem sameFamily_elementary_iff {source : Ty} {base : Base} (length : Option Nat) :
    sameFamily source (.elementary base length) = true ↔ SameKind base source := by
  rw [sameFamily, SameKind, Bool.or_eq_true, Bool.or_eq_true, Bool.and_eq_true, Bool.and_eq_true,
    decide_eq_true_eq, or_assoc, @eq_comm _ source.shape]
  rfl

/-- A conversion to an elementary type fails exactly if the value is longer than the type admits, it
is of another kind, or it is out of range. -/
theorem exists_convert_elementary_error_iff {base : Base} {length : Option Nat} :
    (∃ failure, value.convert (.elementary base length) allowRecords = .error failure) ↔
      (∃ limit, length = some limit ∧ limit < value.length) ∨ ¬ SameKind base value.ty ∨
        value.IsOutOfRange base := by
  rw [← sameFamily_elementary_iff length, ← exists_retag_error_iff length]
  cases shorter : length.filter (· < value.length) with
  | some limit =>
    obtain ⟨given, short⟩ := Option.filter_eq_some_iff.mp shorter
    have tooLong : ∃ limit, length = some limit ∧ limit < value.length :=
      ⟨limit, given, of_decide_eq_true short⟩
    simp [convert, shorter, tooLong]
  | none =>
    have longEnough : ¬ ∃ limit, length = some limit ∧ limit < value.length := by
      rintro ⟨limit, given, short⟩
      exact absurd short (by simpa [given] using shorter)
    cases family : sameFamily value.ty (.elementary base length) with
    | true => simp [convert, shorter, longEnough, family]
    | false => simp [convert, shorter, family]

end Failure

end Value

end ReportLang
