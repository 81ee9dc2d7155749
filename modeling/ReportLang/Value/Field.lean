import ReportLang.Update
import ReportLang.Value.Convert

/-!
# Fields of records

Reading and changing the fields of a record value. A field is changed where it is, so that a change
that fails leaves in the record what it has made of the field. What is stored in a field is
converted to the type that the record type gives the field.
-/

namespace ReportLang.Value

/-- The value of a field. -/
def field (name : String) (value : Value) : Except ValueError Value :=
  match value with
  | .record ty fields =>
    match fields.lookup name with
    | some held => .ok held
    | none => .error (.unknownField name ty)
  | _ => .error (.noFields name value)

/-- The value at the end of a path of fields. -/
def fieldAt (path : List String) (value : Value) : Except ValueError Value :=
  path.foldlM (fun held name => held.field name) value

/-- Puts a value in place of the first one of a name. -/
def replaceField (name : String) (value : Value) : List (String × Value) → List (String × Value)
  | [] => []
  | (other, held) :: rest =>
    if other = name then (other, value) :: rest
    else (other, held) :: replaceField name value rest

/-- Changes the value of a field where it is. -/
def onField {α : Type} (name : String) (change : Update Value α) : Update Value α := fun value =>
  match value with
  | .record ty fields =>
    match fields.lookup name with
    | some held =>
      let (result, left) := change held
      (result, .record ty (replaceField name left fields))
    | none => (.error (.value (.unknownField name ty)), value)
  | _ => (.error (.value (.noFields name value)), value)

/-- Changes the record at the end of a path of fields where it is. -/
def onPath {α : Type} (change : Update Value α) : List String → Update Value α
  | [] => change
  | name :: path => onField name (onPath change path)

/-- Stores a value in a field. -/
def setField (name : String) (stored : Value) (allowRecords : Bool) : Update Value Unit := do
  let container ← get
  match container.ty.field? name with
  | none => throw (.value (.unknownField name container.ty))
  | some ty =>
    let converted ← (stored.convert ty allowRecords).mapError RunError.value
    onField name (set converted)

/-- Stores the initial value of its type in a field. -/
def clearField (name : String) : Update Value Unit := do
  let container ← get
  let held ← (container.field name).mapError RunError.value
  let initial ← (makeInitial held.ty).mapError RunError.crash
  setField name initial true

end ReportLang.Value
