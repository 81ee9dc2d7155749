import ReportLang.Environment

/-!
# References

What can be assigned to: a variable, or a field inside a record variable.
-/

namespace ReportLang

/-- A variable, or a field reached through the records on a path. -/
inductive Reference where
  /-- A variable. -/
  | whole (name : String)
  /-- A field of the record that is reached from a variable through the fields on a path. -/
  | part (name : String) (path : List String) (field : String)
deriving DecidableEq

namespace Reference

/-- The reference to a variable, or to a field of it if there are names after the first. -/
def ofNames (name : String) (fields : List String) : Reference :=
  match fields.getLast? with
  | none => .whole name
  | some field => .part name fields.dropLast field

/-- The value that is referred to. -/
def get (environment : Environment) : Reference → Except RunError Value
  | .whole name => do return (← environment.get name).value
  | .part name path field => do
    let held ← environment.get name
    (held.value.fieldAt (path ++ [field])).mapError .value

/-- Stores a value, converted to the type of what is referred to. Whole records are not stored. -/
def set (value : Value) : Reference → Update Environment Unit
  | .whole name => Environment.onVariable name (Variable.assign value)
  | .part name path field =>
    Environment.onVariable name
      (Variable.onValue (Value.onPath (Value.setField field value false) path))

/-- Stores the initial value of the type of what is referred to. -/
def clear : Reference → Update Environment Unit
  | .whole name => Environment.onVariable name Variable.clear
  | .part name path field =>
    Environment.onVariable name (Variable.onValue (Value.onPath (Value.clearField field) path))

end Reference

end ReportLang
