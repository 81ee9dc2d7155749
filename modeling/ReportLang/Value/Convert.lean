import ReportLang.Value.Error

/-!
# Conversion

Storing a value under another type. Numbers convert to numbers and texts to texts, any other value
only to its own kind, and never to a type that is too short. A record is only ever stored under its
own type, and only where records are allowed.
-/

namespace ReportLang.Value

/-- The same payload under another type of its family. A floating-point number that becomes a whole
one is rounded; it fails if the result is out of range. -/
def retag (target : Ty) (value : Value) : Except ValueError Value :=
  match value, target with
  | .number _ n, .elementary .float _ => .ok (.float target (Float.ofInt n))
  | .number _ n, _ => .ok (.number target n)
  | .float _ x, .elementary base _ =>
    if base ≠ .float ∧ base.isNumeric then
      match (Number.nearest? x).filter Text.inIntegerRange with
      | some n => .ok (.number target n)
      | none => .error (.notWhole x target)
    else
      .ok (.float target x)
  | .float _ x, .record _ => .ok (.float target x)
  | .text _ s, _ => .ok (.text target s)
  | .record _ fields, _ => .ok (.record target fields)

/-- Whether values of one type can be stored under another, lengths apart. -/
def sameFamily (source target : Ty) : Bool :=
  (target.isNumeric && source.isNumeric) || (target.isTextual && source.isTextual) ||
    target.shape = source.shape

/-- Converts a value to a type; a record only if records are allowed. -/
def convert (target : Ty) (allowRecords : Bool) (value : Value) : Except ValueError Value :=
  match target with
  | .record _ =>
    if !allowRecords then .error (.recordNotAllowed value target)
    else if value.ty ≠ target then .error (.otherRecord value.ty target)
    else .ok value
  | .elementary _ length =>
    match length.filter (· < value.length) with
    | some limit => .error (.tooLong value target limit)
    | none =>
      if sameFamily value.ty target then retag target value
      else .error (.inconvertible value target)

end ReportLang.Value
