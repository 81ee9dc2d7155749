import ReportLang.Value.Arithmetic

/-!
# Comparison

Numbers compare by their size and texts character by character. Records are equal if their fields
are, and have no order.
-/

namespace ReportLang.Value

/-- The order of two floating-point numbers, if they have one. -/
def compareFloats? (x y : Float) : Option Ordering :=
  if x < y then some .lt
  else if x == y then some .eq
  else if y < x then some .gt
  else none

/-- The order of two texts, character by character. -/
def compareTexts (s t : String) : Ordering :=
  if s < t then .lt else if s = t then .eq else .gt

/-- Whether texts of two types compare with each other. -/
def comparableTexts (left right : Ty) : Bool :=
  (left.isTextual && right.isTextual) || (!left.isRecord && left.shape = right.shape)

/-- The order of two values, if their types admit one. -/
def compare? (left right : Value) : Option Ordering :=
  if left.isNumeric && right.isNumeric then
    match left, right with
    | .number _ a, .number _ b => some (Ord.compare a b)
    | _, _ => do compareFloats? (← left.toFloat?) (← right.toFloat?)
  else
    match left, right with
    | .text _ s, .text _ t =>
      if comparableTexts left.ty right.ty then some (compareTexts s t) else none
    | _, _ => none

/-- The order of two values. -/
def compare (left right : Value) : Except ValueError Ordering :=
  match compare? left right with
  | some order => .ok order
  | none => .error (.incompatible "compare" left right)

mutual

/-- Whether two values are equal; records are compared field by field. -/
def equals : Value → Value → Except ValueError Bool
  | .record _ fields, .record _ fields' =>
    if fields.length ≠ fields'.length then .ok false else equalFields fields fields'
  | left, right => (compare left right).map (· == .eq)

/-- Whether fields have the same names and equal values; the first difference decides. -/
def equalFields : List (String × Value) → List (String × Value) → Except ValueError Bool
  | (name, value) :: rest, (name', value') :: rest' =>
    if name ≠ name' then .ok false
    else
      match equals value value' with
      | .ok true => equalFields rest rest'
      | other => other
  | _, _ => .ok true

end

end ReportLang.Value
