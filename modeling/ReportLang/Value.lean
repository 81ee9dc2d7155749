import ReportLang.Crash
import ReportLang.Json
import ReportLang.Number.Layout
import ReportLang.Text.Layout
import ReportLang.Text.Numeral
import ReportLang.Ty

/-!
# Values

A value is a payload under a type: a whole number, a floating-point number, a text, or the values of
the fields of a record in order.
-/

namespace ReportLang

/-- A payload under a type. -/
inductive Value where
  /-- A whole number. -/
  | number (ty : Ty) (n : Int)
  /-- A floating-point number. -/
  | float (ty : Ty) (x : Float)
  /-- A text, a date, a time or bytes. -/
  | text (ty : Ty) (s : String)
  /-- The values of the fields, in order. -/
  | record (ty : Ty) (fields : List (String × Value))

namespace Value

/-- The type of a value. -/
def ty : Value → Ty
  | .number ty _ => ty
  | .float ty _ => ty
  | .text ty _ => ty
  | .record ty _ => ty

/-- Whether a value is a number by its type. -/
def isNumeric (value : Value) : Bool := value.ty.isNumeric

/-- Whether a value is a text by its type. -/
def isTextual (value : Value) : Bool := value.ty.isTextual

/-- Whether a value is a record by its type. -/
def isRecord (value : Value) : Bool := value.ty.isRecord

/-- A number of the integer type. -/
def ofInteger (n : Int) : Value := .number .integer n

/-- A number of the floating-point type. -/
def ofFloat (x : Float) : Value := .float .float x

/-- A text whose type has exactly its length, or length one if it is empty. -/
def ofCharacters (s : String) : Value := .text (.character s.length) s

/-- A text of the type without length. -/
def ofString (s : String) : Value := .text .string s

/-- A date. -/
def ofDate (s : String) : Value := .text .date s

/-- A time of the day. -/
def ofTime (s : String) : Value := .text .time s

/-- Adds a field to a record type for each value. -/
def recordTy (fields : List (String × Value)) : Except TyError Ty :=
  fields.foldlM (fun ty field => ty.addField field.1 field.2.ty) Ty.emptyRecord

/-- A record of named values, whose type follows from them. -/
def ofFields (fields : List (String × Value)) : Except TyError Value :=
  (recordTy fields).map fun ty => .record ty fields

/-- The payload of an elementary type that counts as initial: zero, an empty text, or zeros in every
place. -/
def initialOfBase (base : Base) (length : Option Nat) : Value :=
  let ty := Ty.elementary base length
  match base with
  | .integer | .numericText | .packed => .number ty 0
  | .float => .float ty 0.0
  | .character | .string | .hexString => .text ty ""
  | .date => .text ty "00000000"
  | .time => .text ty "000000"
  | .hex => .text ty (String.ofList (List.replicate (2 * length.getD 1) '0'))

mutual

/-- The initial value of a type. -/
def initial : Ty → Value
  | .elementary base length => initialOfBase base length
  | .record fields => .record (.record fields) (initialFields fields)

/-- The initial values of fields. -/
def initialFields : List (String × Ty) → List (String × Value)
  | [] => []
  | (name, ty) :: rest => (name, initial ty) :: initialFields rest

end

/-- The most bytes that a text can take. -/
def maxTextSize : Nat := 9223372036854775807

mutual

/-- Whether the initial value of a type has no text that is too large: zeros for hexadecimal bytes
take two bytes each. -/
def canBeInitial : Ty → Bool
  | .elementary .hex length => 2 * length.getD 1 ≤ maxTextSize
  | .elementary _ _ => true
  | .record fields => canAllBeInitial fields

/-- Whether the initial values of fields have no text that is too large. -/
def canAllBeInitial : List (String × Ty) → Bool
  | [] => true
  | (_, ty) :: rest => canBeInitial ty && canAllBeInitial rest

end

/-- Makes the initial value of a type. -/
def makeInitial (ty : Ty) : Except Crash Value :=
  if canBeInitial ty then .ok (initial ty) else .error .capacityOverflow

mutual

/-- Whether two values have the same type and the same payload. -/
def same : Value → Value → Bool
  | .number ty n, .number ty' n' => ty = ty' && n = n'
  | .float ty x, .float ty' x' => ty = ty' && x == x'
  | .text ty s, .text ty' s' => ty = ty' && s = s'
  | .record ty fields, .record ty' fields' => ty = ty' && sameFields fields fields'
  | _, _ => false

/-- Whether two lists of fields have the same names and values. -/
def sameFields : List (String × Value) → List (String × Value) → Bool
  | [], [] => true
  | (name, value) :: rest, (name', value') :: rest' =>
    name = name' && same value value' && sameFields rest rest'
  | _, _ => false

end

/-- Whether a value is the initial value of its type, which is made for the comparison. -/
def isInitial (value : Value) : Except Crash Bool :=
  (makeInitial value.ty).map (same value)

mutual

/-- The length of the type if it has one, else the length of the payload: the characters of a number
or text, or the lengths of all fields. Lengths are below `2 ^ 64`. -/
def length : Value → Nat
  | .number ty n => ty.length?.getD (toString n).length
  | .float ty x => ty.length?.getD (Number.plainText x).length
  | .text ty s => ty.length?.getD s.length
  | .record ty fields => ty.length?.getD (lengthOfFields fields % Text.naturalBound)

/-- The sum of the lengths of fields. -/
def lengthOfFields : List (String × Value) → Nat
  | [] => 0
  | (_, value) :: rest => value.length + lengthOfFields rest

end

mutual

/-- The payload as a text, without padding. -/
def asText : Value → String
  | .number _ n => toString n
  | .float _ x => Number.plainText x
  | .text _ s => s
  | .record _ fields => String.intercalate " " (textsOfFields fields)

/-- The payloads of fields as texts. -/
def textsOfFields : List (String × Value) → List String
  | [] => []
  | (_, value) :: rest => value.asText :: textsOfFields rest

end

/-- A text between quotes, with the quotes inside it doubled. -/
def quotedText (s : String) : String :=
  "'" ++ String.ofList (s.toList.flatMap fun c => if c = '\x27' then [c, c] else [c]) ++ "'"

mutual

/-- A value in a message or a listing of variables. -/
def display : Value → String
  | .number _ n => toString n
  | .float _ x => Number.plainText x
  | .text _ s => quotedText s
  | .record _ fields => "BEGIN " ++ displayFields fields ++ "END"

/-- Fields in a message or a listing of variables. -/
def displayFields : List (String × Value) → String
  | [] => ""
  | (name, value) :: rest => name ++ " = " ++ value.display ++ ", " ++ displayFields rest

end

mutual

/-- A value as data. -/
def toJson : Value → Json
  | .number _ n => .integer n
  | .float _ x => .float x
  | .text _ s => .text s
  | .record _ fields => Json.ofMap (entriesOfFields fields)

/-- Fields as the entries of an object. -/
def entriesOfFields : List (String × Value) → List (String × Json)
  | [] => []
  | (name, value) :: rest => (name, value.toJson) :: entriesOfFields rest

end

/-- The text that is written to a report. A number of fixed length is filled up with zeros on the
left, unless `noZero` is set. -/
def toText (noZero : Bool) (value : Value) : Except Crash String :=
  match value.ty.length? with
  | some width =>
    if value.isNumeric && !noZero then Text.zeroFilled width value.asText else .ok value.asText
  | none => .ok value.asText

end Value

end ReportLang
