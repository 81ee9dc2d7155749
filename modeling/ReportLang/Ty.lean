import ReportLang.Diagnostic
import ReportLang.Text.Case

/-!
# Types

Elementary types with their length rules, and record types with named fields in order. Texts of
variable length have no length of their own; a date has always eight characters and a time six.
-/

namespace ReportLang

/-- The elementary types. -/
inductive Base where
  /-- Text of a fixed length. -/
  | character
  /-- Whole numbers of a fixed number of digits. -/
  | numericText
  /-- Dates, year first. -/
  | date
  /-- Times of the day, hour first. -/
  | time
  /-- Bytes in hexadecimal. -/
  | hex
  /-- Whole numbers of the 64-bit range. -/
  | integer
  /-- Packed decimals. -/
  | packed
  /-- Floating-point numbers. -/
  | float
  /-- Text of any length. -/
  | string
  /-- Bytes of any number. -/
  | hexString
deriving DecidableEq

namespace Base

/-- The name of a type as written in a program. -/
def name : Base → String
  | .character => "c"
  | .numericText => "n"
  | .date => "d"
  | .time => "t"
  | .hex => "x"
  | .integer => "i"
  | .packed => "p"
  | .float => "f"
  | .string => "string"
  | .hexString => "xstring"

/-- Every elementary type. -/
def all : List Base :=
  [.character, .numericText, .date, .time, .hex, .integer, .packed, .float, .string, .hexString]

/-- The elementary type of a name, in either case. -/
def ofName? (name : String) : Option Base :=
  all.find? fun base => base.name = Text.lower name

/-- Whether a type has to have a length that is chosen freely. -/
def hasChosenLength : Base → Bool
  | .hex | .character | .numericText | .packed => true
  | _ => false

/-- The length of a type if none is written. -/
def defaultLength? : Base → Option Nat
  | .character | .numericText => some 1
  | _ => none

/-- The only length a type can have. -/
def forcedLength? : Base → Option Nat
  | .date => some 8
  | .time => some 6
  | _ => none

/-- Whether values of a type are numbers. -/
def isNumeric : Base → Bool
  | .numericText | .integer | .float | .packed => true
  | _ => false

/-- Whether values of a type are texts that compare with each other. -/
def isTextual : Base → Bool
  | .character | .date | .time | .string | .hexString => true
  | _ => false

end Base

/-- What a type is, apart from its length and its fields. -/
inductive Shape where
  /-- An elementary type. -/
  | elementary (base : Base)
  /-- A record type. -/
  | record
deriving DecidableEq

/-- The name of a shape in a message. -/
def Shape.name : Shape → String
  | .elementary base => base.name
  | .record => "struct"

/-- The types of values. -/
inductive Ty where
  /-- An elementary type, with a length if its base has one. -/
  | elementary (base : Base) (length : Option Nat)
  /-- A record with its fields in order. -/
  | record (fields : List (String × Ty))

namespace Ty

mutual

/-- Equality of types is decidable. -/
def decideEq : (left right : Ty) → Decidable (left = right)
  | .elementary base length, .elementary base' length' =>
    if same : base = base' ∧ length = length' then isTrue (by rw [same.1, same.2])
    else isFalse (by simpa using same)
  | .record fields, .record fields' =>
    match decideEqFields fields fields' with
    | isTrue same => isTrue (by rw [same])
    | isFalse differ => isFalse (by simpa using differ)
  | .elementary .., .record _ => isFalse (by simp)
  | .record _, .elementary .. => isFalse (by simp)

/-- Equality of fields is decidable. -/
def decideEqFields : (left right : List (String × Ty)) → Decidable (left = right)
  | [], [] => isTrue rfl
  | [], _ :: _ => isFalse (by simp)
  | _ :: _, [] => isFalse (by simp)
  | (name, ty) :: rest, (name', ty') :: rest' =>
    if sameName : name = name' then
      match decideEq ty ty', decideEqFields rest rest' with
      | isTrue sameTy, isTrue sameRest => isTrue (by rw [sameName, sameTy, sameRest])
      | isFalse differ, _ => isFalse (by simp [differ])
      | _, isFalse differ => isFalse (by simp [differ])
    else
      isFalse (by simp [sameName])

end

/-- Types can be compared. -/
instance : DecidableEq Ty := decideEq

/-- The shape of a type. -/
def shape : Ty → Shape
  | .elementary base _ => .elementary base
  | .record _ => .record

/-- The length of a type that has one. -/
def length? : Ty → Option Nat
  | .elementary _ length => length
  | .record _ => none

/-- The fields of a record type. -/
def fields : Ty → List (String × Ty)
  | .elementary .. => []
  | .record fields => fields

/-- Whether a type is a record. -/
def isRecord : Ty → Bool
  | .elementary .. => false
  | .record _ => true

/-- Whether values of a type are numbers. -/
def isNumeric : Ty → Bool
  | .elementary base _ => base.isNumeric
  | .record _ => false

/-- Whether values of a type are texts that compare with each other. -/
def isTextual : Ty → Bool
  | .elementary base _ => base.isTextual
  | .record _ => false

/-- The type of the field of a name. -/
def field? (ty : Ty) (name : String) : Option Ty :=
  ty.fields.lookup name

mutual

/-- A type in a message: the name of an elementary type, or the fields of a record. -/
def text : Ty → String
  | .elementary base _ => base.name
  | .record fields => "BEGIN " ++ fieldsText fields ++ "END"

/-- Fields in a message. -/
def fieldsText : List (String × Ty) → String
  | [] => ""
  | (name, ty) :: rest => name ++ " TYPE " ++ ty.text ++ ", " ++ fieldsText rest

end

end Ty

/-- Why there is no such type. -/
inductive TyError where
  /-- The type has another length than the one given. -/
  | otherLength (base : Base) (length given : Nat)
  /-- A type lacks the length it has to have. -/
  | needsLength (base : Base)
  /-- A type has no length, but one is given. -/
  | forbidsLength (shape : Shape)
  /-- A length is zero. -/
  | zeroLength (base : Base)
  /-- A field is added to a type that is no record. -/
  | notARecord (field : String) (ty : Ty)
  /-- A record would have two fields of one name. -/
  | duplicateField (field : String)

/-- What is told about the failure. -/
def TyError.diagnostic : TyError → Diagnostic
  | .otherLength base length given =>
    { kind := .invalidType
      message := "type " ++ base.name ++ " has length " ++ toString length ++ ", not " ++
        toString given }
  | .needsLength base =>
    { kind := .invalidType, message := "type " ++ base.name ++ " needs a length" }
  | .forbidsLength shape =>
    { kind := .invalidType, message := "type " ++ shape.name ++ " cannot have a length" }
  | .zeroLength base =>
    { kind := .invalidType, message := "type " ++ base.name ++ " cannot have length 0" }
  | .notARecord field ty =>
    { kind := .invalidType
      message := "cannot add field '" ++ field ++ "' to type " ++ ty.text }
  | .duplicateField field =>
    { kind := .duplicateField, message := "field '" ++ field ++ "' is already declared" }

namespace Ty

/-- The integer type. -/
def integer : Ty := .elementary .integer none

/-- The floating-point type. -/
def float : Ty := .elementary .float none

/-- Texts of any length. -/
def string : Ty := .elementary .string none

/-- Texts of a fixed length, which is at least one. -/
def character (length : Nat) : Ty := .elementary .character (some (max length 1))

/-- The type of dates. -/
def date : Ty := .elementary .date (some 8)

/-- The type of times of the day. -/
def time : Ty := .elementary .time (some 6)

/-- The record type without fields. -/
def emptyRecord : Ty := .record []

/-- The elementary type of a base and a length, if the base admits the length. -/
def ofBase (base : Base) (length : Option Nat) : Except TyError Ty :=
  match base.forcedLength?, length with
  | some forced, none => .ok (.elementary base (some forced))
  | some forced, some given =>
    if given = forced then .ok (.elementary base (some forced))
    else .error (.otherLength base forced given)
  | none, length =>
    match length.or base.defaultLength?, base.hasChosenLength with
    | none, true => .error (.needsLength base)
    | some _, false => .error (.forbidsLength (.elementary base))
    | some 0, true => .error (.zeroLength base)
    | length, _ => .ok (.elementary base length)

/-- The type of a shape and a length, a record without fields, if the shape admits the length. -/
def ofShape (shape : Shape) (length : Option Nat) : Except TyError Ty :=
  match shape, length with
  | .elementary base, length => ofBase base length
  | .record, none => .ok emptyRecord
  | .record, some _ => .error (.forbidsLength .record)

/-- Adds a field to a record type, under its name in lower case. -/
def addField (ty : Ty) (name : String) (fieldTy : Ty) : Except TyError Ty :=
  let name := Text.lower name
  match ty with
  | .elementary .. => .error (.notARecord name ty)
  | .record fields =>
    if (ty.field? name).isSome then .error (.duplicateField name)
    else .ok (.record (fields ++ [(name, fieldTy)]))

end Ty

end ReportLang
