import ReportLang.Value

/-!
# Failures of values

Why an operation on values fails.
-/

namespace ReportLang

/-- Why an operation on values fails. -/
inductive ValueError where
  /-- There is no such type. -/
  | invalidTy (error : TyError)
  /-- A record would be stored where only elementary values are. -/
  | recordNotAllowed (value : Value) (target : Ty)
  /-- A value of one type would be stored as a record of another. -/
  | otherRecord (source target : Ty)
  /-- A value is longer than a type admits. -/
  | tooLong (value : Value) (target : Ty) (limit : Nat)
  /-- Values of one type cannot be stored under another. -/
  | inconvertible (value : Value) (target : Ty)
  /-- A floating-point number has no integer near it in range. -/
  | notWhole (x : Float) (target : Ty)
  /-- The operation is not defined for values of these types. -/
  | incompatible (operation : String) (left right : Value)
  /-- A number is divided by zero. -/
  | divisionByZero (dividend : String)
  /-- The result of an operation is out of range. -/
  | overflow (left : String) (symbol : String) (right : String)
  /-- The result of a calculation is longer than the type of its left operand admits. -/
  | resultTooLong (result : Value) (limit : Nat)
  /-- A record type has no field of a name. -/
  | unknownField (name : String) (ty : Ty)
  /-- A field of a value that is no record. -/
  | noFields (name : String) (value : Value)
  /-- A record where a text is needed. -/
  | recordAsText (value : Value)
  /-- A text where a number is needed. -/
  | notANumber (value : Value)

/-- What is told about the failure. -/
def ValueError.diagnostic : ValueError → Diagnostic
  | .invalidTy error => error.diagnostic
  | .recordNotAllowed value target =>
    { kind := .structConversionNotAllowed
      message := "cannot convert " ++ value.display ++ " to " ++ target.text }
  | .otherRecord source target =>
    { kind := .incompatibleTypes
      message := "cannot convert " ++ source.text ++ " to " ++ target.text }
  | .tooLong value target limit =>
    { kind := .lengthOverflow
      message := value.display ++ " has length " ++ toString value.length ++
        ", which does not fit " ++ target.text ++ "(" ++ toString limit ++ ")" }
  | .inconvertible value target =>
    { kind := .incompatibleTypes
      message := "cannot convert " ++ value.display ++ " of type " ++ value.ty.text ++
        " to type " ++ target.text }
  | .notWhole x target =>
    { kind := .arithmetic
      message := Number.plainText x ++ " does not fit type " ++ target.text }
  | .incompatible operation left right =>
    { kind := .incompatibleTypes
      message := "cannot " ++ operation ++ " " ++ left.display ++ " of type " ++ left.ty.text ++
        " and " ++ right.display ++ " of type " ++ right.ty.text }
  | .divisionByZero dividend =>
    { kind := .arithmetic, message := "division of " ++ dividend ++ " by zero" }
  | .overflow left symbol right =>
    { kind := .arithmetic
      message := left ++ " " ++ symbol ++ " " ++ right ++ " overflows" }
  | .resultTooLong result limit =>
    { kind := .lengthOverflow
      message := "result " ++ result.asText ++ " does not fit " ++ result.ty.text ++ "(" ++
        toString limit ++ ")" }
  | .unknownField name ty =>
    { kind := .unknownField, message := "no field '" ++ name ++ "' in " ++ ty.text }
  | .noFields name value =>
    { kind := .incompatibleTypes
      message := "cannot access field '" ++ name ++ "' of " ++ value.display ++ " of type " ++
        value.ty.text }
  | .recordAsText value =>
    { kind := .incompatibleTypes
      message := "cannot use record " ++ value.display ++ " as text" }
  | .notANumber value =>
    { kind := .incompatibleTypes, message := value.display ++ " is not a number" }

end ReportLang
