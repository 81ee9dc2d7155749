import ReportLang.Instruction
import ReportLang.Session.Action

/-!
# Declarations

Variables, constants and named types. A type is the name of an elementary or a declared type, the
type of another value, or else text of a fixed length. A length is written after the type or in
parentheses after the name. A record is declared by the declarations of its fields.
-/

namespace ReportLang

/-- What a declaration declares. -/
inductive Declared where
  /-- A variable that can change. -/
  | plain
  /-- A variable that cannot change. -/
  | constant
  /-- A named type. -/
  | type
deriving DecidableEq

/-- What the declarations of a keyword declare. -/
def Declared.ofKeyword? (keyword : String) : Option Declared :=
  match keyword with
  | "data" => some .plain
  | "constants" => some .constant
  | "types" => some .type
  | _ => none

namespace Session

/-- The length that a text spells. -/
def lengthOf (text : String) : Except RunError Nat :=
  match Text.natural? (Text.trim text) with
  | some length => .ok length
  | none => .error (.invalidLength text)

/-- The name of a declaration and the length in parentheses after it. -/
def nameAndLength (declared : String) : Except RunError (String × Option Nat) :=
  match Text.splitFirst? '(' declared.toList with
  | some (name, length) => do
    return (String.ofList name, some (← lengthOf (String.ofList (Text.dropEnd ')' length))))
  | none => return (declared, none)

/-- An elementary type, with a length if one is written. -/
def elementaryType (base : Base) (length : Option Nat) : Except RunError Ty :=
  (Ty.ofBase base length).mapError fun error => .value (.invalidTy error)

/-- The type of a name, with a length if one is written. -/
def typeNamed (session : Session) (name : Lexeme) (length : Option Nat) : Except RunError Ty :=
  match Base.ofName? name with
  | some base => elementaryType base length
  | none =>
    match session.environment.findType? name with
    | none => .error (.unknownType name)
    | some ty => if length.isSome then .error (.lengthOfNamedType name) else .ok ty

/-- The length of a declaration: the one after the type, or else the one after the name. -/
def declaredLength (captures : Captures) (suffix : Option Nat) : Except RunError (Option Nat) :=
  match captures.single? "length" with
  | some lexeme => (lengthOf lexeme.content).map some
  | none => .ok suffix

/-- The type of a declaration: a named one, the type of another value, or text of a fixed length. -/
def declaredType (host : Host) (session : Session) (captures : Captures) (length : Option Nat) :
    Reading Ty :=
  match captures.single? "type", captures.single? "like" with
  | some name, _ => liftM (session.typeNamed name length)
  | none, some like => Value.ty <$> session.operand host like
  | none, none => liftM (elementaryType .character length)

/-- The name and the type of a declaration. -/
def declaration (host : Host) (session : Session) (captures : Captures) :
    Reading (String × Ty) := do
  let (name, suffix) ← nameAndLength (Text.lower (← captures.required "name"))
  let length ← declaredLength captures suffix
  return (name, ← session.declaredType host captures length)

/-- The value after `VALUE`, if there is one. -/
def declaredValue (host : Host) (session : Session) (captures : Captures) :
    Reading (Option Value) :=
  match captures.single? "value" with
  | some lexeme => some <$> session.operand host lexeme
  | none => return none

/-- Adds a variable or constant to the environment. -/
def defineVariable (declared : Declared) (name : String) (ty : Ty) (value : Option Value) :
    Action Unit := do
  let held ← Variable.declare name ty value (declared = .constant)
  Action.onEnvironment (Environment.define held)

/-- Declares a variable, a constant or a type. -/
def declare (host : Host) (declared : Declared) (captures : Captures) : Action Unit := do
  let (name, ty) ← Action.read (·.declaration host captures)
  if declared = .type then
    Action.onEnvironment (Environment.defineType name ty)
  else
    let value ← Action.read (·.declaredValue host captures)
    defineVariable declared name ty value

/-- The name of a record declaration, in lower case. -/
def recordName (captures : Captures) : Except RunError String :=
  (captures.required "struc").map Text.lower

/-- The name and the value of a field that a command declares. -/
def fieldOf (host : Host) (session : Session) (captures : Captures) : Reading (String × Value) := do
  let (name, ty) ← session.declaration host captures
  let value ← session.declaredValue host captures
  return (name, ← Variable.startValue ty value)

/-- A record of named values. -/
def recordOf (fields : List (String × Value)) : Except RunError Value :=
  (Value.ofFields fields).mapError fun error => .value (.invalidTy error)

mutual

/-- The name and the value of a field of a record declaration. -/
def fieldValue (host : Host) (session : Session) : Instruction → Reading (String × Value)
  | .simple command =>
    if (Declared.ofKeyword? command.keyword).isSome then session.fieldOf host command.captures
    else throw (.notAField command.keyword)
  | .block opener body =>
    if (Declared.ofKeyword? opener.keyword).isSome then do
      let name ← recordName opener.captures
      let fields ← fieldValues host session body
      return (name, ← recordOf fields)
    else
      throw (.notAField opener.keyword)
  | .choice branches => throw (.notAField (Instruction.choice branches).keyword)

/-- The names and the values of the fields of a record declaration. -/
def fieldValues (host : Host) (session : Session) :
    List Instruction → Reading (List (String × Value))
  | [] => return []
  | instruction :: rest => do
    let field ← fieldValue host session instruction
    return field :: (← fieldValues host session rest)

end

/-- The value of a record declaration. -/
def recordValue (host : Host) (session : Session) (body : List Instruction) : Reading Value := do
  recordOf (← session.fieldValues host body)

/-- Declares a record variable, constant or type. -/
def declareRecord (host : Host) (opener : Command) (body : List Instruction) : Action Unit := do
  let name ← recordName opener.captures
  let value ← Action.read (·.recordValue host body)
  let declared := (Declared.ofKeyword? opener.keyword).getD .plain
  if declared = .type then
    Action.onEnvironment (Environment.defineType name value.ty)
  else
    defineVariable declared name value.ty (some value)

end Session

end ReportLang
