import ReportLang.Value.Field

/-!
# Variables and named types

A variable keeps the type it was declared with: whatever is stored in it is converted to that type.
Names count in lower case, and a name is declared once; `sy` is the name of the system record and
cannot be declared. Variables are changed where they are, so that a change that fails leaves in the
environment what it has made of the variable.
-/

namespace ReportLang

/-- A named value. -/
structure Variable where
  /-- The name in lower case. -/
  name : String
  /-- The type it was declared with. -/
  ty : Ty
  /-- The value it holds. -/
  value : Value
  /-- Whether the value can never change. -/
  isConstant : Bool

namespace Variable

/-- The value that a declaration starts with: a given one, converted to the type, or else the
initial value of the type. -/
def startValue (ty : Ty) : Option Value → Except RunError Value
  | some value => (value.convert ty true).mapError .value
  | none => (Value.makeInitial ty).mapError .crash

/-- A variable with the value that its declaration starts with. -/
def declare (name : String) (ty : Ty) (value : Option Value) (isConstant : Bool) :
    Except RunError Variable := do
  return ⟨Text.lower name, ty, ← startValue ty value, isConstant⟩

/-- Fails for a constant. -/
def checkWritable (held : Variable) : Except RunError Unit :=
  if held.isConstant then .error (.constant held.name) else .ok ()

/-- Stores a value, converted to the type of the variable. Whole records are not stored. -/
def assign (value : Value) : Update Variable Unit := do
  let held ← get
  held.checkWritable
  let stored ← (value.convert held.ty false).mapError RunError.value
  set { held with value := stored }

/-- Stores the initial value of the type of the variable. -/
def clear : Update Variable Unit := do
  let held ← get
  held.checkWritable
  let initial ← (Value.makeInitial held.ty).mapError RunError.crash
  set { held with value := initial }

/-- Changes the value of a variable where it is. -/
def onValue {α : Type} (change : Update Value α) : Update Variable α := fun held =>
  match held.checkWritable with
  | .error failure => (.error failure, held)
  | .ok _ =>
    let (result, left) := change held.value
    (result, { held with value := left })

/-- A variable in a listing. -/
def line (held : Variable) : String :=
  let length :=
    match held.ty.length? with
    | some length => "(" ++ toString length ++ ")"
    | none => ""
  held.name ++ length ++ " TYPE " ++ held.ty.text ++ " VALUE " ++ held.value.display

end Variable

/-- The variables, in the order of their declaration, with an index of their names, and the named
types. -/
structure Environment where
  /-- The variables, first declared first. -/
  bindings : List Variable
  /-- The position of each variable among them, by name in lower case. -/
  index : List (String × Nat)
  /-- The named types, by name in lower case. -/
  types : List (String × Ty)

namespace Environment

/-- The name of the system record. -/
def systemName : String := "sy"

/-- No variables and no types. -/
def empty : Environment := ⟨[], [], []⟩

/-- The position of the variable of a name, in either case. -/
def position? (environment : Environment) (name : String) : Option Nat :=
  environment.index.lookup (Text.lower name)

/-- The variable of a name, in either case. -/
def find? (environment : Environment) (name : String) : Option Variable :=
  (environment.position? name).bind fun position => environment.bindings[position]?

/-- The variable of a name, or an error. -/
def get (environment : Environment) (name : String) : Except RunError Variable :=
  match environment.find? name with
  | some held => .ok held
  | none => .error (.undefinedVariable name)

/-- Adds a variable, its name first. -/
def define (held : Variable) : Update Environment Unit := do
  let environment ← MonadState.get
  if held.name = systemName || (environment.index.lookup held.name).isSome then
    throw (.duplicateVariable held.name)
  let position := environment.bindings.length
  modify fun before => { before with index := before.index ++ [(held.name, position)] }
  modify fun before => { before with bindings := before.bindings ++ [held] }

/-- The type of a name, in either case. -/
def findType? (environment : Environment) (name : String) : Option Ty :=
  environment.types.lookup (Text.lower name)

/-- Adds a named type. -/
def defineType (name : String) (ty : Ty) : Update Environment Unit := do
  let environment ← MonadState.get
  let name := Text.lower name
  if (environment.types.lookup name).isSome then
    throw (.duplicateType name)
  modify fun before => { before with types := before.types ++ [(name, ty)] }

/-- Changes the variable of a name where it is. -/
def onVariable {α : Type} (name : String) (change : Update Variable α) : Update Environment α :=
  fun environment =>
    match environment.position? name, environment.find? name with
    | some position, some held =>
      let (result, left) := change held
      (result, { environment with bindings := environment.bindings.set position left })
    | _, _ => (.error (.undefinedVariable name), environment)

/-- A listing of the variables, one line for each. -/
def dump (environment : Environment) : String :=
  String.join (environment.bindings.map (·.line ++ "\n"))

/-- The variables as data. -/
def toJson (environment : Environment) : Json :=
  Json.ofMap (environment.bindings.map fun held => (held.name, held.value.toJson))

end Environment

end ReportLang
