import ReportLang.Value.Convert

/-!
# Arithmetic

Calculations with numbers. Whole numbers are calculated exactly and have to stay in the 64-bit
range; as soon as one operand is a floating-point number, the calculation is in floating point. The
result has the type of the left operand and has to fit its length.
-/

namespace ReportLang

/-- The arithmetic operations. -/
inductive Operation where
  /-- The sum. -/
  | add
  /-- The difference. -/
  | subtract
  /-- The product. -/
  | multiply
  /-- The quotient; that of whole numbers is cut off toward zero. -/
  | divide
  /-- Division without a fraction, toward zero. -/
  | integerDivide
  /-- The remainder that is never negative. -/
  | modulo
deriving DecidableEq

namespace Operation

/-- The sign or word of an operation in a message. -/
def symbol : Operation → String
  | .add => "+"
  | .subtract => "-"
  | .multiply => "*"
  | .divide => "/"
  | .integerDivide => "DIV"
  | .modulo => "MOD"

/-- The operation of a sign or word, in either case. -/
def ofSymbol? (symbol : String) : Option Operation :=
  match Text.lower symbol with
  | "+" => some .add
  | "-" => some .subtract
  | "*" => some .multiply
  | "/" => some .divide
  | "div" => some .integerDivide
  | "mod" => some .modulo
  | _ => none

/-- Whether an operation divides. -/
def divides : Operation → Bool
  | .divide | .integerDivide | .modulo => true
  | .add | .subtract | .multiply => false

/-- The exact result for whole numbers, with a divisor that is not zero. -/
def exact (operation : Operation) (a b : Int) : Int :=
  match operation with
  | .add => a + b
  | .subtract => a - b
  | .multiply => a * b
  | .divide | .integerDivide => a.tdiv b
  | .modulo => a.emod b

/-- Calculates with whole numbers. The remainder of the smallest integer and minus one is refused,
as the quotient is out of range. -/
def onIntegers (operation : Operation) (a b : Int) : Except ValueError Int :=
  if operation.divides && b = 0 then
    .error (.divisionByZero (toString a))
  else
    let result := operation.exact a b
    if !Text.inIntegerRange result || (operation = .modulo && a = Text.integerMin && b = -1) then
      .error (.overflow (toString a) operation.symbol (toString b))
    else
      .ok result

/-- Calculates with floating-point numbers. -/
def onFloats (operation : Operation) (a b : Float) : Except ValueError Float :=
  if operation.divides && b == 0.0 then
    .error (.divisionByZero (Number.plainText a))
  else
    let result :=
      match operation with
      | .add => a + b
      | .subtract => a - b
      | .multiply => a * b
      | .divide => a / b
      | .integerDivide => Number.truncate (a / b)
      | .modulo => Number.modulo a b
    if result.isFinite then .ok result
    else .error (.overflow (Number.plainText a) operation.symbol (Number.plainText b))

end Operation

namespace Value

/-- A number in floating point. -/
def toFloat? : Value → Option Float
  | .number _ n => some (Float.ofInt n)
  | .float _ x => some x
  | .text .. | .record .. => none

/-- The result of an operation before it takes the type of the left operand. -/
def rawResult (operation : Operation) (left right : Value) : Except ValueError Value :=
  match left, right with
  | .number _ a, .number _ b => (operation.onIntegers a b).map ofInteger
  | _, _ =>
    (operation.onFloats (left.toFloat?.getD 0.0) (right.toFloat?.getD 0.0)).map ofFloat

/-- Applies an operation to two numbers. -/
def calculate (operation : Operation) (left right : Value) : Except ValueError Value :=
  if !left.isNumeric || !right.isNumeric then
    .error (.incompatible operation.symbol left right)
  else do
    let result ← (← rawResult operation left right).retag left.ty
    match left.ty.length?.filter (· < result.asText.length) with
    | some limit => .error (.resultTooLong result limit)
    | none => .ok result

end Value

end ReportLang
