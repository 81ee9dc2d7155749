import ReportLang.Reference
import ReportLang.Session
import ReportLang.Text.Class
import ReportLang.Text.Split

/-!
# Operands

What a lexeme stands for where a value or a place for a value is needed: a literal, a whole number,
or a variable, which may be followed by fields after hyphens.
-/

namespace ReportLang

/-- The mark between a record and its field. -/
def fieldMark : Char := '-'

/-- Whether a lexeme is a whole number: digits after at most one minus sign. -/
def Lexeme.isInteger (lexeme : Lexeme) : Bool :=
  match lexeme.toList with
  | '-' :: digits => Text.isDigits digits
  | digits => Text.isDigits digits

/-- The name of a variable and the fields after it, in lower case. -/
def Lexeme.path (lexeme : Lexeme) : String × List String :=
  let (name, fields) := Text.splitParts fieldMark lexeme.toList
  let lower (part : List Char) : String := Text.lower (String.ofList part)
  (lower name, fields.map lower)

namespace Session

/-- The value of a literal. Trailing blanks of a text of fixed length do not count. -/
def literalValue (quote : Quote) (text : String) : Value :=
  match quote with
  | .character => .ofCharacters (Text.trimEnd text)
  | .string => .ofString text

/-- The value of a variable or a field. -/
def namedValue (host : Host) (session : Session) (lexeme : Lexeme) : Reading Value := do
  let (name, fields) := lexeme.path
  let root ←
    if name = Environment.systemName then session.system host
    else (session.environment.get name).map Variable.value
  (root.fieldAt fields).mapError RunError.value

/-- The value that a lexeme stands for. -/
def operand (host : Host) (session : Session) (lexeme : Lexeme) : Reading Value :=
  match lexeme.quote? with
  | some quote => return literalValue quote lexeme.content
  | none =>
    if lexeme.isInteger then
      match Text.integer? lexeme with
      | some n => return .ofInteger n
      | none => throw (.numberOutOfRange lexeme)
    else
      session.namedValue host lexeme

/-- The place that a lexeme stands for. -/
def reference (session : Session) (lexeme : Lexeme) : Except RunError Reference :=
  if lexeme.isLiteral || lexeme.isInteger then
    .error (.literalTarget lexeme)
  else
    let (name, fields) := lexeme.path
    if name = Environment.systemName then .error (.systemTarget lexeme)
    else do
      let _ ← session.environment.get name
      return Reference.ofNames name fields

/-- The whole number that a value counts as: a number, rounded if it has a fraction, or a text that
spells one. -/
def countOf (value : Value) : Except RunError Int :=
  match value with
  | .number _ n => .ok n
  | .float _ x => .ok (Number.nearestWithin Text.integerMin Text.integerMax x)
  | .text .. | .record .. =>
    match Text.integer? (Text.trim value.asText) with
    | some n => .ok n
    | none => .error (.value (.notANumber value))

/-- The whole number that a lexeme stands for. -/
def count (host : Host) (session : Session) (lexeme : Lexeme) : Reading Int := do
  countOf (← session.operand host lexeme)

end Session

end ReportLang
