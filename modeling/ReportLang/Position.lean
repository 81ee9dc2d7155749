import ReportLang.Lexeme
import ReportLang.Text.Numeral
import ReportLang.Text.Split

/-!
# Write positions

Where and how wide a value is written: a slash for a new line, a column, and a length between
parentheses, each of them optional. A column alone is not a position, so that a bare number can be
written as a value.
-/

namespace ReportLang

/-- Where and how wide a value is written. Columns count from one. -/
structure Position where
  /-- Whether a new line is started first. -/
  newLine : Bool
  /-- The column to move to. -/
  column : Option Nat
  /-- The width to which a text is cut or filled up. -/
  length : Option Nat
deriving DecidableEq

namespace Position

/-- Whether characters are a length and its closing parenthesis: digits, or one or two asterisks. -/
def isLength (chars : List Char) : Bool :=
  match chars.reverse with
  | ')' :: body => Text.isDigits body || body == ['*'] || body == ['*', '*']
  | _ => false

/-- The characters behind a slash at the start. -/
def behindSlash : List Char → List Char
  | '/' :: rest => rest
  | chars => chars

/-- Whether a lexeme is made of a slash, a column and a length between parentheses, each of them
optional. -/
def hasShape (lexeme : Lexeme) : Bool :=
  match (behindSlash lexeme.toList).dropWhile Char.isDigit with
  | [] => true
  | '(' :: length => isLength length
  | _ => false

/-- Whether a lexeme is a position: it has the shape of one, and a slash or a parenthesis that tells
it from a number. -/
def isPosition (lexeme : Lexeme) : Bool :=
  (lexeme.toList.head? == some '/' || lexeme.toList.contains '(') && hasShape lexeme

/-- The parts of a position. An absent or starred length counts as none, and so does a number that
is too large. -/
def ofLexeme (lexeme : Lexeme) : Position :=
  let chars := lexeme.toList
  let rest := chars.dropWhile (· == '/')
  let (column, length) :=
    match Text.splitFirst? '(' rest with
    | some (column, length) => (column, Text.dropEnd ')' length)
    | none => (rest, [])
  { newLine := chars.head? == some '/'
    column := Text.natural? (String.ofList column)
    length := Text.natural? (String.ofList length) }

end Position

end ReportLang
