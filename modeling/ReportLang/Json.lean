import ReportLang.Number.Layout
import ReportLang.Text.Layout

/-!
# Data text

Values of the JSON data format and their two texts: compact, without any blanks, and pretty, with
two blanks of indentation per level. Objects are written in the order of their entries; the entries
of a map are ordered by name beforehand.
-/

namespace ReportLang

/-- A value of the JSON data format. -/
inductive Json where
  /-- A number without a fraction. -/
  | integer (n : Int)
  /-- A floating-point number; the null value if it is not finite. -/
  | float (x : Float)
  /-- A truth value. -/
  | bool (b : Bool)
  /-- A text. -/
  | text (s : String)
  /-- Values in order. -/
  | list (items : List Json)
  /-- Named values in order. -/
  | object (entries : List (String × Json))

namespace Json

/-- Two lower-case hexadecimal digits. -/
def hexByte (n : Nat) : String :=
  String.ofList [Nat.digitChar (n / 16 % 16), Nat.digitChar (n % 16)]

/-- The text of one character inside quotes. -/
def escapeChar (c : Char) : String :=
  match c with
  | '\x22' => "\\\""
  | '\\' => "\\\\"
  | '\x08' => "\\b"
  | '\t' => "\\t"
  | '\n' => "\\n"
  | '\x0c' => "\\f"
  | '\r' => "\\r"
  | _ => if c.toNat < 32 then "\\u00" ++ hexByte c.toNat else c.toString

/-- A text between quotes. -/
def quote (text : String) : String :=
  "\"" ++ String.join (text.toList.map escapeChar) ++ "\""

/-- The text of a number; what is not finite is written as the null value. -/
def floatText (x : Float) : String :=
  (Number.dataText? x).getD "null"

/-- Adds an entry to entries ordered by name, in place of one of the same name. -/
def insertEntry (name : String) (value : Json) : List (String × Json) → List (String × Json)
  | [] => [(name, value)]
  | (other, held) :: rest =>
    if name < other then (name, value) :: (other, held) :: rest
    else if name = other then (name, value) :: rest
    else (other, held) :: insertEntry name value rest

/-- An object with its entries ordered by name; a later entry replaces an earlier one. -/
def ofMap (entries : List (String × Json)) : Json :=
  .object (entries.foldl (fun sorted entry => insertEntry entry.1 entry.2 sorted) [])

mutual

/-- The text of a value without any blanks. -/
def compact : Json → String
  | .integer n => toString n
  | .float x => floatText x
  | .bool b => if b then "true" else "false"
  | .text s => quote s
  | .list items => "[" ++ String.intercalate "," (compactItems items) ++ "]"
  | .object entries => "\x7b" ++ String.intercalate "," (compactEntries entries) ++ "\x7d"

/-- The compact texts of the items of a list. -/
def compactItems : List Json → List String
  | [] => []
  | item :: rest => compact item :: compactItems rest

/-- The compact texts of the entries of an object. -/
def compactEntries : List (String × Json) → List String
  | [] => []
  | (name, value) :: rest => (quote name ++ ":" ++ compact value) :: compactEntries rest

end

/-- Puts each text on a line of its own, between brackets. -/
def lines (opening closing : String) (depth : Nat) : List String → String
  | [] => opening ++ closing
  | texts =>
    opening ++ "\n" ++ String.intercalate ",\n" (texts.map (Text.indent (depth + 1) ++ ·)) ++
      "\n" ++ Text.indent depth ++ closing

mutual

/-- The text of a value at a depth, each item and entry on a line of its own. -/
def prettyAt (depth : Nat) : Json → String
  | .list items => lines "[" "]" depth (prettyItems (depth + 1) items)
  | .object entries => lines "\x7b" "\x7d" depth (prettyEntries (depth + 1) entries)
  | .integer n => toString n
  | .float x => floatText x
  | .bool b => if b then "true" else "false"
  | .text s => quote s

/-- The pretty texts of the items of a list. -/
def prettyItems (depth : Nat) : List Json → List String
  | [] => []
  | item :: rest => prettyAt depth item :: prettyItems depth rest

/-- The pretty texts of the entries of an object. -/
def prettyEntries (depth : Nat) : List (String × Json) → List String
  | [] => []
  | (name, value) :: rest =>
    (quote name ++ ": " ++ prettyAt depth value) :: prettyEntries depth rest

end

/-- The text of a value with two blanks of indentation per level. -/
def pretty (value : Json) : String := prettyAt 0 value

end Json

end ReportLang
