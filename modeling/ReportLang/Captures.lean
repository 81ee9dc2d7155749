import ReportLang.Json
import ReportLang.Lexeme

/-!
# Captures

What matching a statement yields: named lexemes, flags, and the captures of named and repeated
rules. Captures are kept ordered by name, and each name occurs once.
-/

namespace ReportLang

/-- One named piece of a matched statement. -/
inductive Capture where
  /-- A single lexeme. -/
  | single (lexeme : Lexeme)
  /-- A flag that was passed. -/
  | flag (set : Bool)
  /-- The captures of a named rule. -/
  | nested (entries : List (String × Capture))
  /-- The captures of each match of a repeated rule. -/
  | repeated (items : List (List (String × Capture)))

/-- Captures by name, in the order of their names. -/
abbrev Captures := List (String × Capture)

namespace Captures

/-- No captures. -/
def empty : Captures := []

/-- Adds a capture, in place of one of the same name. -/
def insert (name : String) (capture : Capture) : Captures → Captures
  | [] => [(name, capture)]
  | (other, held) :: rest =>
    if name < other then (name, capture) :: (other, held) :: rest
    else if name = other then (name, capture) :: rest
    else (other, held) :: insert name capture rest

/-- A single capture. -/
def singleton (name : String) (capture : Capture) : Captures := [(name, capture)]

/-- Adds every capture of `later`, in place of those of the same names. -/
def merge (captures later : Captures) : Captures :=
  later.foldl (fun merged entry => insert entry.1 entry.2 merged) captures

/-- The captures with the given names; a later one replaces an earlier one of the same name. -/
def ofEntries (entries : List (String × Capture)) : Captures :=
  merge empty entries

/-- The capture of a name. -/
def get? (captures : Captures) (name : String) : Option Capture :=
  captures.lookup name

/-- The lexeme of a name, if it is a single capture. -/
def single? (captures : Captures) (name : String) : Option Lexeme :=
  match captures.get? name with
  | some (.single lexeme) => some lexeme
  | _ => none

/-- Whether the flag of a name was set. -/
def flag (captures : Captures) (name : String) : Bool :=
  match captures.get? name with
  | some (.flag set) => set
  | _ => false

/-- The captures of a named rule. -/
def nested? (captures : Captures) (name : String) : Option Captures :=
  match captures.get? name with
  | some (.nested entries) => some entries
  | _ => none

/-- The captures of each match of a repeated rule; none if there is no such capture. -/
def repeated (captures : Captures) (name : String) : List Captures :=
  match captures.get? name with
  | some (.repeated items) => items
  | _ => []

end Captures

mutual

/-- A capture as data: a text, a truth value, an object or a list of objects. -/
def Capture.toJson : Capture → Json
  | .single lexeme => .text lexeme
  | .flag set => .bool set
  | .nested entries => .object (Captures.toEntries entries)
  | .repeated items => .list (Captures.toObjects items)

/-- Captures as the entries of an object. -/
def Captures.toEntries : List (String × Capture) → List (String × Json)
  | [] => []
  | (name, capture) :: rest => (name, capture.toJson) :: Captures.toEntries rest

/-- Several captures as objects. -/
def Captures.toObjects : List (List (String × Capture)) → List Json
  | [] => []
  | entries :: rest => .object (Captures.toEntries entries) :: Captures.toObjects rest

end

/-- Captures as an object. -/
def Captures.toJson (captures : Captures) : Json :=
  .object (Captures.toEntries captures)

end ReportLang
