/-!
# Regular expressions

The part of the syntax of regular expressions that the translation of a pattern uses: anchors at
both ends, a dot that takes any character, also the end of a line, a star after it, and characters
that take themselves, after a backslash if they have a meaning of their own.
-/

namespace ReportLang.Text

/-- One part of an expression between its anchors. -/
inductive Wildcard where
  /-- Any run of characters, also an empty one. -/
  | run
  /-- Exactly one character. -/
  | any
  /-- One character that equals the given one, case apart. -/
  | exactly (c : Char)
deriving DecidableEq

/-- Whether a character has a meaning of its own in a regular expression, or can have one. -/
def hasMeaning (c : Char) : Bool :=
  ['\\', '.', '+', '*', '?', '(', ')', '|', '[', ']', '\x7b', '\x7d', '^', '$', '#', '&', '-',
    '~'].contains c

/-- A character that stands for itself in a regular expression. -/
def quoted (c : Char) : List Char :=
  if hasMeaning c then ['\\', c] else [c]

/-- The parts of a regular expression up to the anchor at its end. -/
def readParts : List Char → Option (List Wildcard)
  | ['$'] => some []
  | '.' :: '*' :: rest => (readParts rest).map (.run :: ·)
  | '.' :: rest => (readParts rest).map (.any :: ·)
  | '\\' :: c :: rest => if hasMeaning c then (readParts rest).map (.exactly c :: ·) else none
  | c :: rest => if hasMeaning c then none else (readParts rest).map (.exactly c :: ·)
  | [] => none

/-- The parts between the anchors of a regular expression. -/
def readExpression (source : String) : Option (List Wildcard) :=
  match source.toList with
  | '^' :: rest => readParts rest
  | _ => none

end ReportLang.Text
