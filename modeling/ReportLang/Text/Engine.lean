/-!
# Patterns as regular expressions

A pattern with wildcards is translated to a regular expression, character by character: an asterisk
stands for any run of characters, a plus sign for exactly one, and a number sign makes the next
character stand for itself. The expression is anchored at both ends. Building and matching it is
left to an engine, which also knows how to write a text so that it stands for itself.
-/

namespace ReportLang.Text

/-- An engine for regular expressions. -/
structure Engine where
  /-- The expression in which all characters of a text stand for themselves. -/
  escape : String → String
  /-- Builds an expression, with no regard to case and a dot that takes line ends as well, or tells
  why that is not possible. What is built tells whether the expression matches in a text. -/
  build : String → Except String (String → Bool)

/-- The mark that makes the next character of a pattern stand for itself. -/
def escapeMark : Char := '#'

/-- A character of a pattern that is not escaped, as an expression. -/
def Engine.ofChar (engine : Engine) (c : Char) : String :=
  if c = '*' then ".*" else if c = '+' then "." else engine.escape (String.singleton c)

/-- The expressions for the characters of a pattern; an escape mark at the end stands for itself. -/
def Engine.translate (engine : Engine) : List Char → List String
  | [] => []
  | [c] => [if c = escapeMark then engine.escape (String.singleton escapeMark) else engine.ofChar c]
  | c :: next :: rest =>
    if c = escapeMark then engine.escape (String.singleton next) :: engine.translate rest
    else engine.ofChar c :: engine.translate (next :: rest)

/-- The expression of a pattern. -/
def Engine.expression (engine : Engine) (pattern : String) : String :=
  "^" ++ String.join (engine.translate pattern.toList) ++ "$"

/-- Whether a pattern covers a text, or why its expression cannot be built. -/
def Engine.covers (engine : Engine) (pattern text : String) : Except String Bool :=
  (engine.build (engine.expression pattern)).map fun isMatch => isMatch text

end ReportLang.Text
