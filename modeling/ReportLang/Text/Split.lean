/-!
# Cutting texts apart

Cutting a list at its first separator or at every separator, and searching for a part of a text.
-/

namespace ReportLang.Text

/-- What stands before and after the first separator, if there is one. -/
def splitFirst? (separator : Char) : List Char → Option (List Char × List Char)
  | [] => none
  | c :: rest =>
    if c = separator then some ([], rest)
    else (splitFirst? separator rest).map fun parts => (c :: parts.1, parts.2)

/-- The part before the first separator, and the parts between and after separators. -/
def splitParts (separator : Char) : List Char → List Char × List (List Char)
  | [] => ([], [])
  | c :: rest =>
    let (head, parts) := splitParts separator rest
    if c = separator then ([], head :: parts) else (c :: head, parts)

/-- Whether the needle occurs in the text. -/
def occursIn (needle : List Char) : List Char → Bool
  | [] => needle.isEmpty
  | c :: rest => needle.isPrefixOf (c :: rest) || occursIn needle rest

/-- A list without the marks at its end. -/
def dropEnd (mark : Char) (chars : List Char) : List Char :=
  (chars.reverse.dropWhile (· == mark)).reverse

end ReportLang.Text
