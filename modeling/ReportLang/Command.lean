import ReportLang.Captures

/-!
# Commands

A statement after it has been matched against the rule of its keyword.
-/

namespace ReportLang

/-- A keyword with the captures of its statement. -/
structure Command where
  /-- The first word of the statement, in lower case. -/
  keyword : String
  /-- What the rule of the keyword captured. -/
  captures : Captures

namespace Command

/-- The entries of a command as an object. -/
def toEntries (command : Command) : List (String × Json) :=
  [("keyword", .text command.keyword), ("captures", command.captures.toJson)]

/-- A command as data. -/
def toJson (command : Command) : Json :=
  .object command.toEntries

/-- A command in one line. -/
def line (command : Command) : String :=
  command.keyword ++ " -> " ++ command.captures.toJson.compact

end Command

end ReportLang
