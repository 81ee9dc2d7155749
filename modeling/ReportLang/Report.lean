import ReportLang.Json
import ReportLang.Screen
import ReportLang.Text.Case

/-!
# Reports

The finished output of a run: a title and the rows of the screen.
-/

namespace ReportLang

/-- A title and rows of one width. -/
structure Report where
  /-- The title as it was given. -/
  title : String
  /-- The number of characters in a row. -/
  width : Nat
  /-- The rows from top to bottom. -/
  lines : List String
deriving DecidableEq

namespace Report

/-- The report that a screen shows. -/
def ofScreen (title : String) (screen : Screen) : Report :=
  ⟨title, screen.width, screen.lines⟩

/-- The report as shown to a user: the title in upper case, and the rows between two borders. -/
def render (report : Report) : String :=
  let border := String.ofList (List.replicate report.width '*') ++ "\n"
  "REPORT: " ++ Text.upper report.title ++ "\n" ++ border ++
    String.join (report.lines.map (· ++ "\n")) ++ border

/-- The report as data. -/
def toJson (report : Report) : Json :=
  .object [("title", .text report.title), ("width", .integer report.width),
    ("lines", .list (report.lines.map .text))]

end Report

end ReportLang
