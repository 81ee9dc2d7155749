import ReportLang.Instant
import ReportLang.Text.Pattern
import ReportLang.Update

/-!
# Hosts

What a run takes from outside: a clock, the texts of dates and times, and an engine for regular
expressions. The clock is asked anew for every value of the system record, and can give another
answer each time.
-/

namespace ReportLang

/-- What a run takes from outside. -/
structure Host where
  /-- The answers of the clock: the one to the first question, to the second one, and so on. -/
  clock : Nat → Instant
  /-- The text of a date: the year, the month and the day. -/
  dateText : Instant → String
  /-- The text of a time of the day: the hour, the minute and the second. -/
  timeText : Instant → String
  /-- The engine for the expressions of patterns. -/
  engine : Text.Engine

/-- The host of the running program, with a clock. -/
def Host.standard (clock : Nat → Instant) : Host where
  clock
  dateText := Instant.dateText
  timeText := Instant.timeText
  engine := Text.patternEngine

/-- A step that reads something, which may fail. It changes nothing but how often the clock was
asked. -/
abbrev Reading := Update Nat

/-- Asks the clock. -/
def Host.now (host : Host) : Reading Instant := do
  let asked ← get
  set (asked + 1)
  return host.clock asked

end ReportLang
