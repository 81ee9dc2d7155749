import ReportLang.Text.Layout

/-!
# Instants

A date and a time of the day, with the texts that the system record shows.
-/

namespace ReportLang

/-- A date and a time of the day. -/
structure Instant where
  /-- The year, negative before the year zero. -/
  year : Int
  /-- The month, counted from one. -/
  month : Nat
  /-- The day of the month, counted from one. -/
  day : Nat
  /-- The hour of the day. -/
  hour : Nat
  /-- The minute of the hour. -/
  minute : Nat
  /-- The second of the minute. -/
  second : Nat
deriving DecidableEq

namespace Instant

/-- A number with at least two digits. -/
def twoDigits (n : Nat) : String :=
  Text.zeroPadded 2 (toString n)

/-- A year with at least four digits, and with a sign unless it has exactly four. -/
def yearText (year : Int) : String :=
  let digits := Text.zeroPadded 4 (toString year.natAbs)
  if 0 ≤ year ∧ year ≤ 9999 then digits
  else if year < 0 then "-" ++ digits
  else "+" ++ digits

/-- The date, year first. -/
def dateText (instant : Instant) : String :=
  yearText instant.year ++ twoDigits instant.month ++ twoDigits instant.day

/-- The time of the day, hour first. -/
def timeText (instant : Instant) : String :=
  twoDigits instant.hour ++ twoDigits instant.minute ++ twoDigits instant.second

end Instant

end ReportLang
