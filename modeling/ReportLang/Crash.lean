/-!
# Crashes

What ends the program at once, without a message of its own: a text that would be wider than texts
can be laid out, or larger than any text can be, and a counter that would leave its range. A crash
has no kind of failure and no diagnostic.
-/

namespace ReportLang

/-- What ends the program at once. -/
inductive Crash where
  /-- A text would be filled up to a width that is not in the range of widths. -/
  | widthOutOfRange (width : Nat)
  /-- A text would take more bytes than can be addressed. -/
  | capacityOverflow
  /-- A counter of 64 bits would overflow. No run lives to see it: it would take as many passes of a
  loop. -/
  | counterOverflow
deriving DecidableEq

end ReportLang
