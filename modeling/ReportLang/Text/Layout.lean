import ReportLang.Crash

/-!
# Texts of a width

Indentation, filling a text up on the left, and cutting or filling a text to an exact width. A width
that is computed has to be at most 65535 for a text to be filled up to it.
-/

namespace ReportLang.Text

/-- The start of a line at a depth, two blanks per level. -/
def indent (depth : Nat) : String :=
  String.ofList (List.replicate (2 * depth) ' ')

/-- The text with zeros put in front until it has at least the given width. -/
def zeroPadded (width : Nat) (text : String) : String :=
  String.ofList (List.replicate (width - text.length) '0' ++ text.toList)

/-- The largest width to which a text can be filled up. -/
def maxWidth : Nat := 65535

/-- The text with zeros put in front until it has at least the given width, which has to be in range
even if the text has it already. -/
def zeroFilled (width : Nat) (text : String) : Except Crash String :=
  if width ≤ maxWidth then .ok (zeroPadded width text) else .error (.widthOutOfRange width)

/-- The text cut, or filled up with blanks on the right, to the given width. -/
def fitted (width : Nat) (text : String) : String :=
  let kept := text.toList.take width
  String.ofList (kept ++ List.replicate (width - kept.length) ' ')

end ReportLang.Text
