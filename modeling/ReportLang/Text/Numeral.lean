/-!
# Numerals in text

Reading whole numbers. Counts and lengths are unsigned and below `2 ^ 64`; integers are signed and
lie in the 64-bit range. Either may be written with a plus sign, only integers with a minus sign.
-/

namespace ReportLang.Text

/-- One more than the largest length or count: `2 ^ 64`. -/
def naturalBound : Nat := 18446744073709551616

/-- The smallest integer: `-(2 ^ 63)`. -/
def integerMin : Int := -9223372036854775808

/-- The largest integer: `2 ^ 63 - 1`. -/
def integerMax : Int := 9223372036854775807

/-- Whether a number lies in the 64-bit range. -/
def inIntegerRange (n : Int) : Bool :=
  integerMin ≤ n && n ≤ integerMax

/-- The number denoted by decimal digits, most significant first. -/
def digitsValue (digits : List Char) : Nat :=
  digits.foldl (fun value c => value * 10 + (c.toNat - '0'.toNat)) 0

/-- Whether the text is one or more decimal digits. -/
def isDigits (chars : List Char) : Bool :=
  !chars.isEmpty && chars.all Char.isDigit

/-- Reads decimal digits; nothing else may stand in the text. -/
def readDigits? (chars : List Char) : Option Nat :=
  if isDigits chars then some (digitsValue chars) else none

/-- Reads a count or length below `2 ^ 64`. -/
def natural? (text : String) : Option Nat :=
  let digits :=
    match text.toList with
    | '+' :: rest => rest
    | chars => chars
  (readDigits? digits).filter (· < naturalBound)

/-- Reads an integer of the 64-bit range. -/
def integer? (text : String) : Option Int :=
  let value : Option Int :=
    match text.toList with
    | '-' :: rest => (readDigits? rest).map fun n => -(n : Int)
    | '+' :: rest => (readDigits? rest).map Int.ofNat
    | chars => (readDigits? chars).map Int.ofNat
  value.filter inIntegerRange

end ReportLang.Text
