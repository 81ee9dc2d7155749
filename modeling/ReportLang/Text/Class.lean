import ReportLang.Text.ClassTable

/-!
# Character classes

Blank, control and alphanumeric characters, and trimming of blanks. The classes are those of the
Unicode standard; ASCII characters are decided first and need no table.
-/

namespace ReportLang.Text

/-- White space in the sense of the Unicode property of that name. -/
def isBlank (c : Char) : Bool :=
  let code := c.toNat
  if code < 128 then
    code == 32 || (9 ≤ code && code ≤ 13)
  else
    code == 0x85 || code == 0xA0 || code == 0x1680 || (0x2000 ≤ code && code ≤ 0x200A) ||
      code == 0x2028 || code == 0x2029 || code == 0x202F || code == 0x205F || code == 0x3000

/-- Control characters: both control blocks and the delete character. -/
def isControl (c : Char) : Bool :=
  c.toNat < 32 || (127 ≤ c.toNat && c.toNat < 160)

/-- Alphabetic characters and numbers of every script. -/
def isAlphanumeric (c : Char) : Bool :=
  if c.toNat < 128 then c.isAlphanum else CodeRange.covers alphanumericRanges c.toNat

/-- The text without its trailing blanks. -/
def trimEnd (text : String) : String :=
  String.ofList (text.toList.reverse.dropWhile isBlank).reverse

/-- The text without its leading and trailing blanks. -/
def trim (text : String) : String :=
  trimEnd (String.ofList (text.toList.dropWhile isBlank))

end ReportLang.Text
