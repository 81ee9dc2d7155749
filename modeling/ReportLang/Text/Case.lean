import ReportLang.Text.CaseTable
import ReportLang.Text.ClassTable

/-!
# Upper and lower case

Full case conversion of texts, and the simple folding by which single characters are compared
without regard to case. A capital sigma is the one letter whose lower-case form depends on its
neighbours: it takes its final form at the end of a word.
-/

namespace ReportLang.Text

/-- Whether a character is upper case, lower case or title case. -/
def isCased (c : Char) : Bool :=
  if c.toNat < 128 then c.isAlpha else CodeRange.covers casedRanges c.toNat

/-- Whether a character is passed over when the neighbours of a sigma are examined. -/
def isCaseIgnorable (c : Char) : Bool :=
  if c.toNat < 128 then
    c == '\x27' || c == '.' || c == ':' || c == '^' || c == '\x60'
  else
    CodeRange.covers caseIgnorableRanges c.toNat

/-- Whether the first character that is not passed over has case. -/
def startsCased (chars : List Char) : Bool :=
  match chars.dropWhile isCaseIgnorable with
  | [] => false
  | c :: _ => isCased c

/-- The capital sigma. -/
def capitalSigma : Char := Char.ofNat 0x3A3

/-- The small sigma inside a word. -/
def smallSigma : Char := Char.ofNat 0x3C3

/-- The small sigma at the end of a word. -/
def finalSigma : Char := Char.ofNat 0x3C2

/-- The lower-case form of a character on its own. -/
def lowerChar (c : Char) : List Char :=
  if c.toNat < 128 then
    [c.toLower]
  else if c.toNat = 0x130 then
    ['i', Char.ofNat 0x307]
  else
    match CaseRun.lookup lowerRuns c.toNat with
    | some code => [Char.ofNat code]
    | none => [c]

/-- The lower-case form of a character between its neighbours, `before` nearest first. -/
def lowerBetween (before : List Char) (c : Char) (after : List Char) : List Char :=
  if c = capitalSigma then
    if startsCased before && !startsCased after then [finalSigma] else [smallSigma]
  else
    lowerChar c

/-- Lower-cases the characters in order, `before` holding those already passed, nearest first. -/
def lowerAfter (before : List Char) : List Char → List Char
  | [] => []
  | c :: rest => lowerBetween before c rest ++ lowerAfter (c :: before) rest

/-- The lower-case form of a text. -/
def lower (text : String) : String :=
  String.ofList (lowerAfter [] text.toList)

/-- The upper-case form of a character. -/
def upperChar (c : Char) : List Char :=
  if c.toNat < 128 then
    [c.toUpper]
  else
    match upperExpansions.lookup c.toNat with
    | some codes => codes.map Char.ofNat
    | none =>
      match CaseRun.lookup upperRuns c.toNat with
      | some code => [Char.ofNat code]
      | none => [c]

/-- The upper-case form of a text. -/
def upper (text : String) : String :=
  String.ofList (text.toList.flatMap upperChar)

/-- The representative of a character among those that differ from it only in case. -/
def foldChar (c : Char) : Char :=
  if c.toNat < 128 then
    c.toLower
  else
    match CaseRun.lookup foldRuns c.toNat with
    | some code => Char.ofNat code
    | none => c

/-- The characters that differ from a character at most in case, in the order of their codes. -/
def caseVariants (c : Char) : List Char :=
  let shared := foldChar c
  let others := shared.toUpper :: (CaseRun.sources foldRuns shared.toNat).map Char.ofNat
  others.filter (· < shared) ++ shared :: others.filter (shared < ·)

end ReportLang.Text
