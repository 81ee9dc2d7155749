import ReportLang.Diagnostic
import ReportLang.Lexeme
import ReportLang.Text.Class

/-!
# Reading lexemes

Cuts a text into lexemes, one character at a time. Blanks and comments separate lexemes: a line that
starts with an asterisk is a comment, and so is everything from a double quote met between lexemes
to the end of the line. A quote inside a literal is written twice.
-/

namespace ReportLang

/-- Why a text cannot be cut into lexemes. -/
inductive ScanError where
  /-- The text ends inside a literal, on the given line. -/
  | unterminatedLiteral (read : Lexeme) (line : Nat)
  /-- A control character stands outside literals and comments. -/
  | unsupportedCharacter (c : Char) (line : Nat)
deriving DecidableEq

namespace ScanError

/-- A control character in a message. -/
def controlText (c : Char) : String :=
  if c.toNat = 0 then "'\\0'"
  else "'\\u\x7b" ++ String.ofList (Nat.toDigits 16 c.toNat) ++ "\x7d'"

/-- What is told about the failure. -/
def diagnostic : ScanError → Diagnostic
  | .unterminatedLiteral read line =>
    { kind := .unterminatedLiteral
      message := "literal " ++ read ++ " is not closed before the end of input (line " ++
        toString line ++ ")"
      help := some "close the literal with the same quote it was opened with" }
  | .unsupportedCharacter c line =>
    { kind := .unsupportedCharacter
      message := "unsupported character " ++ controlText c ++ " on line " ++ toString line }

end ScanError

namespace Scan

/-- Where in a text the reader is. Collected characters are held last first. -/
inductive Place where
  /-- At the first character of a line. -/
  | lineStart
  /-- Between lexemes. -/
  | gap
  /-- Inside a comment. -/
  | comment
  /-- Inside a literal. -/
  | literal (quote : Quote) (read : List Char)
  /-- After a quote inside a literal, which closes it unless a second one follows. -/
  | closing (quote : Quote) (read : List Char)
  /-- Inside a word. -/
  | word (read : List Char)
deriving DecidableEq

/-- What has been read so far: the lexemes, last first, and the number of the current line. -/
structure Progress where
  /-- Where the reader is. -/
  place : Place
  /-- The complete lexemes, last first. -/
  found : List Lexeme
  /-- The number of the current line, counted from one. -/
  line : Nat
deriving DecidableEq

/-- The beginning of a text. -/
def Progress.start : Progress := ⟨.lineStart, [], 1⟩

/-- Whether a character ends a word. -/
def endsWord (mode : Mode) (c : Char) : Bool :=
  Text.isBlank c || mode.isMark c

/-- Reads a character between lexemes: the place it leads to, and the lexeme it is. -/
def readInGap (mode : Mode) (line : Nat) (c : Char) :
    Except ScanError (Place × Option Lexeme) :=
  if c = '\n' then .ok (.lineStart, none)
  else if Text.isBlank c then .ok (.gap, none)
  else if mode.isMark c then .ok (.gap, some c.toString)
  else if c = '\x22' then .ok (.comment, none)
  else
    match Quote.ofMark? c with
    | some quote => .ok (.literal quote [], none)
    | none =>
      if Text.isControl c then .error (.unsupportedCharacter c line) else .ok (.word [c], none)

/-- The lexeme of a literal whose characters were collected last first. -/
def literalOf (quote : Quote) (read : List Char) : Lexeme :=
  Lexeme.literal quote read.reverse

/-- The lexeme of a word whose characters were collected last first. -/
def wordOf (read : List Char) : Lexeme :=
  String.ofList read.reverse

/-- Reads one character: the place it leads to, and the lexemes that it completes, last first. -/
def read (mode : Mode) (line : Nat) (place : Place) (c : Char) :
    Except ScanError (Place × List Lexeme) :=
  let inGap (completed : List Lexeme) : Except ScanError (Place × List Lexeme) := do
    let (next, mark) ← readInGap mode line c
    return (next, mark.toList ++ completed)
  match place with
  | .lineStart => if c = '*' then .ok (.comment, []) else inGap []
  | .gap => inGap []
  | .comment => .ok (if c = '\n' then .lineStart else .comment, [])
  | .literal quote read =>
    .ok (if c = quote.mark then .closing quote read else .literal quote (c :: read), [])
  | .closing quote read =>
    if c = quote.mark then .ok (.literal quote (c :: read), [])
    else inGap [literalOf quote read]
  | .word read =>
    if endsWord mode c then inGap [wordOf read]
    else if Text.isControl c then .error (.unsupportedCharacter c line)
    else .ok (.word (c :: read), [])

/-- Reads one character of a text. -/
def step (mode : Mode) (progress : Progress) (c : Char) : Except ScanError Progress := do
  let (place, completed) ← read mode progress.line progress.place c
  return ⟨place, completed ++ progress.found, if c = '\n' then progress.line + 1 else progress.line⟩

/-- Ends a text: every lexeme of it, in order. -/
def finish (progress : Progress) : Except ScanError (List Lexeme) :=
  match progress.place with
  | .literal quote read => .error (.unterminatedLiteral (literalOf quote read) progress.line)
  | .closing quote read => .ok (literalOf quote read :: progress.found).reverse
  | .word read => .ok (wordOf read :: progress.found).reverse
  | .lineStart | .gap | .comment => .ok progress.found.reverse

end Scan

/-- The lexemes of a text. -/
def Lexeme.scan (mode : Mode) (text : String) : Except ScanError (List Lexeme) := do
  Scan.finish (← text.toList.foldlM (Scan.step mode) Scan.Progress.start)

end ReportLang
