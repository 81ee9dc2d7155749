/-!
# Lexemes

The smallest pieces of a program or a grammar description: words, single punctuation marks and
quoted literals. A literal keeps its opening quote as its first character, so it can be told apart
from a word; `Lexeme.source` writes any lexeme the way it is spelled in a text.
-/

namespace ReportLang

/-- What a text is read as. -/
inductive Mode where
  /-- A program. -/
  | statement
  /-- A description of a grammar. -/
  | grammar
deriving DecidableEq

/-- The marks that are lexemes of their own in a kind of text. -/
def Mode.punctuation : Mode → List Char
  | .statement => ['.', ',', ':']
  | .grammar => ['(', ')', '[', ']', '\x7b', '\x7d', '|', '.']

/-- Whether a character is a lexeme of its own. -/
def Mode.isMark (mode : Mode) (c : Char) : Bool :=
  mode.punctuation.contains c

/-- The two quoting styles. -/
inductive Quote where
  /-- Text whose trailing blanks do not count. -/
  | character
  /-- Text that is kept as it is. -/
  | string
deriving DecidableEq

/-- The mark that opens and closes a literal. -/
def Quote.mark : Quote → Char
  | .character => '\x27'
  | .string => '\x60'

/-- The quoting style a mark belongs to. -/
def Quote.ofMark? (c : Char) : Option Quote :=
  if c = Quote.character.mark then some .character
  else if c = Quote.string.mark then some .string
  else none

/-- A word, a punctuation mark, or a literal without its closing quote. -/
abbrev Lexeme := String

namespace Lexeme

/-- The quoting style of a literal; nothing for any other lexeme. -/
def quote? (lexeme : Lexeme) : Option Quote :=
  lexeme.toList.head?.bind Quote.ofMark?

/-- Whether a lexeme is a literal of either style. -/
def isLiteral (lexeme : Lexeme) : Bool :=
  lexeme.quote?.isSome

/-- The text of a literal without its quote. -/
def literalText? (lexeme : Lexeme) : Option String :=
  if lexeme.isLiteral then some (String.ofList lexeme.toList.tail) else none

/-- The text of a literal, or the lexeme itself. -/
def content (lexeme : Lexeme) : String :=
  lexeme.literalText?.getD lexeme

/-- The lexeme of a literal with the given text. -/
def literal (quote : Quote) (text : List Char) : Lexeme :=
  String.ofList (quote.mark :: text)

/-- Writes a quote inside a literal twice. -/
def doubled (quote : Quote) (text : List Char) : List Char :=
  text.flatMap fun c => if c = quote.mark then [c, c] else [c]

/-- A lexeme as it is spelled in a text: a literal has its closing quote, and quotes inside it are
doubled. -/
def source (lexeme : Lexeme) : String :=
  match lexeme.quote? with
  | some quote =>
    String.ofList (quote.mark :: doubled quote lexeme.toList.tail ++ [quote.mark])
  | none => lexeme

end Lexeme

end ReportLang
