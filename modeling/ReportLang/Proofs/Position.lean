import Mathlib.Algebra.Group.Nat.Defs
import ReportLang.Position
import ReportLang.Proofs.Text.Numeral
import ReportLang.Proofs.Text.Split

/-!
# Spellings of positions

A position is spelled by an optional slash, digits for the column, and a length between parentheses,
of which the slash or the length has to be there (`Position.Spelling`). The lexemes that are
positions are exactly those with a spelling, and the parts of such a lexeme are what its spelling
says: no column without digits, no length for asterisks, and neither if the number is too large. So
a position that is written down is read back.
-/

namespace ReportLang

namespace Text

/-- The number that digits denote, if there are any and it is small enough. -/
def boundedValue? (digits : List Char) : Option Nat :=
  if digits ≠ [] ∧ digitsValue digits < 2 ^ 64 then some (digitsValue digits) else none

/-- Digits are read as the number they denote. -/
theorem natural?_ofList {digits : List Char} (all : digits.all Char.isDigit = true) :
    natural? (String.ofList digits) = boundedValue? digits := by
  have unsigned (rest : List Char) : digits ≠ '+' :: rest := by
    rintro rfl
    cases all
  have read : readDigits? digits = if digits ≠ [] then some (digitsValue digits) else none := by
    simp [readDigits?, isDigits, all]
  unfold natural?
  rw [String.toList_ofList]
  split
  · exact absurd rfl (unsigned _)
  · show (readDigits? digits).filter (· < naturalBound) = _
    have bound : naturalBound = 2 ^ 64 := rfl
    rw [read, boundedValue?, bound]
    by_cases empty : digits = []
    · simp [empty]
    · by_cases small : digitsValue digits < 2 ^ 64
      · rw [if_pos empty, if_pos ⟨empty, small⟩, Option.filter_some, if_pos (decide_eq_true small)]
      · rw [if_pos empty, if_neg fun both => small both.2, Option.filter_some,
          if_neg fun inside => small (of_decide_eq_true inside)]

/-- What starts with an asterisk is no number. -/
theorem natural?_asterisk (rest : List Char) : natural? (String.ofList ('*' :: rest)) = none := by
  unfold natural?
  rw [String.toList_ofList]
  rfl

/-- The digits of a number that is small enough denote it. -/
theorem boundedValue?_toString {n : Nat} (below : n < 2 ^ 64) :
    boundedValue? (toString n).toList = some n := by
  have all : (toString n).toList.all Char.isDigit = true :=
    List.all_eq_true.mpr fun _ => isDigit_of_mem_toString
  have read := natural?_toString below
  rwa [← String.ofList_toList (s := toString n), natural?_ofList all] at read

end Text

namespace Position

/-- What stands between the parentheses of a position. -/
inductive Marks where
  /-- The digits of a length. -/
  | digits (digits : List Char) (whole : Text.isDigits digits = true)
  /-- One asterisk. -/
  | asterisk
  /-- Two asterisks. -/
  | asterisks

namespace Marks

/-- The characters between the parentheses. -/
def chars : Marks → List Char
  | .digits written _ => written
  | .asterisk => ['*']
  | .asterisks => ['*', '*']

/-- The length that is written. -/
def length? : Marks → Option Nat
  | .digits written _ => Text.boundedValue? written
  | .asterisk | .asterisks => none

/-- A length between its parentheses, if there is one. -/
def enclosed : Option Marks → List Char
  | some marks => '(' :: marks.chars ++ [')']
  | none => []

end Marks

/-- A position as it is spelled. -/
structure Spelling where
  /-- Whether there is a slash. -/
  newLine : Bool
  /-- The digits of the column, if there are any. -/
  column : List Char
  /-- What stands between parentheses, if they are there. -/
  marks : Option Marks
  /-- The column is written with digits. -/
  digits : column.all Char.isDigit = true
  /-- There is a slash or a length. -/
  placed : newLine = true ∨ marks.isSome = true

namespace Spelling

/-- The characters behind the slash. -/
def body (spelling : Spelling) : List Char :=
  spelling.column ++ Marks.enclosed spelling.marks

/-- The lexeme that is spelled. -/
def lexeme (spelling : Spelling) : Lexeme :=
  String.ofList (if spelling.newLine then '/' :: spelling.body else spelling.body)

/-- The position that is spelled. -/
def position (spelling : Spelling) : Position where
  newLine := spelling.newLine
  column := Text.boundedValue? spelling.column
  length := spelling.marks.bind Marks.length?

end Spelling

section Recognition

/-- A length and its closing parenthesis. -/
theorem isLength_iff {chars : List Char} :
    isLength chars = true ↔ ∃ marks : Marks, chars = marks.chars ++ [')'] := by
  have turned (digits : List Char) : Text.isDigits digits.reverse = Text.isDigits digits := by
    simp [Text.isDigits]
  constructor
  · intro accepted
    unfold isLength at accepted
    split at accepted
    · rename_i body reversed
      have same : chars = body.reverse ++ [')'] := by
        rw [← List.reverse_reverse chars, reversed, List.reverse_cons]
      simp only [Bool.or_eq_true, beq_iff_eq] at accepted
      rcases accepted with (whole | rfl) | rfl
      · exact ⟨.digits body.reverse ((turned body).trans whole), same⟩
      · exact ⟨.asterisk, same⟩
      · exact ⟨.asterisks, same⟩
    · cases accepted
  · rintro ⟨marks, rfl⟩
    unfold isLength
    rw [List.reverse_append]
    cases marks with
    | digits digits whole => simp [Marks.chars, turned, whole]
    | asterisk => rfl
    | asterisks => rfl

/-- Whether characters are a column and a length, behind a slash or alone. -/
def isPlace (newLine : Bool) (chars : List Char) : Bool :=
  match chars.dropWhile Char.isDigit with
  | [] => newLine
  | '(' :: length => isLength length
  | _ => false

/-- The characters that spell a position behind the slash. -/
theorem isPlace_iff {newLine : Bool} {chars : List Char} :
    isPlace newLine chars = true ↔
      ∃ spelling : Spelling, spelling.newLine = newLine ∧ chars = spelling.body := by
  constructor
  · intro accepted
    have cut : chars = chars.takeWhile Char.isDigit ++ chars.dropWhile Char.isDigit :=
      List.takeWhile_append_dropWhile.symm
    have digits : (chars.takeWhile Char.isDigit).all Char.isDigit = true := List.all_takeWhile
    unfold isPlace at accepted
    split at accepted
    · rename_i ended
      rw [ended] at cut
      exact ⟨⟨newLine, _, none, digits, .inl accepted⟩, rfl, cut⟩
    · rename_i length opened
      obtain ⟨marks, rfl⟩ := isLength_iff.mp accepted
      rw [opened] at cut
      exact ⟨⟨newLine, _, some marks, digits, .inr rfl⟩, rfl, cut⟩
    · cases accepted
  · rintro ⟨⟨newLine, column, marks, digits, placed⟩, rfl, rfl⟩
    have dropped (rest : List Char) :
        (column ++ rest).dropWhile Char.isDigit = rest.dropWhile Char.isDigit :=
      List.dropWhile_append_of_pos (List.all_eq_true.mp digits)
    unfold isPlace Spelling.body
    rw [dropped]
    cases marks with
    | none => simpa [Marks.enclosed] using placed
    | some marks => exact isLength_iff.mpr ⟨marks, rfl⟩

/-- Behind the slash of a spelling there is no other one. -/
theorem Spelling.head?_body_ne (spelling : Spelling) : spelling.body.head? ≠ some '/' := by
  obtain ⟨newLine, column, marks, digits, placed⟩ := spelling
  cases column with
  | nil =>
    cases marks with
    | none => nofun
    | some marks => simp [body, Marks.enclosed]
  | cons c rest =>
    rintro same
    obtain rfl : c = '/' := Option.some.inj same
    cases digits

/-- A lexeme has the shape of a position if it is a column and a length, behind a slash or not. -/
theorem hasShape_ofList (chars : List Char) :
    hasShape (String.ofList chars) = isPlace true (behindSlash chars) := by
  rw [hasShape, String.toList_ofList]
  rfl

/-- A lexeme that starts with a slash is a position if the rest is a place. -/
theorem isPosition_slash (rest : List Char) :
    isPosition (String.ofList ('/' :: rest)) = isPlace true rest := by
  rw [isPosition, hasShape_ofList, String.toList_ofList]
  rfl

/-- A lexeme that starts with no slash is a position if it is a place with a length. -/
theorem isPosition_plain {chars : List Char} (plain : chars.head? ≠ some '/') :
    isPosition (String.ofList chars) = isPlace false chars := by
  have noSlash : (chars.head? == some '/') = false := beq_eq_false_iff_ne.mpr plain
  have rest : behindSlash chars = chars := by
    unfold behindSlash
    split
    · exact absurd rfl plain
    · rfl
  -- A parenthesis is behind the digits, as it is no digit itself.
  have behind : '(' ∈ chars ↔ '(' ∈ chars.dropWhile Char.isDigit := by
    have apart : '(' ∉ chars.takeWhile Char.isDigit := fun member =>
      absurd (List.all_eq_true.mp List.all_takeWhile _ member) (by decide)
    calc '(' ∈ chars
        ↔ '(' ∈ chars.takeWhile Char.isDigit ++ chars.dropWhile Char.isDigit := by
          rw [List.takeWhile_append_dropWhile]
      _ ↔ '(' ∈ chars.dropWhile Char.isDigit := by rw [List.mem_append, or_iff_right apart]
  simp only [isPosition, hasShape_ofList, isPlace, String.toList_ofList, noSlash, rest,
    Bool.false_or, List.contains_eq_mem, behind]
  split
  · rename_i ended
    simp [ended]
  · rename_i length opened
    simp [opened]
  · exact Bool.and_false _

/-- The lexemes that are positions are those with a spelling. -/
theorem isPosition_iff {lexeme : Lexeme} :
    isPosition lexeme = true ↔ ∃ spelling : Spelling, lexeme = spelling.lexeme := by
  constructor
  · intro accepted
    rw [← String.ofList_toList (s := lexeme)] at accepted ⊢
    by_cases slash : lexeme.toList.head? = some '/'
    · obtain ⟨rest, same⟩ := List.head?_eq_some_iff.mp slash
      rw [same, isPosition_slash] at accepted
      obtain ⟨spelling, newLine, rfl⟩ := isPlace_iff.mp accepted
      exact ⟨spelling, by rw [same, Spelling.lexeme, if_pos newLine]⟩
    · rw [isPosition_plain slash] at accepted
      obtain ⟨spelling, noSlash, same⟩ := isPlace_iff.mp accepted
      exact ⟨spelling, by rw [same, Spelling.lexeme, if_neg (by simp [noSlash])]⟩
  · rintro ⟨spelling, rfl⟩
    unfold Spelling.lexeme
    split
    · rename_i newLine
      rw [isPosition_slash]
      exact isPlace_iff.mpr ⟨spelling, newLine, rfl⟩
    · rename_i noSlash
      rw [isPosition_plain spelling.head?_body_ne]
      exact isPlace_iff.mpr ⟨spelling, by simpa using noSlash, rfl⟩

end Recognition

section Reading

/-- No parenthesis stands in what is written between parentheses. -/
theorem Marks.not_mem_chars (marks : Marks) : ')' ∉ marks.chars := by
  cases marks with
  | digits written whole =>
    intro member
    cases List.all_eq_true.mp (Bool.and_eq_true_iff.mp whole).2 _ member
  | asterisk => decide
  | asterisks => decide

/-- The length that is read is the one that is written. -/
theorem Marks.natural?_chars (marks : Marks) :
    Text.natural? (String.ofList marks.chars) = marks.length? := by
  cases marks with
  | digits written whole => exact Text.natural?_ofList (Bool.and_eq_true_iff.mp whole).2
  | asterisk => exact Text.natural?_asterisk []
  | asterisks => exact Text.natural?_asterisk ['*']

/-- The slash is dropped, and there is no other one. -/
theorem Spelling.dropWhile_lexeme (spelling : Spelling) :
    spelling.lexeme.toList.dropWhile (· == '/') = spelling.body := by
  have rest := Text.dropWhile_of_head?_ne spelling.head?_body_ne
  rw [lexeme, String.toList_ofList]
  split
  · rw [List.dropWhile_cons_of_pos (by simp), rest]
  · exact rest

/-- A slash is seen at the start. -/
theorem Spelling.head?_lexeme (spelling : Spelling) :
    (spelling.lexeme.toList.head? == some '/') = spelling.newLine := by
  rw [lexeme, String.toList_ofList]
  split
  · rename_i newLine
    rw [newLine, List.head?_cons, beq_self_eq_true]
  · rename_i noSlash
    rw [beq_eq_false_iff_ne.mpr spelling.head?_body_ne]
    exact (Bool.eq_false_iff.mpr noSlash).symm

/-- The parts of a lexeme are those of its spelling. -/
theorem ofLexeme_lexeme (spelling : Spelling) : ofLexeme spelling.lexeme = spelling.position := by
  have noParenthesis : '(' ∉ spelling.column := fun member => by
    cases List.all_eq_true.mp spelling.digits _ member
  have column := Text.natural?_ofList spelling.digits
  cases marked : spelling.marks with
  | none =>
    have body : spelling.body = spelling.column := by
      rw [Spelling.body, marked]
      exact List.append_nil spelling.column
    have absent : Text.natural? (String.ofList []) = none := rfl
    simp only [ofLexeme, Spelling.dropWhile_lexeme, Spelling.head?_lexeme, body,
      Text.splitFirst?_eq_none_of_not_mem noParenthesis, column, absent, Spelling.position, marked,
      Option.bind_none]
  | some marks =>
    have body : spelling.body = spelling.column ++ '(' :: (marks.chars ++ [')']) := by
      rw [Spelling.body, marked]
      rfl
    simp only [ofLexeme, Spelling.dropWhile_lexeme, Spelling.head?_lexeme, body,
      Text.splitFirst?_append noParenthesis, Text.dropEnd_append marks.not_mem_chars, column,
      marks.natural?_chars, Spelling.position, marked, Option.bind_some]

end Reading

section Writing

/-- A position written down: a slash, the column, and the length between parentheses. -/
def text (position : Position) : Lexeme :=
  (if position.newLine then "/" else "") ++ (position.column.map toString).getD "" ++
    (position.length.map fun length => "(" ++ toString length ++ ")").getD ""

/-- A column that is small enough is written with digits that denote it. -/
theorem exists_digits {column : Option Nat} (below : ∀ n, column = some n → n < 2 ^ 64) :
    ∃ digits : List Char, ((column.map toString).getD "").toList = digits ∧
      digits.all Char.isDigit = true ∧ Text.boundedValue? digits = column := by
  cases column with
  | none => exact ⟨[], rfl, rfl, rfl⟩
  | some n =>
    exact ⟨(toString n).toList, rfl,
      List.all_eq_true.mpr fun _ => Text.isDigit_of_mem_toString,
      Text.boundedValue?_toString (below n rfl)⟩

/-- A length that is small enough is written with marks that denote it. -/
theorem exists_marks {length : Option Nat} (below : ∀ n, length = some n → n < 2 ^ 64) :
    ∃ marks : Option Marks,
      ((length.map fun length => "(" ++ toString length ++ ")").getD "").toList =
        Marks.enclosed marks ∧
      marks.isSome = length.isSome ∧ marks.bind Marks.length? = length := by
  cases length with
  | none => exact ⟨none, rfl, rfl, rfl⟩
  | some n =>
    refine ⟨some (.digits (toString n).toList (Text.isDigits_toString n)), ?_, rfl,
      Text.boundedValue?_toString (below n rfl)⟩
    simp [Marks.enclosed, Marks.chars]

/-- A position that has a slash or a length, and whose numbers are small enough, is written down as
one of its spellings. -/
theorem exists_spelling {position : Position}
    (column : ∀ n, position.column = some n → n < 2 ^ 64)
    (length : ∀ n, position.length = some n → n < 2 ^ 64)
    (placed : position.newLine = true ∨ position.length.isSome = true) :
    ∃ spelling : Spelling, position.text = spelling.lexeme ∧ spelling.position = position := by
  obtain ⟨digits, written, all, denoted⟩ := exists_digits column
  obtain ⟨marks, enclosed, present, counted⟩ := exists_marks length
  rw [← present] at placed
  refine ⟨⟨position.newLine, digits, marks, all, placed⟩, ?_, ?_⟩
  · rw [← String.toList_inj, text, String.toList_append, String.toList_append, written, enclosed,
      Spelling.lexeme, String.toList_ofList]
    split
    · rfl
    · rfl
  · rw [Spelling.position, denoted, counted]

/-- The lexemes that are positions are those that are spelled as such, and each is read as the parts
that its spelling has. A position with a slash or a length and with numbers below `2 ^ 64` is read
from the lexeme as which it is written. -/
theorem positions_spelled :
    (∀ lexeme, isPosition lexeme = true ↔ ∃ spelling : Spelling, lexeme = spelling.lexeme) ∧
    (∀ spelling : Spelling, ofLexeme spelling.lexeme = spelling.position) ∧
    (∀ position : Position,
      (∀ n, position.column = some n → n < 2 ^ 64) →
      (∀ n, position.length = some n → n < 2 ^ 64) →
      (position.newLine = true ∨ position.length.isSome = true) →
      isPosition position.text = true ∧ ofLexeme position.text = position) := by
  refine ⟨fun lexeme => isPosition_iff, ofLexeme_lexeme, fun position column length placed => ?_⟩
  obtain ⟨spelling, same, own⟩ := exists_spelling column length placed
  rw [same, ofLexeme_lexeme]
  exact ⟨isPosition_iff.mpr ⟨spelling, rfl⟩, own⟩

/-- A new line, the twelfth column and three places are written as `/12(3)`. -/
theorem positions_spelled_slash :
    (Position.mk true (some 12) (some 3)).text = "/12(3)" ∧ isPosition "/12(3)" = true ∧
      ofLexeme "/12(3)" = ⟨true, some 12, some 3⟩ := by
  have written : (Position.mk true (some 12) (some 3)).text = "/12(3)" := by decide
  have read := positions_spelled.2.2 ⟨true, some 12, some 3⟩ (by simp) (by simp) (.inl rfl)
  rw [written] at read
  exact ⟨written, read⟩

end Writing

end Position

end ReportLang
