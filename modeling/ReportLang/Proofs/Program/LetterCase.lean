import Mathlib.Data.List.Forall2
import ReportLang.Program
import ReportLang.Proofs.Result
import ReportLang.Proofs.Text.LetterCase

/-!
# Letters in either case

A program means the same in upper and in lower case, except inside its literals. Two texts that
differ only in the case of letters which are not read as part of a literal are read in lock-step: at
every character the reader is at the same place in both, and has found lexemes that are the same but
for case. Forming statements lower-cases what is no literal, so that nothing of the difference is
left there, neither in the statements nor in a failure to form them; and whatever follows is the
same.
-/

namespace ReportLang

/-- Whether two lexemes are the same but for the case of ASCII letters, and equal if the first is a
literal. -/
structure Lexeme.SameButCase (lexeme other : Lexeme) : Prop where
  /-- The characters are the same up to case. -/
  letters : lexeme.toList.map Char.toLower = other.toList.map Char.toLower
  /-- Case counts inside literals. -/
  literal : lexeme.isLiteral = true → lexeme = other

namespace Lexeme.SameButCase

variable {lexeme other : Lexeme}

/-- A lexeme is the same as itself. -/
theorem refl (lexeme : Lexeme) : lexeme.SameButCase lexeme :=
  ⟨rfl, fun _ => rfl⟩

/-- Both lexemes are literals or neither is. -/
theorem isLiteral_eq (same : lexeme.SameButCase other) : lexeme.isLiteral = other.isLiteral := by
  have quote (lexeme : Lexeme) :
      (lexeme.toList.map Char.toLower).head?.bind Quote.ofMark? = lexeme.quote? := by
    unfold quote?
    cases lexeme.toList with
    | nil => rfl
    | cons c rest => exact Text.apply_toLower Quote.ofMark? (by decide) c
  rw [isLiteral, isLiteral, ← quote, ← quote, same.letters]

/-- In a statement both lexemes are the same. -/
theorem normal_eq (same : lexeme.SameButCase other) :
    Statement.normal .statement lexeme = Statement.normal .statement other := by
  cases literal : lexeme.isLiteral with
  | true => rw [same.literal literal]
  | false =>
    have plain := same.isLiteral_eq.symm.trans literal
    simp [Statement.normal, literal, plain, Text.lower_eq_of_map_toLower_eq same.letters]

/-- Both lexemes are a certain mark or neither is. -/
theorem eq_mark_iff (same : lexeme.SameButCase other) (mark : Char)
    (plain : mark.isAlpha = false) : lexeme = mark.toString ↔ other = mark.toString := by
  have folded (lexeme : Lexeme) :
      lexeme = mark.toString ↔ lexeme.toList.map Char.toLower = [mark] := by
    rw [← String.toList_inj, List.map_eq_singleton_iff]
    simp [Text.toLower_eq_iff plain]
  rw [folded, folded, same.letters]

end Lexeme.SameButCase

namespace Scan

/-- Whether the reader is inside a literal. -/
def Place.isLiteral : Place → Bool
  | .literal .. => true
  | _ => false

/-- Whether two characters are equal, or the same up to case at a place where case does not
count. -/
def Place.Agree (place : Place) (c d : Char) : Prop :=
  c = d ∨ c.toLower = d.toLower ∧ place.isLiteral = false

/-- Characters that agree are the same up to case. -/
theorem Place.Agree.toLower_eq {place : Place} {c d : Char} (agree : place.Agree c d) :
    c.toLower = d.toLower := by
  rcases agree with rfl | ⟨same, _⟩
  · rfl
  · exact same

/-- Whether two places are the same but for the case of the word that is being read. -/
inductive Place.SameButCase : Place → Place → Prop where
  /-- Both are at the first character of a line. -/
  | lineStart : SameButCase .lineStart .lineStart
  /-- Both are between lexemes. -/
  | gap : SameButCase .gap .gap
  /-- Both are inside a comment. -/
  | comment : SameButCase .comment .comment
  /-- Both are inside a literal. -/
  | literal (quote : Quote) (read : List Char) :
    SameButCase (.literal quote read) (.literal quote read)
  /-- Both are after a quote inside a literal. -/
  | closing (quote : Quote) (read : List Char) :
    SameButCase (.closing quote read) (.closing quote read)
  /-- Both are inside a word, which does not start with a quote. -/
  | word {first initial : Char} (read other : List Char) (plain : Quote.ofMark? first = none)
    (head : first.toLower = initial.toLower)
    (rest : read.map Char.toLower = other.map Char.toLower) :
    SameButCase (.word (read ++ [first])) (.word (other ++ [initial]))

/-- Whether the lexemes that a text is found to have, and the place in it, are the same but for
case. -/
structure Progress.SameButCase (progress other : Progress) : Prop where
  /-- The reader is at the same place. -/
  place : progress.place.SameButCase other.place
  /-- The same lexemes are complete. -/
  found : List.Forall₂ Lexeme.SameButCase progress.found other.found
  /-- The reader is on the same line. -/
  line : progress.line = other.line

variable {c d : Char} {line : Nat} {place other : Place}

/-- Words that are the same but for case are lexemes that are so. -/
theorem wordOf_sameButCase {first initial : Char} {read other : List Char}
    (plain : Quote.ofMark? first = none) (head : first.toLower = initial.toLower)
    (rest : read.map Char.toLower = other.map Char.toLower) :
    (wordOf (read ++ [first])).SameButCase (wordOf (other ++ [initial])) where
  letters := by simp [wordOf, head, rest]
  literal := by simp [wordOf, Lexeme.isLiteral, Lexeme.quote?, plain]

/-- A plain character between lexemes starts a word. -/
theorem readInGap_of_isPlain (plain : Text.IsPlain c) :
    readInGap .statement line c = .ok (.word [c], none) := by
  simp [readInGap, plain.notNewline, plain.notBlank, plain.notMark, plain.notComment,
    plain.notQuote, plain.notControl]

/-- A character between lexemes leads to a place that is the same as itself. -/
theorem readInGap_self (mode : Mode) (line : Nat) (c : Char) :
    Result.Alike (fun found other => found.1.SameButCase other.1 ∧ found.2 = other.2)
      (readInGap mode line c) (readInGap mode line c) := by
  unfold readInGap
  split
  · exact .ok ⟨.lineStart, rfl⟩
  split
  · exact .ok ⟨.gap, rfl⟩
  split
  · exact .ok ⟨.gap, rfl⟩
  split
  · exact .ok ⟨.comment, rfl⟩
  split
  · exact .ok ⟨.literal _ [], rfl⟩
  · rename_i notQuote
    split
    · exact .error _
    · exact .ok ⟨.word [] [] notQuote rfl rfl, rfl⟩

/-- Characters that are the same up to case are read alike between lexemes. -/
theorem readInGap_alike (line : Nat) (same : c.toLower = d.toLower) :
    Result.Alike (fun found other => found.1.SameButCase other.1 ∧ found.2 = other.2)
      (readInGap .statement line c) (readInGap .statement line d) := by
  rcases Text.eq_or_isAlpha_of_toLower_eq same with rfl | ⟨letter, otherLetter⟩
  · exact readInGap_self .statement line c
  · have plain := Text.isPlain_of_isAlpha letter
    rw [readInGap_of_isPlain plain, readInGap_of_isPlain (Text.isPlain_of_isAlpha otherLetter)]
    exact .ok ⟨.word [] [] plain.notQuote same rfl, rfl⟩

/-- What one character leads to is the same but for case: the place, and the completed lexemes. -/
abbrev ReadSameButCase (found other : Place × List Lexeme) : Prop :=
  found.1.SameButCase other.1 ∧ List.Forall₂ Lexeme.SameButCase found.2 other.2

/-- Characters that are the same up to case are read alike after lexemes that are so. -/
theorem readAfter_alike (line : Nat) (same : c.toLower = d.toLower) {completed others : List Lexeme}
    (before : List.Forall₂ Lexeme.SameButCase completed others) :
    Result.Alike ReadSameButCase
      (readInGap .statement line c >>= fun found => pure (found.1, found.2.toList ++ completed))
      (readInGap .statement line d >>= fun found => pure (found.1, found.2.toList ++ others)) := by
  refine (readInGap_alike line same).bind fun found other _ ⟨places, marks⟩ => .ok ⟨places, ?_⟩
  rw [← marks]
  exact List.rel_append (List.forall₂_same.mpr fun mark _ => .refl mark) before

/-- Characters that are the same up to case are read alike inside words that are so. -/
theorem readInWord_alike (line : Nat) (same : c.toLower = d.toLower) {first initial : Char}
    {word other : List Char} (plain : Quote.ofMark? first = none)
    (head : first.toLower = initial.toLower)
    (rest : word.map Char.toLower = other.map Char.toLower) :
    Result.Alike ReadSameButCase (read .statement line (.word (word ++ [first])) c)
      (read .statement line (.word (other ++ [initial])) d) := by
  have ends := Text.apply_eq_of_toLower_eq (endsWord .statement) (by decide) same
  have control := Text.apply_eq_of_toLower_eq Text.isControl (by decide) same
  simp only [read, ends, control]
  split
  · exact readAfter_alike line same (.cons (wordOf_sameButCase plain head rest) .nil)
  split
  · -- The failure names the character, so the two have to be equal, not only the same up to case.
    rename_i unsupported
    rcases Text.eq_or_isAlpha_of_toLower_eq same with rfl | ⟨_, letter⟩
    · exact .error _
    · simp [(Text.isPlain_of_isAlpha letter).notControl] at unsupported
  · exact .ok ⟨.word (c :: word) (d :: other) plain head (by simp [same, rest]), .nil⟩

/-- At places that are the same but for case, characters that agree lead to what is the same but for
case. -/
theorem read_alike (line : Nat) (places : place.SameButCase other) (agree : place.Agree c d) :
    Result.Alike ReadSameButCase
      (read .statement line place c) (read .statement line other d) := by
  have same := agree.toLower_eq
  have isMark := Text.eq_iff_of_toLower_eq same
  cases places with
  | lineStart =>
    simp only [read, isMark '*' rfl]
    split
    · exact .ok ⟨.comment, .nil⟩
    · exact readAfter_alike line same .nil
  | gap => exact readAfter_alike line same .nil
  | comment =>
    simp only [read, isMark '\n' rfl]
    split
    · exact .ok ⟨.lineStart, .nil⟩
    · exact .ok ⟨.comment, .nil⟩
  | literal quote read =>
    obtain rfl : c = d := by simpa [Place.Agree, Place.isLiteral] using agree
    simp only [Scan.read]
    split
    · exact .ok ⟨.closing quote read, .nil⟩
    · exact .ok ⟨.literal quote (c :: read), .nil⟩
  | closing quote read =>
    have closes := isMark quote.mark (by cases quote <;> rfl)
    simp only [Scan.read, closes]
    split
    · rename_i again
      rw [closes.mpr again, again]
      exact .ok ⟨.literal quote _, .nil⟩
    · exact readAfter_alike line same (.cons (.refl _) .nil)
  | word read other plain head rest => exact readInWord_alike line same plain head rest

/-- One character keeps what has been read the same but for case. -/
theorem step_alike {progress others : Progress} (alike : progress.SameButCase others)
    (agree : progress.place.Agree c d) :
    Result.Alike Progress.SameButCase
      (step .statement progress c) (step .statement others d) := by
  obtain ⟨places, found, line⟩ := alike
  have newline := Text.eq_iff_of_toLower_eq agree.toLower_eq '\n' rfl
  unfold step
  rw [← line]
  refine (read_alike progress.line places agree).bind fun next other _ ⟨reached, completed⟩ => ?_
  exact .ok ⟨reached, List.rel_append completed found, by simp only [newline]⟩

/-- Lexemes that are the same but for case are found in the end. -/
theorem finish_alike {progress others : Progress} (alike : progress.SameButCase others) :
    Result.Alike (List.Forall₂ Lexeme.SameButCase) (finish progress) (finish others) := by
  obtain ⟨place, found, line⟩ := progress
  obtain ⟨other, otherFound, otherLine⟩ := others
  obtain ⟨places, lexemes, lines⟩ := alike
  obtain rfl : line = otherLine := lines
  cases places with
  | lineStart => exact .ok (List.rel_reverse lexemes)
  | gap => exact .ok (List.rel_reverse lexemes)
  | comment => exact .ok (List.rel_reverse lexemes)
  | literal quote read => exact .error _
  | closing quote read => exact .ok (List.rel_reverse (.cons (.refl _) lexemes))
  | word read other plain head rest =>
    exact .ok (List.rel_reverse (.cons (wordOf_sameButCase plain head rest) lexemes))

/-- Whether the character at a position is read as part of a literal. -/
def readsInLiteral (mode : Mode) (progress : Progress) (chars : List Char) (position : Nat) :
    Bool :=
  match (chars.take position).foldlM (step mode) progress with
  | .ok reached => reached.place.isLiteral
  | .error _ => false

/-- Whether two texts, the first of them read on from some progress, differ only in the case of
ASCII letters that are not read as part of a literal. -/
structure DifferInCase (progress : Progress) (chars others : List Char) : Prop where
  /-- The texts are equally long. -/
  length : chars.length = others.length
  /-- Characters at the same position are equal, or the same up to case and not in a literal. -/
  agree : ∀ position < chars.length, chars[position]? = others[position]? ∨
    chars[position]?.map Char.toLower = others[position]?.map Char.toLower ∧
      readsInLiteral .statement progress chars position = false

/-- Whether two texts differ in case only can be decided. -/
instance (progress : Progress) (chars others : List Char) :
    Decidable (DifferInCase progress chars others) :=
  decidable_of_iff (_ ∧ _) ⟨fun both => ⟨both.1, both.2⟩, fun differ => ⟨differ.1, differ.2⟩⟩

variable {progress next : Progress} {rest others : List Char}

/-- The first characters agree. -/
theorem DifferInCase.head (differ : DifferInCase progress (c :: rest) (d :: others)) :
    progress.place.Agree c d := by
  simpa [Place.Agree, readsInLiteral, pure, Except.pure] using differ.agree 0 (by simp)

/-- Behind the first characters the texts differ in case only. -/
theorem DifferInCase.tail (differ : DifferInCase progress (c :: rest) (d :: others))
    (stepped : step .statement progress c = .ok next) : DifferInCase next rest others where
  length := by simpa using differ.length
  agree position inside := by
    have here := differ.agree (position + 1) (by simpa using inside)
    simpa [readsInLiteral, Result.foldlM_cons_of_ok stepped] using here

/-- Texts that differ in case only are read in lock-step. -/
theorem run_alike {progress other : Progress} {chars others : List Char}
    (alike : progress.SameButCase other) (differ : DifferInCase progress chars others) :
    Result.Alike Progress.SameButCase
      (chars.foldlM (step .statement) progress) (others.foldlM (step .statement) other) := by
  induction chars generalizing progress other others with
  | nil =>
    obtain rfl : others = [] := by simpa using differ.length.symm
    exact .ok alike
  | cons c rest ih =>
    obtain ⟨d, others, rfl⟩ : ∃ d more, others = d :: more :=
      List.exists_cons_of_length_eq_add_one differ.length.symm
    rw [List.foldlM_cons, List.foldlM_cons]
    exact (step_alike alike differ.head).bind fun next _ stepped results =>
      ih results (differ.tail stepped)

end Scan

/-- Texts that differ only in the case of letters outside literals have lexemes that are the same
but for case, or the same failure to be cut into lexemes. -/
theorem Lexeme.scan_alike {text other : String}
    (differ : Scan.DifferInCase .start text.toList other.toList) :
    Result.Alike (List.Forall₂ Lexeme.SameButCase)
      (scan .statement text) (scan .statement other) :=
  (Scan.run_alike ⟨.lineStart, .nil, rfl⟩ differ).bind fun _ _ _ => Scan.finish_alike

/-- Lexemes that are the same but for case form the same statements, or fail alike to form any. -/
theorem Statement.segmentFrom_sameButCase (chain : Option (List Lexeme)) (body : List Lexeme)
    {lexemes others : List Lexeme} (same : List.Forall₂ Lexeme.SameButCase lexemes others) :
    segmentFrom .statement chain body lexemes = segmentFrom .statement chain body others := by
  induction same generalizing chain body with
  | nil => rfl
  | @cons lexeme other rest others first _ ih =>
    have colon : lexeme = ":" ↔ other = ":" := first.eq_mark_iff ':' rfl
    have comma : lexeme = "," ↔ other = "," := first.eq_mark_iff ',' rfl
    have period : lexeme = "." ↔ other = "." := first.eq_mark_iff '.' rfl
    simp only [segmentFrom, colon, comma, period, first.normal_eq, ih]

/-- Texts that differ only in the case of letters outside literals have the same statements. -/
theorem Program.statements_eq_of_differInCase {text other : String}
    (differ : Scan.DifferInCase .start text.toList other.toList) :
    statements .statement text = statements .statement other := by
  have scanned := Lexeme.scan_alike differ
  unfold statements
  generalize Lexeme.scan .statement text = first at scanned
  generalize Lexeme.scan .statement other = second at scanned
  cases scanned with
  | error failure => rfl
  | ok same =>
    exact congrArg (Except.mapError Fault.segment) (Statement.segmentFrom_sameButCase none [] same)

/-- Programs are case-insensitive outside literals: texts that differ only in the case of letters
which are not read as part of a literal have the same report and the same variables, or the same
failure, with every grammar and configuration and on every host. -/
theorem Program.interpret_eq_of_differInCase {text other : String}
    (differ : Scan.DifferInCase .start text.toList other.toList) (grammar : Grammar)
    (host : Host) (config : Config) :
    interpret grammar host config text = interpret grammar host config other := by
  have parsed : commands grammar text = commands grammar other := by
    rw [commands, commands, statements_eq_of_differInCase differ]
  have grouped : instructions grammar text = instructions grammar other := by
    rw [instructions, instructions, parsed]
  rw [interpret, interpret, grouped]

/-- Keywords, names and a comment in other letters, around a literal that keeps its own. -/
theorem Program.interpret_eq_of_differInCase_literal :
    let host := Host.standard fun _ => ⟨2024, 1, 31, 23, 59, 59⟩
    Scan.DifferInCase .start "REPORT Demo. WRITE 'It''s On'. \x22 Done".toList
        "report dEMO. Write 'It''s On'. \x22 dONE".toList ∧
      interpret Grammar.builtin host ⟨40, 20⟩ "REPORT Demo. WRITE 'It''s On'. \x22 Done" =
        interpret Grammar.builtin host ⟨40, 20⟩ "report dEMO. Write 'It''s On'. \x22 dONE" := by
  intro host
  have differ : Scan.DifferInCase .start "REPORT Demo. WRITE 'It''s On'. \x22 Done".toList
      "report dEMO. Write 'It''s On'. \x22 dONE".toList := by decide
  exact ⟨differ, interpret_eq_of_differInCase differ Grammar.builtin host ⟨40, 20⟩⟩

end ReportLang
