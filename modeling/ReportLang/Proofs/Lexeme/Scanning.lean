import ReportLang.Lexeme.Scan
import ReportLang.Proofs.Lexeme.Spelling
import ReportLang.Proofs.Result

/-!
# Reading finds the spelling

Reading follows the spelling of a text piece by piece: a gap leaves the lexemes that were found as
they are, and the source of a lexeme adds that lexeme. Since every text is spelled up to its end, to
a literal that is never closed or to a control character, this says for every text what reading it
yields, and where and why it fails.
-/

namespace ReportLang

namespace Scan

/-- What is found in the end when characters are read from a place on. -/
def outcome (mode : Mode) (place : Place) (found : List Lexeme) (line : Nat) (chars : List Char) :
    Except ScanError (List Lexeme) :=
  chars.foldlM (step mode) ⟨place, found, line⟩ >>= finish

/-- The place between lexemes. -/
def Place.between : (lineStart : Bool) → Place
  | true => .lineStart
  | false => .gap

variable {mode : Mode} {place next : Place} {found completed : List Lexeme} {line : Nat} {c : Char}
  {rest : List Char} {lineStart : Bool}

/-- A character that is read leads to another place and completes lexemes. -/
theorem outcome_of_read (was : read mode line place c = .ok (next, completed)) :
    outcome mode place found line (c :: rest) =
      outcome mode next (completed ++ found) (line + [c].count '\n') rest := by
  have number : (if c = '\n' then line + 1 else line) = line + [c].count '\n' := by
    by_cases newline : c = '\n'
    · simp [newline]
    · simp [newline]
  simp [outcome, step, was, number, bind, Except.bind, pure, Except.pure]

/-- A character that is read within a line. -/
theorem outcome_of_read_inLine (was : read mode line place c = .ok (next, completed))
    (inLine : c ≠ '\n') :
    outcome mode place found line (c :: rest) =
      outcome mode next (completed ++ found) line rest := by
  rw [outcome_of_read was]
  simp [inLine]

/-- A character that cannot be read ends the work. -/
theorem outcome_of_read_error {failure : ScanError}
    (was : read mode line place c = .error failure) :
    outcome mode place found line (c :: rest) = .error failure := by
  simp [outcome, step, was, bind, Except.bind]

/-- At the start of a line only an asterisk is read otherwise than in a gap. -/
theorem read_between (plain : ¬ (lineStart = true ∧ c = '*')) :
    read mode line (.between lineStart) c = read mode line .gap c := by
  cases lineStart with
  | true =>
    have other : c ≠ '*' := fun same => plain ⟨rfl, same⟩
    simp [read, Place.between, other]
  | false => rfl

/-- What is read in a gap is read with no lexeme completed before. -/
theorem read_gap {mark : Option Lexeme} (was : readInGap mode line c = .ok (next, mark)) :
    read mode line .gap c = .ok (next, mark.toList) := by
  simp [read, was, bind, Except.bind, pure, Except.pure]

/-- A character that ends a lexeme is read as in a gap after it. -/
theorem outcome_of_ends {lexeme : Lexeme}
    (ends : ∀ c, rest.head? = some c → read mode line place c = (do
      let (next, mark) ← readInGap mode line c
      return (next, mark.toList ++ [lexeme])))
    (last : finish ⟨place, found, line⟩ = .ok (lexeme :: found).reverse) :
    outcome mode place found line rest = outcome mode .gap (lexeme :: found) line rest := by
  cases rest with
  | nil => exact last
  | cons c rest =>
    have here := ends c rfl
    cases inGap : readInGap mode line c with
    | error failure =>
      rw [inGap] at here
      rw [outcome_of_read_error here, outcome_of_read_error]
      simp [read, inGap, bind, Except.bind]
    | ok result =>
      obtain ⟨next, mark⟩ := result
      rw [inGap] at here
      rw [outcome_of_read here, outcome_of_read (read_gap inGap)]
      simp

/-- A blank leads to a line start if it is a line break, and to a gap otherwise. -/
theorem outcome_blank (isBlank : Text.isBlank c = true) :
    outcome mode (.between lineStart) found line (c :: rest) =
      outcome mode (.between (c == '\n')) found (line + [c].count '\n') rest := by
  have inGap : readInGap mode line c = .ok (.between (c == '\n'), none) := by
    by_cases newline : c = '\n'
    · simp [readInGap, newline, Place.between]
    · have other : (c == '\n') = false := by simpa using newline
      simp [readInGap, newline, isBlank, other, Place.between]
  have notStar := (Text.plain_of_blank_or_control (.inl isBlank)).2.1
  have was : read mode line (.between lineStart) c = .ok (.between (c == '\n'), []) := by
    rw [read_between fun both => notStar both.2, read_gap inGap]
    rfl
  rw [outcome_of_read was, List.nil_append]

/-- Characters of a comment are passed over. -/
theorem outcome_inComment {body : List Char} (inside : '\n' ∉ body) :
    outcome mode .comment found line (body ++ rest) = outcome mode .comment found line rest := by
  induction body with
  | nil => rfl
  | cons c body ih =>
    simp only [List.mem_cons, not_or] at inside
    have other : c ≠ '\n' := fun same => inside.1 same.symm
    have was : read mode line .comment c = .ok (.comment, []) := by simp [read, other]
    rw [List.cons_append, outcome_of_read_inLine was other]
    exact ih inside.2

/-- A comment up to the end of its line is a gap. -/
theorem outcome_comment {body : List Char} (opens : OpensComment lineStart c)
    (inside : '\n' ∉ body) (stops : ∀ d, rest.head? = some d → d = '\n') :
    outcome mode (.between lineStart) found line (c :: (body ++ rest)) =
      outcome mode (.between false) found line rest := by
  have was : read mode line (.between lineStart) c = .ok (.comment, []) := by
    rcases opens with rfl | ⟨rfl, rfl⟩
    · rw [read_between (by simp)]
      cases mode with
      | statement => rfl
      | grammar => rfl
    · rfl
  rw [outcome_of_read_inLine was opens.ne_newline, List.nil_append, outcome_inComment inside]
  cases rest with
  | nil => rfl
  | cons d more =>
    obtain rfl := stops d rfl
    rfl

/-- A mark is found between lexemes. -/
theorem outcome_mark (isMark : mode.isMark c = true) :
    outcome mode (.between lineStart) found line (c :: rest) =
      outcome mode (.between false) (c.toString :: found) line rest := by
  obtain ⟨notBlank, _, _, notStar, _⟩ := Mode.plain_of_isMark isMark
  have other := Text.ne_newline_of_not_isBlank notBlank
  have inGap : readInGap mode line c = .ok (.gap, some c.toString) := by
    simp [readInGap, other, notBlank, isMark]
  have was : read mode line (.between lineStart) c = .ok (.gap, [c.toString]) := by
    rw [read_between fun both => notStar both.2, read_gap inGap]
    rfl
  rw [outcome_of_read_inLine was other]
  rfl

/-- The text of a literal is collected, with one quote for two. -/
theorem outcome_inLiteral (quote : Quote) (text collected : List Char) :
    outcome mode (.literal quote collected) found line (Lexeme.doubled quote text ++ rest) =
      outcome mode (.literal quote (text.reverse ++ collected)) found
        (line + (Lexeme.doubled quote text).count '\n') rest := by
  induction text generalizing collected line with
  | nil => rfl
  | cons c text ih =>
    by_cases same : c = quote.mark
    · subst same
      have first : read mode line (.literal quote collected) quote.mark =
          .ok (.closing quote collected, []) := by simp [read]
      have second (line : Nat) : read mode line (.closing quote collected) quote.mark =
          .ok (.literal quote (quote.mark :: collected), []) := by simp [read]
      have parts : Lexeme.doubled quote (quote.mark :: text) =
          quote.mark :: quote.mark :: Lexeme.doubled quote text := by
        simp [Lexeme.doubled]
      rw [parts, List.cons_append, List.cons_append,
        outcome_of_read_inLine first quote.mark_ne_newline,
        outcome_of_read_inLine (second _) quote.mark_ne_newline, List.nil_append, List.nil_append,
        ih]
      simp [quote.mark_ne_newline]
    · have was : read mode line (.literal quote collected) c =
          .ok (.literal quote (c :: collected), []) := by simp [read, same]
      have parts : Lexeme.doubled quote (c :: text) = [c] ++ Lexeme.doubled quote text := by
        simp [Lexeme.doubled, same]
      rw [parts, List.append_assoc, List.singleton_append, outcome_of_read was, List.nil_append, ih,
        List.count_append, Nat.add_assoc]
      simp

/-- A quote between lexemes opens a literal. -/
theorem outcome_openLiteral (quote : Quote) :
    outcome mode (.between lineStart) found line (quote.mark :: rest) =
      outcome mode (.literal quote []) found line rest := by
  have was : read mode line (.between lineStart) quote.mark = .ok (.literal quote [], []) := by
    cases quote with
    | character => cases mode <;> cases lineStart <;> rfl
    | string => cases mode <;> cases lineStart <;> rfl
  rw [outcome_of_read_inLine was quote.mark_ne_newline, List.nil_append]

/-- A literal is found once its quote is closed. -/
theorem outcome_literal (quote : Quote) (text : List Char) (ends : rest.head? ≠ some quote.mark) :
    outcome mode (.between lineStart) found line
        (quote.mark :: (Lexeme.doubled quote text ++ quote.mark :: rest)) =
      outcome mode (.between false) (Lexeme.literal quote text :: found)
        (line + (Lexeme.doubled quote text).count '\n') rest := by
  have closing (line : Nat) (collected : List Char) :
      read mode line (.literal quote collected) quote.mark =
        .ok (.closing quote collected, []) := by
    simp [read]
  rw [outcome_openLiteral, outcome_inLiteral, outcome_of_read_inLine (closing _ _)
    quote.mark_ne_newline, List.nil_append]
  have whole : literalOf quote (text.reverse ++ []) = Lexeme.literal quote text := by
    simp [literalOf]
  rw [← whole]
  refine outcome_of_ends (fun c head => ?_) rfl
  have other : c ≠ quote.mark := by
    rintro rfl
    exact ends head
  simp [read, other]

/-- The characters of a word are collected. -/
theorem outcome_inWord {chars collected : List Char}
    (plain : ∀ c ∈ chars, Lexeme.IsWordChar mode c) :
    outcome mode (.word collected) found line (chars ++ rest) =
      outcome mode (.word (chars.reverse ++ collected)) found line rest := by
  induction chars generalizing collected with
  | nil => rfl
  | cons c chars ih =>
    obtain ⟨⟨notBlank, notControl, notMark⟩, later⟩ := List.forall_mem_cons.mp plain
    have was : read mode line (.word collected) c = .ok (.word (c :: collected), []) := by
      simp [read, endsWord, notBlank, notMark, notControl]
    rw [List.cons_append, outcome_of_read_inLine was (Text.ne_newline_of_not_isBlank notBlank),
      List.nil_append, ih later]
    simp

/-- A word starts with its first character. -/
theorem outcome_beginWord {chars : List Char}
    (begins : Lexeme.BeginsWord mode lineStart (c :: chars)) :
    outcome mode (.between lineStart) found line (c :: (chars ++ rest)) =
      outcome mode (.word (c :: chars).reverse) found line rest := by
  obtain ⟨⟨notBlank, notControl, notMark⟩, later⟩ := List.forall_mem_cons.mp begins.plain
  obtain ⟨noComment, noQuote⟩ := begins.first c rfl
  have other := Text.ne_newline_of_not_isBlank notBlank
  have inGap : readInGap mode line c = .ok (.word [c], none) := by
    have plain : c ≠ '\x22' := fun same => noComment (.inl same)
    simp [readInGap, other, notBlank, notMark, plain, noQuote, notControl]
  have was : read mode line (.between lineStart) c = .ok (.word [c], []) := by
    rw [read_between fun both => noComment (.inr both), read_gap inGap]
    rfl
  rw [outcome_of_read_inLine was other, List.nil_append, outcome_inWord later]
  simp

/-- A word is found once it ends. -/
theorem outcome_word {chars : List Char} (nonempty : chars ≠ [])
    (begins : Lexeme.BeginsWord mode lineStart chars)
    (maximal : ∀ c, rest.head? = some c → Text.isBlank c = true ∨ mode.isMark c = true) :
    outcome mode (.between lineStart) found line (chars ++ rest) =
      outcome mode (.between false) (String.ofList chars :: found) line rest := by
  obtain ⟨c, more, rfl⟩ := List.exists_cons_of_ne_nil nonempty
  rw [List.cons_append, outcome_beginWord begins]
  have whole : wordOf (c :: more).reverse = String.ofList (c :: more) := by
    simp [wordOf]
  rw [← whole]
  refine outcome_of_ends (fun d head => ?_) rfl
  have stops : endsWord mode d = true := by
    simpa [endsWord] using maximal d head
  simp [read, stops]

/-- A gap adds no lexeme. -/
theorem outcome_gap {after gap : List Char} {ends : Bool} (between : Gap after lineStart gap ends) :
    outcome mode (.between lineStart) found line (gap ++ after) =
      outcome mode (.between ends) found (line + gap.count '\n') after := by
  induction between generalizing line with
  | nothing lineStart => rfl
  | @blank c rest lineStart ends isBlank _ ih =>
    rw [List.cons_append, outcome_blank isBlank, ih, Nat.add_assoc, ← List.count_append]
    rfl
  | @comment c body rest lineStart ends opens inside stops _ ih =>
    have other : c ≠ '\n' := opens.ne_newline
    rw [List.cons_append, List.append_assoc, outcome_comment opens inside stops, ih]
    simp [other, List.count_eq_zero.mpr inside]

/-- The source of a lexeme adds that lexeme. -/
theorem outcome_lexeme {lexeme : Lexeme} (stands : lexeme.StandsBefore mode lineStart rest) :
    outcome mode (.between lineStart) found line (lexeme.source.toList ++ rest) =
      outcome mode (.between false) (lexeme :: found)
        (line + lexeme.source.toList.count '\n') rest := by
  cases stands with
  | @mark c isMark _ =>
    have inLine := Text.ne_newline_of_not_isBlank (Mode.plain_of_isMark isMark).1
    rw [Lexeme.source_mark isMark, List.singleton_append, outcome_mark isMark]
    simp [inLine]
  | literal quote text ends =>
    rw [Lexeme.source_literal, List.cons_append, List.append_assoc, List.singleton_append,
      outcome_literal quote text ends]
    simp [quote.mark_ne_newline]
  | @word chars _ nonempty begins maximal =>
    have inLine : '\n' ∉ chars := fun member =>
      Text.ne_newline_of_not_isBlank (begins.plain _ member).1 rfl
    rw [Lexeme.source_of_head fun d head => (begins.first d head).2, String.toList_ofList,
      outcome_word nonempty begins maximal, List.count_eq_zero.mpr inLine]
    rfl

/-- A text that is spelled adds the lexemes that spell it. -/
theorem outcome_spells {chars : List Char} {lexemes : List Lexeme} {ends : Bool}
    (spelled : Spells mode rest lineStart chars lexemes ends) :
    ∃ before, chars = before ++ rest ∧ ∀ found line,
      outcome mode (.between lineStart) found line chars =
        outcome mode (.between ends) (lexemes.reverse ++ found) (line + before.count '\n')
          rest := by
  induction spelled with
  | @last gap lineStart ends between =>
    exact ⟨gap, rfl, fun found line => outcome_gap between⟩
  | @next gap more lexeme lexemes lineStart middle ends between stands _ ih =>
    obtain ⟨before, rfl, later⟩ := ih
    refine ⟨gap ++ (lexeme.source.toList ++ before), by simp, fun found line => ?_⟩
    rw [outcome_gap between, outcome_lexeme stands, later]
    simp [Nat.add_assoc]

/-- At the end of a text the lexemes that were found are all. -/
theorem outcome_done : outcome mode (.between lineStart) found line [] = .ok found.reverse := by
  cases lineStart with
  | true => rfl
  | false => rfl

/-- A literal that is never closed fails at the end of the text. -/
theorem outcome_inLiteral_done (quote : Quote) (text : List Char) :
    outcome mode (.between lineStart) found line (quote.mark :: Lexeme.doubled quote text) =
      .error (.unterminatedLiteral (Lexeme.literal quote text)
        (line + (Lexeme.doubled quote text).count '\n')) := by
  rw [outcome_openLiteral, ← List.append_nil (Lexeme.doubled quote text), outcome_inLiteral]
  simp [outcome, finish, literalOf, bind, Except.bind, pure, Except.pure]

/-- A control character fails at the start or inside of a word. -/
theorem outcome_atControl {word more : List Char}
    (begins : Lexeme.BeginsWord mode lineStart word) (isControl : Text.isControl c = true)
    (notBlank : Text.isBlank c = false) :
    outcome mode (.between lineStart) found line (word ++ c :: more) =
      .error (.unsupportedCharacter c line) := by
  have notMark : mode.isMark c = false := by
    cases isMark : mode.isMark c with
    | false => rfl
    | true => simp [(Mode.plain_of_isMark isMark).2.1] at isControl
  cases word with
  | nil =>
    obtain ⟨plain, notStar, noQuote⟩ := Text.plain_of_blank_or_control (.inr isControl)
    have inGap : readInGap mode line c = .error (.unsupportedCharacter c line) := by
      simp [readInGap, Text.ne_newline_of_not_isBlank notBlank, notBlank, notMark, plain, noQuote,
        isControl]
    refine outcome_of_read_error ?_
    rw [read_between fun both => notStar both.2]
    simp [read, inGap, bind, Except.bind]
  | cons first word =>
    rw [List.cons_append, outcome_beginWord begins]
    refine outcome_of_read_error ?_
    simp [read, endsWord, notBlank, notMark, isControl]

end Scan

namespace Lexeme

open Scan

variable {mode : Mode} {text : String}

/-- Reading a text starts at the start of its first line. -/
theorem scan_eq_outcome (mode : Mode) (text : String) :
    scan mode text = outcome mode (.between true) [] 1 text.toList := rfl

/-- What the spelling of a text says about reading it. -/
inductive ReadsAs (mode : Mode) (text : List Char) : Except ScanError (List Lexeme) → Prop where
  /-- The text is spelled to its end. -/
  | lexemes {lexemes : List Lexeme} {ends : Bool}
    (spelled : Spells mode [] true text lexemes ends) :
    ReadsAs mode text (.ok lexemes)
  /-- The text is spelled up to a literal that is never closed. -/
  | openLiteral {lexemes : List Lexeme} {ends : Bool} {quote : Quote} {content : List Char}
    (spelled : Spells mode (quote.mark :: doubled quote content) true text lexemes ends) :
    ReadsAs mode text
      (.error (.unterminatedLiteral (literal quote content) (1 + text.count '\n')))
  /-- The text is spelled up to a control character, or to a word with one. -/
  | control {lexemes : List Lexeme} {ends : Bool} {c : Char} {before word more : List Char}
    (spelled : Spells mode (word ++ c :: more) true text lexemes ends)
    (begins : BeginsWord mode ends word) (isControl : Text.isControl c = true)
    (notBlank : Text.isBlank c = false) (place : text = before ++ c :: more) :
    ReadsAs mode text (.error (.unsupportedCharacter c (1 + before.count '\n')))

/-- The spelling of a text says what is read from it. -/
theorem scan_of_readsAs {result : Except ScanError (List Lexeme)}
    (reads : ReadsAs mode text.toList result) : scan mode text = result := by
  rw [scan_eq_outcome]
  cases reads with
  | lexemes spelled =>
    obtain ⟨before, _, found⟩ := outcome_spells spelled
    rw [found, outcome_done]
    simp
  | @openLiteral _ _ quote content spelled =>
    obtain ⟨before, parts, found⟩ := outcome_spells spelled
    rw [found, outcome_inLiteral_done, parts]
    simp [quote.mark_ne_newline, Nat.add_assoc]
  | @control _ _ c before word more spelled begins isControl notBlank place =>
    obtain ⟨spelling, parts, found⟩ := outcome_spells spelled
    have inLine : '\n' ∉ word := fun member =>
      Text.ne_newline_of_not_isBlank (begins.plain _ member).1 rfl
    obtain rfl : before = spelling ++ word := by
      rw [place, ← List.append_assoc] at parts
      exact List.append_cancel_right parts
    rw [found, outcome_atControl begins isControl notBlank]
    simp [List.count_eq_zero.mpr inLine]

/-- A text that is spelled until no further lexeme can be is read as these lexemes or not at all. -/
theorem exists_readsAs {chars rest : List Char} {lexemes : List Lexeme} {ends : Bool}
    (spelled : Spells mode rest true chars lexemes ends) (halts : Halts mode ends rest) :
    ∃ result, ReadsAs mode chars result ∧ ∀ others, result = .ok others → others = lexemes := by
  cases halts with
  | done => exact ⟨_, .lexemes spelled, fun others same => (Except.ok.inj same).symm⟩
  | inLiteral quote content => exact ⟨_, .openLiteral spelled, by simp⟩
  | @atControl word c more begins isControl notBlank =>
    obtain ⟨spelling, parts, _⟩ := outcome_spells spelled
    rw [← List.append_assoc] at parts
    exact ⟨_, .control spelled begins isControl notBlank parts, by simp⟩

/-- Every text has a spelling that says what is read from it. -/
theorem readsAs_scan (mode : Mode) (text : String) : ReadsAs mode text.toList (scan mode text) := by
  obtain ⟨rest, lexemes, ends, spelled, halts⟩ := exists_spells mode true text.toList
  obtain ⟨result, reads, _⟩ := exists_readsAs spelled halts
  rwa [scan_of_readsAs reads]

/-- What is read from a text that is spelled until no further lexeme can be. -/
theorem eq_of_scan_eq_ok {rest : List Char} {lexemes others : List Lexeme} {ends : Bool}
    (spelled : Spells mode rest true text.toList lexemes ends) (halts : Halts mode ends rest)
    (found : scan mode text = .ok others) : others = lexemes := by
  obtain ⟨result, reads, same⟩ := exists_readsAs spelled halts
  exact same others (by rw [← found, scan_of_readsAs reads])

/-- Lexemes are read from a text exactly when they spell it to its end. -/
theorem scan_eq_ok_iff {lexemes : List Lexeme} :
    scan mode text = .ok lexemes ↔ ∃ ends, Spells mode [] true text.toList lexemes ends := by
  constructor
  · intro found
    have reads := readsAs_scan mode text
    rw [found] at reads
    cases reads with
    | lexemes spelled => exact ⟨_, spelled⟩
  · rintro ⟨ends, spelled⟩
    exact scan_of_readsAs (.lexemes spelled)

/-- The lexemes of two texts with a line break between them are those of the first and then those of
the second. -/
theorem scan_append_line {first second : String} {lexemes others : List Lexeme}
    (left : scan mode first = .ok lexemes) (right : scan mode second = .ok others) :
    scan mode (first ++ "\n" ++ second) = .ok (lexemes ++ others) := by
  obtain ⟨_, spelled⟩ := scan_eq_ok_iff.mp left
  obtain ⟨ends, later⟩ := scan_eq_ok_iff.mp right
  refine scan_eq_ok_iff.mpr ⟨ends, ?_⟩
  have whole := spelled.append_line later
  simpa using whole

/-- Reading loses and invents nothing. The lexemes that are read spell the text, with nothing but
blanks and comments between them, and there are no others that do. Reading fails exactly when the
text ends inside a literal, or when a control character that is no blank stands outside literals and
comments; the failure names the literal or the character, and the line it is met on. -/
theorem scan_eq_iff_spells (mode : Mode) (text : String) :
    (∀ lexemes, scan mode text = .ok lexemes ↔
      ∃ ends, Spells mode [] true text.toList lexemes ends) ∧
    (∀ read line, scan mode text = .error (.unterminatedLiteral read line) ↔
      ∃ lexemes ends quote content,
        Spells mode (quote.mark :: doubled quote content) true text.toList lexemes ends ∧
          read = literal quote content ∧ line = 1 + text.toList.count '\n') ∧
    (∀ c line, scan mode text = .error (.unsupportedCharacter c line) ↔
      ∃ lexemes ends before word more,
        Spells mode (word ++ c :: more) true text.toList lexemes ends ∧
          BeginsWord mode ends word ∧ Text.isControl c = true ∧ Text.isBlank c = false ∧
          text.toList = before ++ c :: more ∧ line = 1 + before.count '\n') := by
  refine ⟨fun lexemes => scan_eq_ok_iff, fun read line => ?_, fun c line => ?_⟩
  · constructor
    · intro failed
      have reads := readsAs_scan mode text
      rw [failed] at reads
      cases reads with
      | openLiteral spelled => exact ⟨_, _, _, _, spelled, rfl, rfl⟩
    · rintro ⟨lexemes, ends, quote, content, spelled, rfl, rfl⟩
      exact scan_of_readsAs (.openLiteral spelled)
  · constructor
    · intro failed
      have reads := readsAs_scan mode text
      rw [failed] at reads
      cases reads with
      | control spelled begins isControl notBlank place =>
        exact ⟨_, _, _, _, _, spelled, begins, isControl, notBlank, place, rfl⟩
    · rintro ⟨lexemes, ends, before, word, more, spelled, begins, isControl, notBlank, place, rfl⟩
      exact scan_of_readsAs (.control spelled begins isControl notBlank place)

end Lexeme

end ReportLang
