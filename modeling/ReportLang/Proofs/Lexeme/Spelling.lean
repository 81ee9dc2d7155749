import ReportLang.Lexeme
import ReportLang.Text.Class

/-!
# How texts are spelled

A text is spelled by lexemes when it is a gap, the source of the first lexeme, a gap, the source of
the second one, and so on to a last gap. Gaps hold blanks and comments. What may stand at a place
depends on what follows: a comment runs to the end of its line, a word to the next blank or mark,
and a literal is not followed by its own quote. So `Gap` and `Lexeme.StandsBefore` are told the
characters after them, and `Spells` keeps the part of a text that is not yet spelled. Every text can
be spelled up to its end, or to a literal that is never closed, or to a control character.
-/

namespace ReportLang

/-- Whether a character starts a comment between lexemes: a double quote, or an asterisk as the
first character of a line. -/
def OpensComment (lineStart : Bool) (c : Char) : Prop :=
  c = '\x22' ∨ (lineStart = true ∧ c = '*')

/-- Blanks and comments before the characters `after`. The two truth values say whether the first
character is the first of a line, and whether the first one after the gap is. -/
inductive Gap (after : List Char) : Bool → List Char → Bool → Prop where
  /-- Nothing at all. -/
  | nothing (lineStart : Bool) : Gap after lineStart [] lineStart
  /-- A blank, after which a line starts if it is a line break. -/
  | blank {c : Char} {rest : List Char} {lineStart ends : Bool} (isBlank : Text.isBlank c = true)
    (later : Gap after (c == '\n') rest ends) : Gap after lineStart (c :: rest) ends
  /-- A comment up to the end of its line or of the text. -/
  | comment {c : Char} {body rest : List Char} {lineStart ends : Bool}
    (opens : OpensComment lineStart c) (inside : '\n' ∉ body)
    (stops : ∀ d, (rest ++ after).head? = some d → d = '\n')
    (later : Gap after false rest ends) : Gap after lineStart (c :: (body ++ rest)) ends

namespace Lexeme

/-- Whether a character can stand in a word. -/
def IsWordChar (mode : Mode) (c : Char) : Prop :=
  Text.isBlank c = false ∧ Text.isControl c = false ∧ mode.isMark c = false

/-- Whether characters belong to one word that starts with the first of them. -/
structure BeginsWord (mode : Mode) (lineStart : Bool) (chars : List Char) : Prop where
  /-- No blank, control character or mark is among them. -/
  plain : ∀ c ∈ chars, IsWordChar mode c
  /-- The first one opens neither a comment nor a literal. -/
  first : ∀ c, chars.head? = some c → ¬ OpensComment lineStart c ∧ Quote.ofMark? c = none

/-- Whether a lexeme can stand before the characters `rest`. The truth value says whether its first
character is the first of a line. -/
inductive StandsBefore (mode : Mode) (lineStart : Bool) : Lexeme → List Char → Prop where
  /-- A punctuation mark. -/
  | mark {c : Char} (isMark : mode.isMark c = true) (rest : List Char) :
    StandsBefore mode lineStart c.toString rest
  /-- A literal, which a second quote would not end. -/
  | literal (quote : Quote) (text : List Char) {rest : List Char}
    (ends : rest.head? ≠ some quote.mark) :
    StandsBefore mode lineStart (Lexeme.literal quote text) rest
  /-- A word that is as long as possible. -/
  | word {chars rest : List Char} (nonempty : chars ≠ [])
    (begins : BeginsWord mode lineStart chars)
    (maximal : ∀ c, rest.head? = some c → Text.isBlank c = true ∨ mode.isMark c = true) :
    StandsBefore mode lineStart (String.ofList chars) rest

end Lexeme

/-- Whether a text is spelled by lexemes, with gaps before and after each, up to the characters
`rest`. The two truth values say whether the first character of the text is the first of a line, and
whether the first of `rest` is. -/
inductive Spells (mode : Mode) (rest : List Char) :
    Bool → List Char → List Lexeme → Bool → Prop where
  /-- The last gap. -/
  | last {gap : List Char} {lineStart ends : Bool} (between : Gap rest lineStart gap ends) :
    Spells mode rest lineStart (gap ++ rest) [] ends
  /-- A gap, and the source of a lexeme after it. -/
  | next {gap more : List Char} {lexeme : Lexeme} {lexemes : List Lexeme}
    {lineStart middle ends : Bool}
    (between : Gap (lexeme.source.toList ++ more) lineStart gap middle)
    (stands : lexeme.StandsBefore mode middle more)
    (later : Spells mode rest false more lexemes ends) :
    Spells mode rest lineStart (gap ++ (lexeme.source.toList ++ more)) (lexeme :: lexemes) ends

/-- What can be left of a text when no further lexeme can be spelled. -/
inductive Halts (mode : Mode) (lineStart : Bool) : List Char → Prop where
  /-- The text ends. -/
  | done : Halts mode lineStart []
  /-- The text ends inside a literal. -/
  | inLiteral (quote : Quote) (text : List Char) :
    Halts mode lineStart (quote.mark :: Lexeme.doubled quote text)
  /-- A control character that is no blank stands at the start or inside of a word. -/
  | atControl {word : List Char} {c : Char} (more : List Char)
    (begins : Lexeme.BeginsWord mode lineStart word) (isControl : Text.isControl c = true)
    (notBlank : Text.isBlank c = false) : Halts mode lineStart (word ++ c :: more)

/-- A line break starts no comment. -/
theorem OpensComment.ne_newline {lineStart : Bool} {c : Char} (opens : OpensComment lineStart c) :
    c ≠ '\n' := by
  rcases opens with rfl | ⟨_, rfl⟩
  · decide
  · decide

/-- Punctuation marks start neither gaps nor other lexemes. -/
theorem Mode.plain_of_isMark {mode : Mode} {c : Char} (isMark : mode.isMark c = true) :
    Text.isBlank c = false ∧ Text.isControl c = false ∧ c ≠ '\x22' ∧ c ≠ '*' ∧
      Quote.ofMark? c = none := by
  have all : mode.punctuation.all fun mark => decide (Text.isBlank mark = false ∧
      Text.isControl mark = false ∧ mark ≠ '\x22' ∧ mark ≠ '*' ∧ Quote.ofMark? mark = none) := by
    cases mode with
    | statement => rfl
    | grammar => rfl
  exact of_decide_eq_true (List.all_eq_true.mp all c (List.contains_iff_mem.mp isMark))

/-- Blanks and control characters open neither comments nor literals. -/
theorem Text.plain_of_blank_or_control {c : Char}
    (space : Text.isBlank c = true ∨ Text.isControl c = true) :
    c ≠ '\x22' ∧ c ≠ '*' ∧ Quote.ofMark? c = none := by
  have apart : ['\x22', '*', Quote.character.mark, Quote.string.mark].all fun opener =>
      !(Text.isBlank opener || Text.isControl opener) := rfl
  have differs : ∀ opener ∈ ['\x22', '*', Quote.character.mark, Quote.string.mark], c ≠ opener := by
    rintro opener member rfl
    have plain := List.all_eq_true.mp apart c member
    simp only [Bool.not_eq_true', Bool.or_eq_false_iff] at plain
    simp [plain] at space
  refine ⟨differs _ (by simp), differs _ (by simp), ?_⟩
  rw [Quote.ofMark?, if_neg (differs _ (by simp)), if_neg (differs _ (by simp))]

/-- A line break is a blank. -/
theorem Text.ne_newline_of_not_isBlank {c : Char} (notBlank : Text.isBlank c = false) :
    c ≠ '\n' := by
  rintro rfl
  simp [Text.isBlank] at notBlank

/-- A mark is the one of its quoting style. -/
theorem Quote.mark_of_ofMark? {c : Char} {quote : Quote} (found : Quote.ofMark? c = some quote) :
    c = quote.mark := by
  unfold Quote.ofMark? at found
  split at found
  · rename_i same
    rw [same, Option.some.inj found]
  · split at found
    · rename_i same
      rw [same, Option.some.inj found]
    · simp at found

/-- The mark of a quoting style is told apart from the other one. -/
@[simp] theorem Quote.ofMark?_mark (quote : Quote) : Quote.ofMark? quote.mark = some quote := by
  cases quote with
  | character => rfl
  | string => rfl

/-- A line break is no quote. -/
theorem Quote.mark_ne_newline (quote : Quote) : quote.mark ≠ '\n' := by
  cases quote with
  | character => decide
  | string => decide

namespace Lexeme

/-- The source of a literal is its text between two quotes. -/
theorem source_literal (quote : Quote) (text : List Char) :
    (literal quote text).source.toList = quote.mark :: (doubled quote text ++ [quote.mark]) := by
  simp [source, quote?, literal]

/-- A lexeme that does not start with a quote is its own source. -/
theorem source_of_head {chars : List Char}
    (first : ∀ c, chars.head? = some c → Quote.ofMark? c = none) :
    source (String.ofList chars) = String.ofList chars := by
  have plain : quote? (String.ofList chars) = none := by
    rw [quote?, String.toList_ofList]
    cases head : chars.head? with
    | none => rfl
    | some c => simp [first c head]
  simp [source, plain]

/-- A mark is its own source. -/
theorem source_mark {mode : Mode} {c : Char} (isMark : mode.isMark c = true) :
    (source c.toString).toList = [c] := by
  have single : c.toString = String.ofList [c] := rfl
  rw [single, source_of_head]
  · rw [String.toList_ofList]
  · intro d same
    obtain rfl : c = d := by simpa using same
    exact (Mode.plain_of_isMark isMark).2.2.2.2

end Lexeme

section Composition

variable {mode : Mode} {after chars gap later rest : List Char} {lineStart middle ends : Bool}

/-- Two gaps in a row are one gap. -/
theorem Gap.append (first : Gap (later ++ after) lineStart gap middle)
    (second : Gap after middle later ends) : Gap after lineStart (gap ++ later) ends := by
  induction first with
  | nothing lineStart => exact second
  | blank isBlank _ ih => exact .blank isBlank (ih second)
  | comment opens inside stops _ ih =>
    rw [List.cons_append, List.append_assoc]
    exact .comment opens inside (by rwa [List.append_assoc]) (ih second)

/-- No lexemes spell nothing of a text. -/
theorem Spells.nothing (mode : Mode) (lineStart : Bool) (chars : List Char) :
    Spells mode chars lineStart chars [] lineStart :=
  .last (.nothing lineStart)

/-- A gap before a text that is spelled. -/
theorem Spells.skip {lexemes : List Lexeme} (first : Gap chars lineStart gap middle)
    (second : Spells mode rest middle chars lexemes ends) :
    Spells mode rest lineStart (gap ++ chars) lexemes ends := by
  cases second with
  | last between =>
    rw [← List.append_assoc]
    exact .last (first.append between)
  | next between stands more =>
    rw [← List.append_assoc]
    exact .next (first.append between) stands more

/-- A blank before a text that is spelled. -/
theorem Spells.blank {c : Char} {lexemes : List Lexeme} (isBlank : Text.isBlank c = true)
    (spelled : Spells mode rest (c == '\n') chars lexemes ends) :
    Spells mode rest lineStart (c :: chars) lexemes ends :=
  spelled.skip (.blank isBlank (.nothing _))

/-- A comment before a text that is spelled and starts with the end of the line. -/
theorem Spells.comment {c : Char} {body : List Char} {lexemes : List Lexeme}
    (opens : OpensComment lineStart c) (inside : '\n' ∉ body)
    (stops : ∀ d, chars.head? = some d → d = '\n')
    (spelled : Spells mode rest false chars lexemes ends) :
    Spells mode rest lineStart (c :: (body ++ chars)) lexemes ends := by
  have gap : Gap chars lineStart (c :: (body ++ [])) false :=
    .comment opens inside stops (.nothing false)
  rw [List.append_nil] at gap
  exact spelled.skip gap

/-- A lexeme before a text that is spelled. -/
theorem Spells.lexeme {lexeme : Lexeme} {lexemes : List Lexeme}
    (stands : lexeme.StandsBefore mode lineStart chars)
    (spelled : Spells mode rest false chars lexemes ends) :
    Spells mode rest lineStart (lexeme.source.toList ++ chars) (lexeme :: lexemes) ends :=
  .next (.nothing lineStart) stands spelled

/-- What a text starts with is what it started with before a line was added, or the line break. -/
theorem head?_append_line {c : Char} (head : (chars ++ '\n' :: later).head? = some c) :
    chars.head? = some c ∨ c = '\n' := by
  cases chars with
  | nil => exact .inr (Option.some.inj head).symm
  | cons d chars => exact .inl head

/-- A gap stays one when the text after it gets a further line. -/
theorem Gap.append_line (between : Gap after lineStart gap ends) (later : List Char) :
    Gap (after ++ '\n' :: later) lineStart gap ends := by
  induction between with
  | nothing lineStart => exact .nothing lineStart
  | blank isBlank _ ih => exact .blank isBlank ih
  | comment opens inside stops _ ih =>
    refine .comment opens inside (fun d head => ?_) ih
    rw [← List.append_assoc] at head
    exact (head?_append_line head).elim (stops d) id

/-- A lexeme can stand before a text with a further line. -/
theorem Lexeme.StandsBefore.append_line {lexeme : Lexeme}
    (stands : lexeme.StandsBefore mode lineStart rest) (later : List Char) :
    lexeme.StandsBefore mode lineStart (rest ++ '\n' :: later) := by
  cases stands with
  | mark isMark _ => exact .mark isMark _
  | literal quote text ends =>
    refine .literal quote text fun head => ?_
    exact (head?_append_line head).elim ends quote.mark_ne_newline
  | word nonempty begins maximal =>
    refine .word nonempty begins fun c head => ?_
    rcases head?_append_line head with before | rfl
    · exact maximal c before
    · exact .inl rfl

/-- Two texts with a line break between them are spelled by the lexemes of both. -/
theorem Spells.append_line {lexemes others : List Lexeme} {final : Bool}
    (first : Spells mode [] lineStart chars lexemes ends)
    (second : Spells mode rest true later others final) :
    Spells mode rest lineStart (chars ++ '\n' :: later) (lexemes ++ others) final := by
  induction first with
  | @last gap lineStart ends between =>
    rw [List.append_nil, List.nil_append]
    exact (second.blank rfl).skip (between.append_line later)
  | next between stands _ ih =>
    rw [List.append_assoc, List.append_assoc]
    refine .next ?_ (stands.append_line later) ih
    rw [← List.append_assoc]
    exact between.append_line later

end Composition

/-- What follows an opening quote is the text of a literal and its closing quote, or a text in which
the literal is never closed. -/
theorem Lexeme.literal_closed_or_open (quote : Quote) (chars : List Char) :
    (∃ text rest, chars = doubled quote text ++ quote.mark :: rest ∧
      rest.head? ≠ some quote.mark) ∨ ∃ text, chars = doubled quote text := by
  match chars with
  | [] => exact .inr ⟨[], rfl⟩
  | c :: rest =>
    by_cases closing : c = quote.mark
    · match rest with
      | [] => exact .inl ⟨[], [], by simp [doubled, closing], by simp⟩
      | d :: more =>
        by_cases twice : d = quote.mark
        · -- Two quotes stand for one, and the literal goes on after them.
          subst closing twice
          rcases literal_closed_or_open quote more with ⟨text, rest, rfl, ends⟩ | ⟨text, rfl⟩
          · exact .inl ⟨quote.mark :: text, rest, by simp [doubled], ends⟩
          · exact .inr ⟨quote.mark :: text, by simp [doubled]⟩
        · exact .inl ⟨[], d :: more, by simp [doubled, closing], by simpa using twice⟩
    · rcases literal_closed_or_open quote rest with ⟨text, more, rfl, ends⟩ | ⟨text, rfl⟩
      · exact .inl ⟨c :: text, more, by simp [doubled, closing], ends⟩
      · exact .inr ⟨c :: text, by simp [doubled, closing]⟩

/-- Characters of a kind at the start of a text are followed by its end or by another character. -/
theorem exists_run (kind : Char → Prop) (chars : List Char) :
    ∃ run rest, chars = run ++ rest ∧ (∀ c ∈ run, kind c) ∧
      ∀ c, rest.head? = some c → ¬ kind c := by
  induction chars with
  | nil => exact ⟨[], [], rfl, by simp, by simp⟩
  | cons c rest ih =>
    by_cases here : kind c
    · obtain ⟨run, more, rfl, inside, ends⟩ := ih
      exact ⟨c :: run, more, rfl, List.forall_mem_cons.mpr ⟨here, inside⟩, ends⟩
    · exact ⟨[], c :: rest, rfl, by simp, by simpa using here⟩

/-- Every text is spelled up to its end, to a literal that is never closed or to a control
character. -/
theorem exists_spells (mode : Mode) (lineStart : Bool) (chars : List Char) :
    ∃ rest lexemes ends, Spells mode rest lineStart chars lexemes ends ∧ Halts mode ends rest := by
  match chars with
  | [] => exact ⟨[], [], lineStart, .nothing mode lineStart [], .done⟩
  | c :: more =>
    by_cases blank : Text.isBlank c = true
    · obtain ⟨rest, lexemes, ends, spelled, halts⟩ := exists_spells mode (c == '\n') more
      exact ⟨rest, lexemes, ends, spelled.blank blank, halts⟩
    by_cases opens : OpensComment lineStart c
    · obtain ⟨body, line, rfl, inside, stops⟩ := exists_run (· ≠ '\n') more
      obtain ⟨rest, lexemes, ends, spelled, halts⟩ := exists_spells mode false line
      have noBreak : '\n' ∉ body := fun member => inside '\n' member rfl
      exact ⟨rest, lexemes, ends,
        spelled.comment opens noBreak fun d head => Decidable.not_not.mp (stops d head), halts⟩
    by_cases isMark : mode.isMark c = true
    · obtain ⟨rest, lexemes, ends, spelled, halts⟩ := exists_spells mode false more
      refine ⟨rest, c.toString :: lexemes, ends, ?_, halts⟩
      have whole : Spells mode rest lineStart _ _ ends := spelled.lexeme (.mark isMark more)
      rwa [Lexeme.source_mark isMark] at whole
    cases quoted : Quote.ofMark? c with
    | some quote =>
      obtain rfl := Quote.mark_of_ofMark? quoted
      rcases Lexeme.literal_closed_or_open quote more with ⟨text, line, rfl, closed⟩ | ⟨text, rfl⟩
      · obtain ⟨rest, lexemes, ends, spelled, halts⟩ := exists_spells mode false line
        refine ⟨rest, Lexeme.literal quote text :: lexemes, ends, ?_, halts⟩
        have whole : Spells mode rest lineStart _ _ ends :=
          spelled.lexeme (.literal quote text closed)
        rw [Lexeme.source_literal] at whole
        simpa using whole
      · exact ⟨_, [], lineStart, .nothing mode lineStart _, .inLiteral quote text⟩
    | none =>
      obtain ⟨word, line, same, inside, stops⟩ := exists_run (Lexeme.IsWordChar mode) (c :: more)
      have begins : Lexeme.BeginsWord mode lineStart word := by
        refine ⟨inside, fun d head => ?_⟩
        obtain rfl : c = d := by
          obtain ⟨tail, rfl⟩ := List.head?_eq_some_iff.mp head
          exact (List.cons.inj same).1
        exact ⟨opens, quoted⟩
      by_cases maximal : ∀ d, line.head? = some d → Text.isBlank d = true ∨ mode.isMark d = true
      · have nonempty : word ≠ [] := by
          rintro rfl
          have head : line.head? = some c := by simp [show line = c :: more from same.symm]
          rcases maximal c head with isBlank | mark
          · exact blank isBlank
          · exact isMark mark
        have shorter : line.length ≤ more.length := by
          have positive := List.length_pos_iff.mpr nonempty
          have total := congrArg List.length same
          rw [List.length_cons, List.length_append] at total
          omega
        obtain ⟨rest, lexemes, ends, spelled, halts⟩ := exists_spells mode false line
        refine ⟨rest, String.ofList word :: lexemes, ends, ?_, halts⟩
        have whole : Spells mode rest lineStart _ _ ends :=
          spelled.lexeme (.word nonempty begins maximal)
        rwa [Lexeme.source_of_head fun d head => (begins.first d head).2, String.toList_ofList,
          ← same] at whole
      · -- What ends the word is neither a blank nor a mark, so it is a control character.
        simp only [Classical.not_forall, not_or, Bool.not_eq_true] at maximal
        obtain ⟨d, head, notBlank, notMark⟩ := maximal
        obtain ⟨tail, rfl⟩ := List.head?_eq_some_iff.mp head
        have isControl : Text.isControl d = true := by
          cases control : Text.isControl d with
          | true => rfl
          | false => exact absurd ⟨notBlank, control, notMark⟩ (stops d head)
        rw [same]
        exact ⟨_, [], lineStart, .nothing mode lineStart _,
          .atControl tail begins isControl notBlank⟩
termination_by chars.length
decreasing_by
  all_goals
    subst_vars
    simp only [List.length_cons, List.length_append]
    omega

end ReportLang
