import ReportLang.Proofs.Lexeme.Scanning
import ReportLang.Proofs.Program.Stages
import ReportLang.Proofs.Statement.Chains
import ReportLang.Proofs.Text.LetterCase
import ReportLang.Proofs.Text.Numeral

/-!
# Sentences

A program as it is usually written: the lexemes of a statement with one blank between each two, a
period directly after the last one, and a blank before the next statement. Such a text has the
statements that are written, if its lexemes are literals and words of ASCII letters and digits.
-/

namespace ReportLang

namespace Lexeme

/-- ASCII letters and digits are characters of words, and they open nothing. -/
theorem isWordChar_of_isAlphanum {c : Char} (alphanumeric : c.isAlphanum = true) (mode : Mode)
    (lineStart : Bool) :
    IsWordChar mode c ∧ ¬ OpensComment lineStart c ∧ Quote.ofMark? c = none := by
  have ascii : c.toNat < 128 := by
    rcases Bool.or_eq_true_iff.mp alphanumeric with letter | digit
    · exact Text.ascii_of_isAlpha letter
    · have range := Text.toNat_of_isDigit digit
      omega
  obtain ⟨notBlank, notControl, notMark, notOther, noQuote, noStar, opensNothing⟩ :=
    Text.of_ascii (fun c => c.isAlphanum = true →
      Text.isBlank c = false ∧ Text.isControl c = false ∧ Mode.isMark .statement c = false ∧
        Mode.isMark .grammar c = false ∧ c ≠ '\x22' ∧ c ≠ '*' ∧ Quote.ofMark? c = none)
      (by decide) ascii alphanumeric
  refine ⟨⟨notBlank, notControl, ?_⟩, ?_, opensNothing⟩
  · cases mode with
    | statement => exact notMark
    | grammar => exact notOther
  · rintro (same | ⟨_, same⟩)
    · exact noQuote same
    · exact noStar same

/-- A word of ASCII letters and digits is no literal. -/
theorem quote?_of_isAlphanum {chars : List Char} (alphanumeric : chars.all Char.isAlphanum = true) :
    quote? (String.ofList chars) = none := by
  rw [quote?, String.toList_ofList, Option.bind_eq_none_iff]
  intro c head
  have member := List.all_eq_true.mp alphanumeric c (List.mem_of_mem_head? head)
  exact (isWordChar_of_isAlphanum member .statement true).2.2

/-- Whether a lexeme is read wherever it is written before a blank or a period, and ends no
statement. -/
structure StandsAlone (mode : Mode) (lexeme : Lexeme) : Prop where
  /-- It ends no statement and begins no chain. -/
  plain : lexeme ∉ Statement.separators
  /-- It can stand before a blank. -/
  beforeBlank : ∀ lineStart more, lexeme.StandsBefore mode lineStart (' ' :: more)
  /-- It can stand before a period. -/
  beforePeriod : ∀ lineStart more, lexeme.StandsBefore mode lineStart ('.' :: more)

/-- A period is a mark in every text. -/
theorem isMark_period (mode : Mode) : mode.isMark '.' = true := by
  cases mode with
  | statement => rfl
  | grammar => rfl

/-- A word of ASCII letters and digits is read wherever it is written. -/
theorem standsAlone_word {chars : List Char} (nonempty : chars ≠ [])
    (alphanumeric : chars.all Char.isAlphanum = true) (mode : Mode) :
    StandsAlone mode (String.ofList chars) := by
  have each (lineStart : Bool) {c : Char} (member : c ∈ chars) :=
    isWordChar_of_isAlphanum (List.all_eq_true.mp alphanumeric c member) mode lineStart
  have begins (lineStart : Bool) : BeginsWord mode lineStart chars :=
    ⟨fun c member => (each lineStart member).1,
      fun c head => (each lineStart (List.mem_of_mem_head? head)).2⟩
  constructor
  · intro among
    have marks : ∀ lexeme ∈ Statement.separators,
        lexeme.toList.all Char.isAlphanum = false := by decide
    have other := marks _ among
    rw [String.toList_ofList, alphanumeric] at other
    cases other
  · intro lineStart more
    refine .word nonempty (begins lineStart) fun c head => .inl ?_
    obtain rfl : ' ' = c := by simpa using head
    rfl
  · intro lineStart more
    refine .word nonempty (begins lineStart) fun c head => .inr ?_
    obtain rfl : '.' = c := by simpa using head
    exact isMark_period mode

/-- A literal is read wherever it is written. -/
theorem standsAlone_literal (quote : Quote) (text : List Char) (mode : Mode) :
    StandsAlone mode (Lexeme.literal quote text) := by
  have marks : ' ' ≠ quote.mark ∧ '.' ≠ quote.mark ∧ ∀ lexeme ∈ Statement.separators,
      lexeme.toList.head? ≠ some quote.mark := by
    cases quote with
    | character => decide
    | string => decide
  obtain ⟨noBlank, noPeriod, noSeparator⟩ := marks
  constructor
  · intro among
    exact noSeparator _ among (by simp [Lexeme.literal])
  · intro lineStart more
    exact .literal quote text (by simpa using noBlank)
  · intro lineStart more
    exact .literal quote text (by simpa using noPeriod)

/-- Lexemes as a sentence: a blank between each two, and a period directly after the last one. -/
def sentence (lexemes : List Lexeme) : String :=
  String.intercalate " " (lexemes.map source) ++ "."

/-- Sentences with a blank between each two. -/
def prose (sentences : List (List Lexeme)) : String :=
  String.intercalate " " (sentences.map sentence)

variable {mode : Mode}

/-- A sentence is spelled by its lexemes and a period. -/
theorem spells_sentence {rest chars : List Char} {lexemes others : List Lexeme}
    {ends : Bool} (nonempty : lexemes ≠ []) (alone : ∀ lexeme ∈ lexemes, StandsAlone mode lexeme)
    (later : Spells mode rest false chars others ends) (lineStart : Bool) :
    Spells mode rest lineStart ((sentence lexemes).toList ++ chars) (lexemes ++ "." :: others)
      ends := by
  induction lexemes generalizing lineStart with
  | nil => exact absurd rfl nonempty
  | cons lexeme lexemes ih =>
    obtain ⟨here, others⟩ := List.forall_mem_cons.mp alone
    cases lexemes with
    | nil =>
      have ended := Spells.lexeme (here.beforePeriod lineStart chars)
        (Spells.lexeme (.mark (isMark_period mode) chars) later)
      simpa [sentence] using ended
    | cons second lexemes =>
      have spelled := ih (by simp) others false
      have begun := Spells.lexeme (here.beforeBlank lineStart _) (spelled.blank (c := ' ') rfl)
      simpa [sentence] using begun

/-- Sentences are spelled by their lexemes, with a period after those of each. -/
theorem spells_prose {sentences : List (List Lexeme)} {lineStart : Bool}
    (nonempty : ∀ lexemes ∈ sentences, lexemes ≠ [])
    (alone : ∀ lexemes ∈ sentences, ∀ lexeme ∈ lexemes, StandsAlone mode lexeme) :
    ∃ ends, Spells mode [] lineStart (prose sentences).toList
      (sentences.flatMap (· ++ ["."])) ends := by
  induction sentences generalizing lineStart with
  | nil => exact ⟨lineStart, .nothing mode lineStart []⟩
  | cons lexemes sentences ih =>
    obtain ⟨some, others⟩ := List.forall_mem_cons.mp nonempty
    obtain ⟨here, later⟩ := List.forall_mem_cons.mp alone
    cases sentences with
    | nil =>
      have spelled := spells_sentence some here (.nothing mode false []) lineStart
      exact ⟨false, by simpa [prose] using spelled⟩
    | cons second sentences =>
      obtain ⟨ends, spelled⟩ := @ih false others later
      have begun := spells_sentence some here (spelled.blank (c := ' ') rfl) lineStart
      exact ⟨ends, by simpa [prose] using begun⟩

end Lexeme

/-- The statements of sentences are the sentences, with their words in lower case in a program. -/
theorem Program.statements_prose {mode : Mode} {sentences : List (List Lexeme)}
    (nonempty : ∀ lexemes ∈ sentences, lexemes ≠ [])
    (alone : ∀ lexemes ∈ sentences, ∀ lexeme ∈ lexemes, lexeme.StandsAlone mode) :
    statements mode (Lexeme.prose sentences) =
      .ok (sentences.map fun lexemes => ⟨lexemes.map (Statement.normal mode)⟩) := by
  obtain ⟨ends, spelled⟩ := Lexeme.spells_prose nonempty alone
  have segmented := Statement.segment_flatMap_period mode
    (fun lexemes among lexeme member => (alone lexemes among lexeme member).plain) []
  refine statements_eq_ok.mpr ⟨_, Lexeme.scan_eq_ok_iff.mpr ⟨ends, spelled⟩, ?_⟩
  have kept : sentences.filter (· ≠ []) = sentences :=
    List.filter_eq_self.mpr fun lexemes member => decide_eq_true (nonempty lexemes member)
  rw [List.append_nil, Statement.written, kept] at segmented
  rw [segmented]
  simp [Statement.segment, Statement.segmentFrom, Except.map, Statement.normal_eq_held]

end ReportLang
