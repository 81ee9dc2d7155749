import ReportLang.Proofs.Program.Sequence
import ReportLang.Proofs.Text.Delimiter

/-!
# Statements read back from their source

The lexemes of a statement can be read again from its source, since lower-casing leaves words words
and a literal is written with its quotes doubled. So a text and the sources of its statements, one
in a line, have the same statements. The exception are statements that start with an asterisk: at
the start of a line it makes a comment, and such a statement is never read back.
-/

namespace ReportLang

/-- A quote is a delimiter. -/
theorem Quote.isDelimiter_of_ofMark? {c : Char} {quote : Quote}
    (found : Quote.ofMark? c = some quote) : Text.isDelimiter c = true := by
  rw [Quote.mark_of_ofMark? found]
  cases quote with
  | character => decide
  | string => decide

namespace Lexeme

/-- Whether a lexeme is read back where a blank follows it: it ends no statement, it is held as it
is written, and it can stand there unless it looks like a comment. -/
structure IsReadBack (mode : Mode) (lexeme : Lexeme) : Prop where
  /-- It ends no statement and begins no chain. -/
  plain : lexeme ∉ Statement.separators
  /-- A statement holds it as it is. -/
  normal : Statement.normal mode lexeme = lexeme
  /-- It can stand before a blank, and at the start of a line unless it starts with an asterisk. -/
  stands : ∀ lineStart more, (lineStart = true → lexeme.toList.head? ≠ some '*') →
    lexeme.StandsBefore mode lineStart (' ' :: more)

/-- A word stays a word when it is lower-cased. -/
theorem BeginsWord.lower {chars : List Char} {lineStart otherStart : Bool}
    (begins : BeginsWord .statement lineStart chars)
    (notStarred : otherStart = true → (Text.lowerAfter [] chars).head? ≠ some '*') :
    BeginsWord .statement otherStart (Text.lowerAfter [] chars) := by
  have kept {c : Char} (member : c ∈ Text.lowerAfter [] chars) (delimiter : Text.isDelimiter c) :
      IsWordChar .statement c :=
    begins.plain c (Text.mem_of_mem_lowerAfter member delimiter)
  constructor
  · intro c member
    refine ⟨?_, ?_, ?_⟩
    · cases blank : Text.isBlank c with
      | false => rfl
      | true => simpa [blank] using (kept member (by simp [Text.isDelimiter, blank])).1
    · cases control : Text.isControl c with
      | false => rfl
      | true => simpa [control] using (kept member (by simp [Text.isDelimiter, control])).2.1
    · cases isMark : Mode.isMark .statement c with
      | false => rfl
      | true =>
        have delimiter : Text.isDelimiter c = true := by
          have all : (Mode.punctuation .statement).all Text.isDelimiter = true := rfl
          exact List.all_eq_true.mp all c (List.contains_iff_mem.mp isMark)
        simpa [isMark] using (kept member delimiter).2.2
  · intro c head
    constructor
    · rintro (rfl | ⟨start, rfl⟩)
      · have before := Text.head?_of_head?_lowerAfter head rfl
        exact (begins.first _ before).1 (.inl rfl)
      · exact notStarred start head
    · cases quoted : Quote.ofMark? c with
      | none => rfl
      | some quote =>
        have before := Text.head?_of_head?_lowerAfter head (Quote.isDelimiter_of_ofMark? quoted)
        simpa [quoted] using (begins.first c before).2

/-- A lexeme can stand before a blank instead of what followed it, and at the start of a line unless
it starts with an asterisk. -/
theorem StandsBefore.before_blank {mode : Mode} {lexeme : Lexeme} {lineStart otherStart : Bool}
    {rest : List Char} (stands : lexeme.StandsBefore mode lineStart rest)
    (notStarred : otherStart = true → lexeme.toList.head? ≠ some '*') (more : List Char) :
    lexeme.StandsBefore mode otherStart (' ' :: more) := by
  cases stands with
  | mark isMark _ => exact .mark isMark _
  | literal quote text _ =>
    refine .literal quote text ?_
    cases quote with
    | character => simp [Quote.mark]
    | string => simp [Quote.mark]
  | word nonempty begins _ =>
    refine .word nonempty ⟨begins.plain, fun c head => ⟨?_, (begins.first c head).2⟩⟩ ?_
    · rintro (rfl | ⟨start, rfl⟩)
      · exact (begins.first _ head).1 (.inl rfl)
      · exact notStarred start (by rwa [String.toList_ofList])
    · intro c head
      obtain rfl : ' ' = c := by simpa using head
      exact .inl rfl

/-- A word is no separator of statements in a program. -/
theorem BeginsWord.not_separator {chars : List Char} {lineStart : Bool}
    (begins : BeginsWord .statement lineStart chars) :
    String.ofList chars ∉ Statement.separators := by
  intro among
  have marks : ∀ lexeme ∈ Statement.separators,
      lexeme.toList.any (Mode.isMark .statement) = true := by decide
  obtain ⟨c, member, isMark⟩ := List.any_eq_true.mp (marks _ among)
  rw [String.toList_ofList] at member
  simp [(begins.plain c member).2.2] at isMark

/-- What a statement holds for a lexeme that stands in a text is read back. -/
theorem StandsBefore.isReadBack {mode : Mode} {lexeme : Lexeme} {lineStart : Bool}
    {rest : List Char} (stands : lexeme.StandsBefore mode lineStart rest)
    (plain : lexeme ∉ Statement.separators) : IsReadBack mode (Statement.normal mode lexeme) := by
  have asItIs (same : Statement.normal mode lexeme = lexeme) :
      IsReadBack mode (Statement.normal mode lexeme) := by
    rw [same]
    exact ⟨plain, same, fun _ more notStarred => stands.before_blank notStarred more⟩
  cases mode with
  | grammar => exact asItIs rfl
  | statement =>
    cases stands with
    | @mark c isMark _ =>
      have all : (Mode.punctuation .statement).map Char.toString ⊆ Statement.separators := by decide
      exact absurd (all (List.mem_map_of_mem (List.contains_iff_mem.mp isMark))) plain
    | literal quote text ends =>
      exact asItIs (by simp [Statement.normal, isLiteral, quote?, Lexeme.literal])
    | @word chars _ nonempty begins maximal =>
      have lowered {word : List Char} {start : Bool} (isWord : BeginsWord .statement start word) :
          Statement.normal .statement (String.ofList word) =
            String.ofList (Text.lowerAfter [] word) := by
        have notLiteral : isLiteral (String.ofList word) = false := by
          cases head : word.head? with
          | none => simp [isLiteral, quote?, head]
          | some c => simp [isLiteral, quote?, head, (isWord.first c head).2]
        simp [Statement.normal, notLiteral, Text.lower]
      -- What is lower-cased is a word again, so that it is lower-cased like the word it came from.
      have isWord : BeginsWord .statement false (Text.lowerAfter [] chars) :=
        begins.lower (by simp)
      rw [lowered begins]
      refine ⟨isWord.not_separator, ?_, fun otherStart more notStarred => ?_⟩
      · have twice := Text.lower_lower (String.ofList chars)
        simpa [lowered isWord, Text.lower] using twice
      · rw [String.toList_ofList] at notStarred
        refine .word (Text.lowerAfter_ne_nil nonempty) (begins.lower notStarred) fun c head => ?_
        obtain rfl : ' ' = c := by simpa using head
        exact .inl rfl

end Lexeme

/-- The lexemes that spell a text stand in it. -/
theorem Spells.stands {mode : Mode} {rest chars : List Char} {lineStart ends : Bool}
    {lexemes : List Lexeme} (spelled : Spells mode rest lineStart chars lexemes ends) :
    ∀ lexeme ∈ lexemes, ∃ start more, lexeme.StandsBefore mode start more := by
  induction spelled with
  | last between => simp
  | next between stands _ ih => exact List.forall_mem_cons.mpr ⟨⟨_, _, stands⟩, ih⟩

namespace Statement

/-- Whether a statement has lexemes, all of which are read back. -/
structure IsReadable (mode : Mode) (statement : Statement) : Prop where
  /-- There is a first lexeme. -/
  nonempty : statement.lexemes ≠ []
  /-- Every lexeme is read back. -/
  readBack : ∀ lexeme ∈ statement.lexemes, lexeme.IsReadBack mode

/-- Whether a statement starts with an asterisk, and so looks like a comment. -/
def IsStarred (statement : Statement) : Prop :=
  statement.keyword?.bind (·.toList.head?) = some '*'

/-- Whether a statement starts with an asterisk can be decided. -/
instance : DecidablePred IsStarred := fun statement =>
  inferInstanceAs (Decidable (statement.keyword?.bind (·.toList.head?) = some '*'))

variable {mode : Mode} {chain : Option (List Lexeme)} {body lexemes : List Lexeme}
  {statements : List Statement} {statement : Statement}

/-- A statement is put before others only if it has lexemes. -/
theorem mem_cons_iff : statement ∈ cons lexemes statements ↔
    (statement.lexemes = lexemes ∧ lexemes ≠ []) ∨ statement ∈ statements := by
  obtain ⟨held⟩ := statement
  cases lexemes with
  | nil => simp [cons]
  | cons lexeme lexemes => simp [cons]

/-- Statements hold lexemes that are read back, if what they are formed from does. -/
theorem Forms.isReadable (forms : Forms mode chain body lexemes statements)
    (held : ∀ lexeme ∈ chain.getD [] ++ body, lexeme.IsReadBack mode)
    (stand : ∀ lexeme ∈ lexemes, lexeme ∉ separators → (normal mode lexeme).IsReadBack mode) :
    ∀ statement ∈ statements, statement.IsReadable mode := by
  induction forms with
  | done => simp
  | colon _ ih => exact ih (by simpa using held) (List.forall_mem_cons.mp stand).2
  | @comma start body rest statements _ ih =>
    intro statement member
    rcases mem_cons_iff.mp member with ⟨same, nonempty⟩ | later
    · exact ⟨same ▸ nonempty, same ▸ held⟩
    · refine ih ?_ (List.forall_mem_cons.mp stand).2 statement later
      intro lexeme among
      exact held lexeme (List.mem_append_left _ (by simpa using among))
  | period _ ih =>
    intro statement member
    rcases mem_cons_iff.mp member with ⟨same, nonempty⟩ | later
    · exact ⟨same ▸ nonempty, same ▸ held⟩
    · exact ih (by simp) (List.forall_mem_cons.mp stand).2 statement later
  | lexeme plain _ ih =>
    obtain ⟨here, later⟩ := List.forall_mem_cons.mp stand
    refine ih ?_ later
    rw [← List.append_assoc, List.forall_mem_append]
    exact ⟨held, by simpa using here plain⟩

/-- Every statement of a text is read back lexeme by lexeme. -/
theorem isReadable_of_statements {text : String} {found : List Statement}
    (read : Program.statements mode text = .ok found) :
    ∀ statement ∈ found, statement.IsReadable mode := by
  obtain ⟨lexemes, scanned, segmented⟩ := Program.statements_eq_ok.mp read
  obtain ⟨_, spelled⟩ := Lexeme.scan_eq_ok_iff.mp scanned
  refine (segment_eq_ok_iff.mp segmented).isReadable (by simp) fun lexeme member plain => ?_
  obtain ⟨_, _, stands⟩ := spelled.stands lexeme member
  exact stands.isReadBack plain

/-- The characters of the source of a statement. -/
theorem toList_source (statement : Statement) : statement.source.toList =
    (statement.lexemes.flatMap fun lexeme => lexeme.source.toList ++ [' ']) ++ ['.'] := by
  simp [source, String.toList_join, List.flatMap_map]

/-- Lexemes that are read back and a period spell the source that is written for them. -/
theorem spells_source {lineStart : Bool}
    (readBack : ∀ lexeme ∈ lexemes, lexeme.IsReadBack mode)
    (notStarred : lineStart = true → lexemes.head?.bind (·.toList.head?) ≠ some '*') :
    Spells mode [] lineStart
      ((lexemes.flatMap fun lexeme => lexeme.source.toList ++ [' ']) ++ ['.'])
      (lexemes ++ ["."]) false := by
  induction lexemes generalizing lineStart with
  | nil =>
    have isMark : mode.isMark '.' = true := by
      cases mode with
      | statement => rfl
      | grammar => rfl
    exact Spells.lexeme (.mark isMark []) (.nothing mode false [])
  | cons lexeme lexemes ih =>
    obtain ⟨here, later⟩ := List.forall_mem_cons.mp readBack
    have spelled : Spells mode [] false _ (lexemes ++ ["."]) false := ih later (by simp)
    have whole := Spells.lexeme (here.stands lineStart _ notStarred) (spelled.blank (c := ' ') rfl)
    simpa using whole

/-- Lexemes that are read back and a period form one statement. -/
theorem forms_of_readBack (readBack : ∀ lexeme ∈ lexemes, lexeme.IsReadBack mode)
    (nonempty : body ++ lexemes ≠ []) :
    Forms mode none body (lexemes ++ ["."]) [⟨body ++ lexemes⟩] := by
  induction lexemes generalizing body with
  | nil =>
    have single : [⟨body ++ []⟩] = cons (Option.getD none [] ++ body) [] := by
      simpa [cons] using nonempty
    rw [single]
    exact .period .done
  | cons lexeme lexemes ih =>
    obtain ⟨here, later⟩ := List.forall_mem_cons.mp readBack
    refine .lexeme here.plain ?_
    rw [here.normal]
    have formed : Forms mode none (body ++ [lexeme]) (lexemes ++ ["."]) _ := ih later (by simp)
    simpa using formed

/-- A statement that does not start with an asterisk is read back from its source. -/
theorem IsReadable.statements_source (readable : statement.IsReadable mode)
    (notStarred : ¬ statement.IsStarred) :
    Program.statements mode statement.source = .ok [statement] := by
  refine Program.statements_eq_ok.mpr ⟨statement.lexemes ++ ["."], ?_, ?_⟩
  · refine Lexeme.scan_eq_ok_iff.mpr ⟨false, ?_⟩
    rw [toList_source]
    exact spells_source readable.readBack fun _ => notStarred
  · exact segment_eq_ok_iff.mpr
      (forms_of_readBack readable.readBack (by simpa using readable.nonempty))

end Statement

section LineBreaks

variable {mode : Mode} {lexemes : List Lexeme}

/-- How many line breaks lexemes hold. -/
def Lexeme.lineBreaks (lexemes : List Lexeme) : Nat :=
  (lexemes.flatMap String.toList).count '\n'

/-- No lexemes hold no line breaks. -/
@[simp] theorem Lexeme.lineBreaks_nil : lineBreaks [] = 0 := rfl

/-- The line breaks of a first lexeme are added to those of the others. -/
@[simp] theorem Lexeme.lineBreaks_cons (lexeme : Lexeme) (lexemes : List Lexeme) :
    lineBreaks (lexeme :: lexemes) = lexeme.toList.count '\n' + lineBreaks lexemes := by
  simp [lineBreaks]

/-- The line breaks of lexemes in a row are added up. -/
@[simp] theorem Lexeme.lineBreaks_append (first second : List Lexeme) :
    lineBreaks (first ++ second) = lineBreaks first + lineBreaks second := by
  simp [lineBreaks]

/-- Lexemes in one line hold no line breaks. -/
theorem Lexeme.lineBreaks_eq_zero (inLine : ∀ lexeme ∈ lexemes, '\n' ∉ lexeme.toList) :
    lineBreaks lexemes = 0 := by
  induction lexemes with
  | nil => rfl
  | cons lexeme lexemes ih =>
    obtain ⟨here, later⟩ := List.forall_mem_cons.mp inLine
    rw [lineBreaks_cons, List.count_eq_zero.mpr here, ih later]

/-- Doubling the quotes in a literal adds no line breaks. -/
theorem Lexeme.count_newline_doubled (quote : Quote) (text : List Char) :
    (doubled quote text).count '\n' = text.count '\n' := by
  induction text with
  | nil => rfl
  | cons c text ih =>
    rw [doubled] at ih ⊢
    rw [List.flatMap_cons, List.count_append, ih, List.count_cons]
    by_cases same : c = quote.mark
    · simp [same, quote.mark_ne_newline]
    · by_cases newline : c = '\n'
      · simp [newline, quote.mark_ne_newline.symm, Nat.add_comm]
      · simp [same, newline]

/-- The source of a lexeme has as many line breaks as the lexeme. -/
theorem Lexeme.count_newline_source (lexeme : Lexeme) :
    lexeme.source.toList.count '\n' = lexeme.toList.count '\n' := by
  unfold source
  split
  · rename_i quote quoted
    obtain ⟨c, head, mark⟩ := Option.bind_eq_some_iff.mp quoted
    obtain ⟨text, chars⟩ := List.head?_eq_some_iff.mp head
    rw [Quote.mark_of_ofMark? mark] at chars
    simp [chars, quote.mark_ne_newline, count_newline_doubled]
  · rfl

/-- The source of a statement has as many line breaks as its lexemes. -/
theorem Statement.count_newline_source (statement : Statement) :
    statement.source.toList.count '\n' = Lexeme.lineBreaks statement.lexemes := by
  rw [toList_source]
  induction statement.lexemes with
  | nil => rfl
  | cons lexeme lexemes ih => simpa [Lexeme.count_newline_source, Nat.add_assoc] using ih

/-- Lexemes hold no line breaks but those of the text they spell. -/
theorem Spells.lineBreaks_le {rest chars : List Char} {lineStart ends : Bool}
    (spelled : Spells mode rest lineStart chars lexemes ends) :
    Lexeme.lineBreaks lexemes ≤ chars.count '\n' := by
  induction spelled with
  | last between => exact Nat.zero_le _
  | next between stands _ ih =>
    rw [Lexeme.lineBreaks_cons, List.count_append, List.count_append, Lexeme.count_newline_source]
    omega

/-- A statement holds a lexeme with no further line breaks. -/
theorem Statement.count_newline_normal_le (mode : Mode) (lexeme : Lexeme) :
    (normal mode lexeme).toList.count '\n' ≤ lexeme.toList.count '\n' := by
  unfold normal
  split
  · rw [Text.lower, String.toList_ofList]
    exact Text.count_newline_lowerAfter_le [] lexeme.toList
  · exact Nat.le_refl _

/-- A statement holds no line breaks but those of the lexemes it is formed from. -/
theorem Statement.Forms.lineBreaks_le {chain : Option (List Lexeme)} {body : List Lexeme}
    {statements : List Statement} (forms : Forms mode chain body lexemes statements) :
    ∀ statement ∈ statements, Lexeme.lineBreaks statement.lexemes ≤
      Lexeme.lineBreaks (chain.getD []) + Lexeme.lineBreaks body + Lexeme.lineBreaks lexemes := by
  induction forms with
  | done => simp
  | colon _ ih =>
    intro statement member
    have bound := ih statement member
    simp only [Option.getD_some, Lexeme.lineBreaks_nil, Lexeme.lineBreaks_cons] at bound ⊢
    omega
  | comma _ ih =>
    intro statement member
    rw [Lexeme.lineBreaks_cons]
    rcases mem_cons_iff.mp member with ⟨same, _⟩ | later
    · rw [same, Lexeme.lineBreaks_append, Option.getD_some]
      omega
    · have bound := ih statement later
      rw [Lexeme.lineBreaks_nil] at bound
      omega
  | period _ ih =>
    intro statement member
    rw [Lexeme.lineBreaks_cons]
    rcases mem_cons_iff.mp member with ⟨same, _⟩ | later
    · rw [same, Lexeme.lineBreaks_append]
      omega
    · have bound := ih statement later
      simp only [Option.getD_none, Lexeme.lineBreaks_nil] at bound
      omega
  | @lexeme chain body rest lexeme statements plain _ ih =>
    intro statement member
    have bound := ih statement member
    have lowered := count_newline_normal_le mode lexeme
    simp only [Lexeme.lineBreaks_append, Lexeme.lineBreaks_cons, Lexeme.lineBreaks_nil] at bound ⊢
    omega

end LineBreaks

namespace Statement

variable {mode : Mode} {statement : Statement}

/-- The source of a statement that starts with an asterisk starts with it. -/
theorem IsStarred.toList_source (starred : statement.IsStarred) :
    ∃ more, statement.source.toList = '*' :: more := by
  obtain ⟨lexeme, keyword, head⟩ := Option.bind_eq_some_iff.mp starred
  obtain ⟨lexemes, form⟩ := List.head?_eq_some_iff.mp keyword
  obtain ⟨chars, first⟩ := List.head?_eq_some_iff.mp head
  have same : lexeme.source = lexeme := by
    have plain : lexeme.quote? = none := by
      rw [Lexeme.quote?, head]
      rfl
    simp [Lexeme.source, plain]
  rw [Statement.toList_source, form, List.flatMap_cons, same, first]
  exact ⟨_, rfl⟩

/-- A statement in one line that starts with an asterisk is a comment when it is read again. -/
theorem IsStarred.statements_source (starred : statement.IsStarred)
    (inLine : '\n' ∉ statement.source.toList) :
    Program.statements mode statement.source = .ok [] := by
  obtain ⟨more, chars⟩ := starred.toList_source
  refine Program.statements_eq_ok.mpr ⟨[], Lexeme.scan_eq_ok_iff.mpr ⟨false, ?_⟩, rfl⟩
  rw [chars, List.mem_cons, not_or] at inLine
  have nothing : Spells mode [] false [] [] false := .nothing mode false []
  have comment := nothing.comment (.inr ⟨rfl, rfl⟩) inLine.2 (by simp)
  rwa [List.append_nil, ← chars] at comment

/-- A statement that starts with an asterisk is not read back from its source: its first line is a
comment, and the other lines have fewer line breaks than the statement. -/
theorem IsStarred.statements_source_ne (starred : statement.IsStarred) :
    Program.statements mode statement.source ≠ .ok [statement] := by
  intro read
  obtain ⟨more, chars⟩ := starred.toList_source
  obtain ⟨body, line, rfl, inside, stops⟩ := exists_run (· ≠ '\n') more
  have noBreak : '\n' ∉ body := fun member => inside '\n' member rfl
  cases line with
  | nil =>
    have inLine : '\n' ∉ statement.source.toList := by simp [chars, noBreak]
    simp [starred.statements_source inLine] at read
  | cons d later =>
    obtain rfl : d = '\n' := Decidable.not_not.mp (stops d rfl)
    -- What is read is what the lines after the comment spell, with one line break fewer.
    obtain ⟨lexemes, scanned, segmented⟩ := Program.statements_eq_ok.mp read
    obtain ⟨rest, others, ends, spelled, halts⟩ := exists_spells mode true later
    have whole : Spells mode rest true statement.source.toList others ends := by
      rw [chars]
      exact (spelled.blank rfl).comment (.inr ⟨rfl, rfl⟩) noBreak (by simp)
    obtain rfl : lexemes = others := Lexeme.eq_of_scan_eq_ok whole halts scanned
    have formed := (segment_eq_ok_iff.mp segmented).lineBreaks_le statement (by simp)
    have fewer := spelled.lineBreaks_le
    have all := statement.count_newline_source
    rw [chars, ← List.cons_append, List.count_append, List.count_cons_self] at all
    simp only [Option.getD_none, Lexeme.lineBreaks_nil] at formed
    omega

end Statement

namespace Program

open Statement

/-- The sources of statements that do not start with an asterisk, one in a line, are read back. -/
theorem statements_intercalate_source {mode : Mode} {found : List Statement}
    (readable : ∀ statement ∈ found, statement.IsReadable mode)
    (notStarred : ∀ statement ∈ found, ¬ statement.IsStarred) :
    statements mode (String.intercalate "\n" (found.map source)) = .ok found := by
  match found with
  | [] => rfl
  | [statement] =>
    rw [List.map_singleton, String.intercalate_singleton]
    exact (readable statement (by simp)).statements_source (notStarred statement (by simp))
  | first :: second :: later =>
    obtain ⟨here, others⟩ := List.forall_mem_cons.mp readable
    obtain ⟨plain, othersPlain⟩ := List.forall_mem_cons.mp notStarred
    rw [List.map_cons, List.map_cons, String.intercalate_cons_cons, ← List.map_cons]
    exact statements_append_line (here.statements_source plain)
      (statements_intercalate_source others othersPlain)

/-- The statements of a text are read back from their sources, one in a line, if none of them starts
with an asterisk. A statement alone is read back exactly when it does not start with an asterisk;
one that does and stands in one line is read as a comment, with no statement left. -/
theorem statements_source_roundtrip {mode : Mode} {text : String} {found : List Statement}
    (read : statements mode text = .ok found) :
    ((∀ statement ∈ found, ¬ statement.IsStarred) →
      statements mode (String.intercalate "\n" (found.map source)) = .ok found) ∧
    ∀ statement ∈ found,
      (statements mode statement.source = .ok [statement] ↔ ¬ statement.IsStarred) ∧
      (statement.IsStarred → (∀ lexeme ∈ statement.lexemes, '\n' ∉ lexeme.toList) →
        statements mode statement.source = .ok []) := by
  have readable := isReadable_of_statements read
  refine ⟨statements_intercalate_source readable, fun statement member => ⟨⟨?_, ?_⟩, ?_⟩⟩
  · exact fun again starred => starred.statements_source_ne again
  · exact (readable statement member).statements_source
  · intro starred inLine
    refine starred.statements_source (List.count_eq_zero.mp ?_)
    rw [count_newline_source]
    exact Lexeme.lineBreaks_eq_zero inLine

/-- Literals with a quote, a line break and a period are read back from a chain; a statement that
starts with an asterisk is not. -/
theorem statements_source_roundtrip_literals :
    statements .statement "WRITE: 'it''s\n.', `x`." =
      .ok [⟨["write", "'it's\n."]⟩, ⟨["write", "`x"]⟩] ∧
    statements .statement "write 'it''s\n.' .\nwrite `x` ." =
      .ok [⟨["write", "'it's\n."]⟩, ⟨["write", "`x"]⟩] ∧
    statements .statement " *A 'it''s'." = .ok [⟨["*a", "'it's"]⟩] ∧
    statements .statement "*a 'it''s' ." = .ok [] := by
  have literals : statements .statement "WRITE: 'it''s\n.', `x`." =
      .ok [⟨["write", "'it's\n."]⟩, ⟨["write", "`x"]⟩] :=
    statements_eq_ok.mpr ⟨["WRITE", ":", "'it's\n.", ",", "`x", "."], by decide,
      by decide⟩
  have starred : statements .statement " *A 'it''s'." = .ok [⟨["*a", "'it's"]⟩] :=
    statements_eq_ok.mpr ⟨["*A", "'it's", "."], by decide, by decide⟩
  have again := (statements_source_roundtrip literals).1 (by decide)
  have comment := ((statements_source_roundtrip starred).2 ⟨["*a", "'it's"]⟩ (by simp)).2
    (by decide) (by decide)
  exact ⟨literals, again, starred, comment⟩

end Program

end ReportLang
