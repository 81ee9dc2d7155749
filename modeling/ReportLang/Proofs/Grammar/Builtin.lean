import ReportLang.Grammar.Builtin
import ReportLang.Proofs.Statement.Source

/-!
# The description of the built-in grammar

The grammar of report programs is what its description is loaded as. In a description every
definition has a line to itself; lines that are empty or comments may stand anywhere between them,
and hold no lexemes. The lines of the definitions are the sources of statements, so they are read
back as those; and what the statements define is computed: a table in another order, but with the
same rule under every name.
-/

namespace ReportLang

section Equality

mutual

/-- Whether two bodies are equal can be decided. -/
def Node.decEq : (node other : Node) → Decidable (node = other)
  | .literal text, .literal other => decidable_of_iff (text = other) (by simp)
  | .terminal word, .terminal other => decidable_of_iff (word = other) (by simp)
  | .sequence nodes, .sequence others =>
    have := decEqAll nodes others
    decidable_of_iff (nodes = others) (by simp)
  | .optional inner, .optional other =>
    have := decEq inner other
    decidable_of_iff (inner = other) (by simp)
  | .alternation left right, .alternation other later =>
    have := decEq left other
    have := decEq right later
    decidable_of_iff (left = other ∧ right = later) (by simp)
  | .literal _, .terminal _ | .literal _, .sequence _ | .literal _, .optional _
  | .literal _, .alternation .. | .terminal _, .literal _ | .terminal _, .sequence _
  | .terminal _, .optional _ | .terminal _, .alternation .. | .sequence _, .literal _
  | .sequence _, .terminal _ | .sequence _, .optional _ | .sequence _, .alternation ..
  | .optional _, .literal _ | .optional _, .terminal _ | .optional _, .sequence _
  | .optional _, .alternation .. | .alternation .., .literal _ | .alternation .., .terminal _
  | .alternation .., .sequence _ | .alternation .., .optional _ => isFalse nofun

/-- Whether several bodies are equal can be decided. -/
def Node.decEqAll : (nodes others : List Node) → Decidable (nodes = others)
  | [], [] => isTrue rfl
  | node :: rest, other :: later =>
    have := decEq node other
    have := decEqAll rest later
    decidable_of_iff (node = other ∧ rest = later) (by simp)
  | [], _ :: _ | _ :: _, [] => isFalse nofun

end

/-- Bodies can be compared. -/
instance : DecidableEq Node := Node.decEq

/-- Rules can be compared. -/
instance : DecidableEq Rule := fun rule other =>
  decidable_of_iff (rule.node = other.node ∧ rule.isStatement = other.isStatement)
    (Rule.mk.injEq ..).symm.to_iff

end Equality

namespace Lexeme

/-- Whether a lexeme is a mark, a literal or a word of a description, and no separator. -/
def isPlain (lexeme : Lexeme) : Bool :=
  !Statement.separators.contains lexeme &&
    match lexeme.toList with
    | [] => false
    | c :: rest =>
      (Quote.ofMark? c).isSome || (Mode.isMark .grammar c && rest.isEmpty) ||
        (c != '\x22' && (c :: rest).all fun d =>
          !Text.isBlank d && !Text.isControl d && !Mode.isMark .grammar d)

/-- A mark, a literal or a word of a description is read back. -/
theorem isReadBack_of_isPlain {lexeme : Lexeme} (plain : isPlain lexeme = true) :
    IsReadBack .grammar lexeme := by
  unfold isPlain at plain
  obtain ⟨noSeparator, shape⟩ := Bool.and_eq_true_iff.mp plain
  refine ⟨by simpa using noSeparator, rfl, fun lineStart more notStarred => ?_⟩
  cases chars : lexeme.toList with
  | nil => simp [chars] at shape
  | cons c rest =>
    obtain rfl : lexeme = String.ofList (c :: rest) := by rw [← chars, String.ofList_toList]
    rw [chars] at shape notStarred
    cases opens : Quote.ofMark? c with
    | some quote =>
      obtain rfl := Quote.mark_of_ofMark? opens
      refine .literal quote rest ?_
      cases quote with
      | character => simp [Quote.mark]
      | string => simp [Quote.mark]
    | none =>
      simp only [opens, Option.isSome_none, Bool.false_or, Bool.or_eq_true, Bool.and_eq_true,
        List.isEmpty_iff, List.all_eq_true, Bool.not_eq_true', bne_iff_ne] at shape
      rcases shape with ⟨isMark, rfl⟩ | ⟨noComment, each⟩
      · exact .mark isMark _
      refine .word (by simp) ⟨fun d member => ?_, fun d first => ?_⟩ fun d next => ?_
      · exact ⟨(each d member).1.1, (each d member).1.2, (each d member).2⟩
      · obtain rfl : c = d := by simpa using first
        refine ⟨?_, opens⟩
        rintro (same | ⟨start, rfl⟩)
        · exact noComment same
        · exact notStarred start rfl
      · obtain rfl : ' ' = d := by simpa using next
        exact .inl rfl

end Lexeme

namespace Program

/-- Whether a line is empty or a comment. -/
def isRemark (line : String) : Bool :=
  match line.toList with
  | [] => true
  | c :: _ => c == '*' || c == '\x22'

/-- A line that is empty or a comment has no statements. -/
theorem statements_of_isRemark {mode : Mode} {line : String} (remark : isRemark line = true)
    (inLine : '\n' ∉ line.toList) : statements mode line = .ok [] := by
  refine statements_eq_ok.mpr ⟨[], ?_, rfl⟩
  unfold isRemark at remark
  rw [Lexeme.scan_eq_ok_iff]
  cases chars : line.toList with
  | nil => exact ⟨true, .nothing mode true []⟩
  | cons c rest =>
    rw [chars] at remark inLine
    have opens : OpensComment true c := by simpa [OpensComment, or_comm] using remark
    have inside : '\n' ∉ rest := fun member => inLine (List.mem_cons_of_mem _ member)
    have spelled := Spells.comment opens inside (by simp) (.nothing mode false [])
    rw [List.append_nil] at spelled
    exact ⟨false, spelled⟩

/-- Lines have the statements whose sources are left when those that are empty or comments are left
out. -/
theorem statements_lines {mode : Mode} {lines : List String} {found : List Statement}
    (inLine : ∀ line ∈ lines, '\n' ∉ line.toList)
    (sources : lines.filter (!isRemark ·) = found.map Statement.source)
    (readable : ∀ statement ∈ found, statement.IsReadable mode ∧ ¬ statement.IsStarred) :
    statements mode (String.intercalate "\n" lines) = .ok found := by
  induction lines generalizing found with
  | nil =>
    obtain rfl : found = [] := by simpa using sources.symm
    rfl
  | cons line rest ih =>
    obtain ⟨here, later⟩ := List.forall_mem_cons.mp inLine
    obtain ⟨first, others, rfl, read, follow⟩ : ∃ first others, found = first ++ others ∧
        statements mode line = .ok first ∧
          rest.filter (!isRemark ·) = others.map Statement.source := by
      cases remark : isRemark line with
      | true =>
        refine ⟨[], found, rfl, statements_of_isRemark remark here, ?_⟩
        simpa [remark] using sources
      | false =>
        rw [List.filter_cons_of_pos (by simp [remark])] at sources
        obtain ⟨statement, others, rfl, rfl, follow⟩ := List.map_eq_cons_iff.mp sources.symm
        obtain ⟨plain, notStarred⟩ := readable statement List.mem_cons_self
        exact ⟨[statement], others, rfl, plain.statements_source notStarred, follow.symm⟩
    have others := ih later follow fun statement member =>
      readable statement (List.mem_append_right _ member)
    cases rest with
    | nil =>
      obtain rfl := Except.ok.inj others
      rwa [String.intercalate_singleton, List.append_nil]
    | cons next rest =>
      rw [String.intercalate_cons_cons]
      exact statements_append_line read others

end Program

namespace Grammar

/-- The statements of the description of the grammar of report programs, one for each definition. -/
def description : List Statement :=
  [⟨["typing", "TYPE", "type", "[", "LENGTH", "length", "]"]⟩,
    ⟨["typing", "LIKE", "like"]⟩,
    ⟨["decl", "name", "[", "typing", "]", "[", "VALUE", "value", "]"]⟩,
    ⟨["REPORT", "title", "[", "LINE-SIZE", "width", "]"]⟩,
    ⟨["DATA", "BEGIN", "OF", "+begin", "struc"]⟩,
    ⟨["DATA", "END", "OF", "+end", "struc"]⟩,
    ⟨["DATA", "decl"]⟩,
    ⟨["CONSTANTS", "BEGIN", "OF", "+begin", "struc"]⟩,
    ⟨["CONSTANTS", "END", "OF", "+end", "struc"]⟩,
    ⟨["CONSTANTS", "decl"]⟩,
    ⟨["TYPES", "BEGIN", "OF", "+begin", "struc"]⟩,
    ⟨["TYPES", "END", "OF", "+end", "struc"]⟩,
    ⟨["TYPES", "decl"]⟩,
    ⟨["MOVE", "source", "TO", "dest"]⟩,
    ⟨["COMPUTE", "dest", "\x27=", "source", "[", "operator", "operand", "]"]⟩,
    ⟨["ADD", "source", "TO", "dest"]⟩,
    ⟨["SUBTRACT", "source", "FROM", "dest"]⟩,
    ⟨["MULTIPLY", "dest", "BY", "source"]⟩,
    ⟨["DIVIDE", "dest", "BY", "source"]⟩,
    ⟨["target", "dest"]⟩,
    ⟨["CLEAR", "targets:target+"]⟩,
    ⟨["WRITE", "\x7b", "at:<at>", "[", "source", "]", "\x7d", "|", "source", "[", "NO-ZERO",
      "+no_zero", "]", "[", "NO-GAP", "+no_gap", "]"]⟩,
    ⟨["ULINE"]⟩,
    ⟨["SKIP", "TO", "LINE", "+to_line", "line"]⟩,
    ⟨["SKIP", "[", "lines", "]"]⟩,
    ⟨["NEW-LINE"]⟩,
    ⟨["cond", "[", "NOT", "+negate", "]", "clause", "[", "logic", "]"]⟩,
    ⟨["clause", "\x27(", "sub:cond", "\x27)"]⟩,
    ⟨["clause", "left", "IS", "[", "NOT", "+not_initial", "]", "INITIAL", "+initial"]⟩,
    ⟨["clause", "left", "op", "right"]⟩,
    ⟨["logic", "AND", "+and", "next:cond"]⟩,
    ⟨["logic", "OR", "+or", "next:cond"]⟩,
    ⟨["logic", "EQUIV", "+equiv", "next:cond"]⟩,
    ⟨["IF", "cond"]⟩,
    ⟨["ELSEIF", "cond"]⟩,
    ⟨["ELSE"]⟩,
    ⟨["ENDIF"]⟩,
    ⟨["WHILE", "cond"]⟩,
    ⟨["ENDWHILE"]⟩,
    ⟨["DO", "[", "count", "TIMES", "]"]⟩,
    ⟨["ENDDO"]⟩,
    ⟨["EXIT"]⟩,
    ⟨["CONTINUE"]⟩,
    ⟨["ASSERT", "cond"]⟩]

/-- A lookup has the same answer in two tables if every entry of either is looked up alike. -/
theorem lookup_eq_of_entries {table other : List (String × Rule)}
    (entries : ∀ entry ∈ table ++ other, other.lookup entry.1 = table.lookup entry.1)
    (name : String) : table.lookup name = other.lookup name := by
  cases found : table.lookup name with
  | some rule =>
    obtain ⟨before, after, rfl, _⟩ := List.lookup_eq_some_iff.mp found
    exact found.symm.trans (entries (name, rule) (by simp)).symm
  | none =>
    cases known : other.lookup name with
    | none => rfl
    | some rule =>
      obtain ⟨before, after, rfl, _⟩ := List.lookup_eq_some_iff.mp known
      have same := entries (name, rule) (by simp)
      rw [known, found] at same
      exact same.symm

/-- A text is loaded as what its statements define, if all references are resolved. -/
theorem load_of_statements {text : String} {statements : List Statement} {grammar : Grammar}
    (read : Program.statements .grammar text = .ok statements)
    (defined : statements.foldlM defineStatement empty = .ok grammar)
    (resolved : grammar.checkReferences = .ok ()) : load text = .ok grammar := by
  obtain ⟨lexemes, scanned, segmented⟩ := Program.statements_eq_ok.mp read
  rw [load, scanned]
  simp [segmented, defined, resolved, bind, Except.bind, pure, Except.pure]

/-- Whether a grammar has the names of the one of report programs, all its references are resolved,
and every entry of either table is looked up alike. -/
def isBuiltin (grammar : Grammar) : Bool :=
  grammar.checkReferences.isOk && grammar.names == builtin.names &&
    (grammar.table ++ builtin.table).all fun entry =>
      builtin.table.lookup entry.1 == grammar.table.lookup entry.1

/-- The statements of the description hold lexemes that are read back. -/
theorem description_isPlain :
    (description.all fun statement => !statement.lexemes.isEmpty && !decide statement.IsStarred &&
      statement.lexemes.all Lexeme.isPlain) = true := by
  decide +kernel

/-- The statements of the description define the grammar of report programs. -/
theorem description_defines :
    (description.foldlM defineStatement empty).toOption.any isBuiltin = true := by
  decide +kernel

/-- The grammar of report programs is what its description is loaded as, wherever empty lines and
comments stand between the definitions: it has the same names in the same order, and the same rule
under every name. -/
theorem load_description {lines : List String} (inLine : ∀ line ∈ lines, '\n' ∉ line.toList)
    (definitions : lines.filter (!Program.isRemark ·) = description.map Statement.source) :
    ∃ grammar, load (String.intercalate "\n" lines) = .ok grammar ∧
      grammar.names = builtin.names ∧ ∀ name, grammar.find? name = builtin.find? name := by
  have readable : ∀ statement ∈ description,
      statement.IsReadable .grammar ∧ ¬ statement.IsStarred := by
    intro statement member
    have plain := List.all_eq_true.mp description_isPlain statement member
    simp only [Bool.and_eq_true, Bool.not_eq_true', List.isEmpty_eq_false_iff,
      decide_eq_false_iff_not, List.all_eq_true] at plain
    exact ⟨⟨plain.1.1, fun lexeme among => Lexeme.isReadBack_of_isPlain (plain.2 lexeme among)⟩,
      plain.1.2⟩
  have computed := description_defines
  rw [Option.any_eq_true] at computed
  obtain ⟨grammar, defined, same⟩ := computed
  simp only [isBuiltin, Bool.and_eq_true, beq_iff_eq, List.all_eq_true] at same
  obtain ⟨⟨checked, names⟩, entries⟩ := same
  have resolved : grammar.checkReferences = .ok () := by
    cases references : grammar.checkReferences with
    | error failure => rw [references] at checked; cases checked
    | ok _ => rfl
  exact ⟨grammar, load_of_statements (Program.statements_lines inLine definitions readable)
    (Result.eq_ok_of_toOption defined) resolved, names,
    fun name => lookup_eq_of_entries entries (Text.lower name)⟩

end Grammar

end ReportLang
