import Mathlib.Algebra.Group.Nat.Defs
import ReportLang.Proofs.Command.Reading
import ReportLang.Proofs.Program.Sequence
import ReportLang.Proofs.Screen.Rows
import ReportLang.Proofs.Session.FixedNumber

/-!
# Numbers of fixed length from text to report

A program declares a number of fixed length with a value and writes it. It is followed from its text
to the report: the text is prose, its statements are parsed, the commands stand on their own, and
the run ends with the number on the screen, unless the declaration fails or the number has more
places than a text can be filled up to.
-/

namespace ReportLang

open ReportLang.Update (bind_apply)

namespace Program

/-- A program that declares a number of fixed length with a value, and writes it. -/
def fixedNumberText (length value : Nat) : String :=
  "REPORT 'n'. DATA n TYPE n LENGTH " ++ toString length ++ " VALUE " ++ toString value ++
    ". WRITE n."

/-- The lexemes of the program, for each statement. -/
def fixedNumberLexemes (length value : Lexeme) : List (List Lexeme) :=
  [["REPORT", Lexeme.literal .character ['n']],
    ["DATA", "n", "TYPE", "n", "LENGTH", length, "VALUE", value], ["WRITE", "n"]]

/-- The instructions of the program. -/
def fixedNumberProgram (length value : Nat) : List Instruction :=
  [.simple ⟨"report", [("title", .single (Lexeme.literal .character ['n']))]⟩,
    .simple ⟨"data", Session.fixedNumber "n" length value⟩,
    .simple ⟨"write", [("source", .single "n")]⟩]

section Reading

variable {length value : Lexeme}

/-- The text is written as prose if its numerals are their own sources. -/
theorem prose_fixedNumberLexemes (ownLength : length.source = length)
    (ownValue : value.source = value) :
    Lexeme.prose (fixedNumberLexemes length value) =
      "REPORT 'n'. DATA n TYPE n LENGTH " ++ length ++ " VALUE " ++ value ++ ". WRITE n." := by
  have sources : Lexeme.source "REPORT" = "REPORT" ∧
      Lexeme.source (Lexeme.literal .character ['n']) = "'n'" ∧ Lexeme.source "DATA" = "DATA" ∧
      Lexeme.source "n" = "n" ∧ Lexeme.source "TYPE" = "TYPE" ∧
      Lexeme.source "LENGTH" = "LENGTH" ∧ Lexeme.source "VALUE" = "VALUE" ∧
      Lexeme.source "WRITE" = "WRITE" := by
    decide
  simp only [Lexeme.prose, fixedNumberLexemes, Lexeme.sentence, List.map_cons, List.map_nil,
    ownLength, ownValue, sources]
  simp [← String.toList_inj]

/-- Every lexeme is read where it is written, if the numerals are. -/
theorem standsAlone_fixedNumberLexemes (lengthStands : length.StandsAlone .statement)
    (valueStands : value.StandsAlone .statement) :
    ∀ lexemes ∈ fixedNumberLexemes length value, ∀ lexeme ∈ lexemes,
      lexeme.StandsAlone .statement := by
  have words : ∀ lexeme ∈ ["REPORT", "DATA", "n", "TYPE", "LENGTH", "VALUE", "WRITE"],
      Lexeme.StandsAlone .statement lexeme := by
    intro lexeme member
    have plain : ∀ lexeme ∈ ["REPORT", "DATA", "n", "TYPE", "LENGTH", "VALUE", "WRITE"],
        lexeme.toList ≠ [] ∧ lexeme.toList.all Char.isAlphanum = true := by decide
    obtain ⟨nonempty, alphanumeric⟩ := plain lexeme member
    have stands := Lexeme.standsAlone_word nonempty alphanumeric .statement
    rwa [String.ofList_toList] at stands
  have title := Lexeme.standsAlone_literal .character ['n'] .statement
  simp only [List.forall_mem_cons] at words
  simp [fixedNumberLexemes, words, title, lengthStands, valueStands]

/-- The words of the program are held in lower case. -/
theorem normal_fixedNumberLexemes (ownLength : Statement.normal .statement length = length)
    (ownValue : Statement.normal .statement value = value) :
    (fixedNumberLexemes length value).map (·.map (Statement.normal .statement)) =
      [["report", Lexeme.literal .character ['n']],
        ["data", "n", "type", "n", "length", length, "value", value], ["write", "n"]] := by
  have normals : Statement.normal .statement "REPORT" = "report" ∧
      Statement.normal .statement (Lexeme.literal .character ['n']) =
        Lexeme.literal .character ['n'] ∧ Statement.normal .statement "DATA" = "data" ∧
      Statement.normal .statement "n" = "n" ∧ Statement.normal .statement "TYPE" = "type" ∧
      Statement.normal .statement "LENGTH" = "length" ∧
      Statement.normal .statement "VALUE" = "value" ∧
      Statement.normal .statement "WRITE" = "write" := by
    decide
  simp only [fixedNumberLexemes, List.map_cons, List.map_nil, ownLength, ownValue, normals]

end Reading

/-- The statements of the program. -/
theorem statements_fixedNumberText (length value : Nat) :
    statements .statement (fixedNumberText length value) =
      .ok [⟨["report", Lexeme.literal .character ['n']]⟩,
        ⟨["data", "n", "type", "n", "length", toString length, "value", toString value]⟩,
        ⟨["write", "n"]⟩] := by
  have text := prose_fixedNumberLexemes (Lexeme.source_toString length)
    (Lexeme.source_toString value)
  have held := normal_fixedNumberLexemes (Lexeme.normal_toString .statement length)
    (Lexeme.normal_toString .statement value)
  have stands := standsAlone_fixedNumberLexemes (Lexeme.standsAlone_toString length .statement)
    (Lexeme.standsAlone_toString value .statement)
  have read := statements_prose (by simp [fixedNumberLexemes]) stands
  have split : ((fixedNumberLexemes (toString length) (toString value)).map fun lexemes =>
      (⟨lexemes.map (Statement.normal .statement)⟩ : Statement)) =
        ((fixedNumberLexemes (toString length) (toString value)).map
          (·.map (Statement.normal .statement))).map Statement.mk := by
    rw [List.map_map]
    rfl
  rw [text, split, held] at read
  exact read

/-- The instructions of the program. -/
theorem instructions_fixedNumberText (length value : Nat) :
    instructions Grammar.builtin (fixedNumberText length value) =
      .ok (fixedNumberProgram length value) := by
  have title : Lexeme.literal .character ['n'] ≠ "=" := by decide
  have parsed := @Statement.parse_data "n" (by decide) (by decide) "n" (toString length)
    (toString value)
  have commands : commands Grammar.builtin (fixedNumberText length value) =
      .ok [⟨"report", [("title", .single (Lexeme.literal .character ['n']))]⟩,
        ⟨"data", Session.fixedNumber "n" length value⟩, ⟨"write", [("source", .single "n")]⟩] := by
    refine commands_eq_ok.mpr ⟨_, statements_fixedNumberText length value, ?_⟩
    rw [Statement.parseAll, List.mapM_cons, Statement.parse_report title, List.mapM_cons, parsed,
      List.mapM_cons, Statement.parse_write (by decide) (by decide)]
    rfl
  exact instructions_eq_ok.mpr ⟨_, commands, rfl⟩

section Running

variable {length value : Nat}

/-- The environment with the variable alone. -/
def fixedNumberEnvironment (length value : Nat) : Environment where
  bindings := [⟨"n", Ty.numericText length, .number (Ty.numericText length) value, false⟩]
  index := [("n", 0)]
  types := []

/-- The session in which the variable is declared. -/
def titledSession (width height : Nat) : Session :=
  { Session.start width height with title := some "n" }

/-- The title is given on a screen that stays as it is. -/
theorem execute_title (host : Host) (width height : Nat) :
    Session.execute host
        (.simple ⟨"report", [("title", .single (Lexeme.literal .character ['n']))]⟩)
        (Session.start width height) = (.ok .proceed, titledSession width height) := by
  rfl

/-- The variable is declared if its value fits. -/
theorem execute_declaration (positive : 1 ≤ length) (below : length < Text.naturalBound)
    (inRange : (value : Int) ≤ Text.integerMax) (host : Host) (width height : Nat) :
    Session.execute host (.simple ⟨"data", Session.fixedNumber "n" length value⟩)
        (titledSession width height) =
      if (toString value).length ≤ length then
        (.ok .proceed, { titledSession width height with
          environment := fixedNumberEnvironment length value })
      else
        (.error (.value (.tooLong (.ofInteger value) (Ty.numericText length) length)),
          titledSession width height) := by
  have plain : '(' ∉ (Text.lower "n").toList := by decide
  have name : Text.lower "n" = "n" := by decide
  have declared := @Session.declare_fixedNumber host (titledSession width height) "n" length value
    plain positive below inRange
  rw [name] at declared
  show (Session.declare host .plain (Session.fixedNumber "n" length value) >>= fun _ =>
    pure Signal.proceed) (titledSession width height) = _
  by_cases fits : (toString value).length ≤ length
  · rw [if_pos fits] at declared ⊢
    rw [bind_apply, declared]
    rfl
  · rw [if_neg fits] at declared ⊢
    rw [bind_apply, declared]

/-- How writing the variable ends in a session: its value is written with zeros in front, unless it
has more places than a text can be filled up to. -/
def writeFixedNumber (length value : Nat) (session : Session) :
    Except RunError Signal × Session :=
  if length ≤ Text.maxWidth then
    (.ok .proceed, { session with
      screen := (session.screen.write (Text.zeroPadded length (toString value))).advance })
  else (.error (.crash (.widthOutOfRange length)), session)

/-- The value of the variable is written, with zeros in front. -/
theorem execute_write (host : Host) (session : Session)
    (held : session.environment = fixedNumberEnvironment length value) :
    Session.execute host (.simple ⟨"write", [("source", .single "n")]⟩) session =
      writeFixedNumber length value session := by
  have found : session.environment.find? "n" = some
      ⟨"n", Ty.numericText length, .number (Ty.numericText length) value, false⟩ := by
    rw [held]
    rfl
  have path : Lexeme.path "n" = ("n", []) := by decide
  have given := @Session.operand_variable host session "n" "n" _ (by decide) (by decide) path
    (by decide) found
  have shown : (Value.number (Ty.numericText length) value).toText false =
      Text.zeroFilled length (toString value) := rfl
  show (Session.write host [("source", .single "n")] >>= fun _ => pure Signal.proceed) session = _
  unfold writeFixedNumber
  by_cases inside : length ≤ Text.maxWidth
  · rw [Text.zeroFilled, if_pos inside] at shown
    rw [if_pos inside, bind_apply, Session.write_value given shown]
    rfl
  · rw [Text.zeroFilled, if_neg inside] at shown
    rw [if_neg inside, bind_apply, Session.write_value_of_crash given shown]

/-- The program ends as writing the variable does if the value fits, and fails at the declaration
otherwise. -/
theorem executeAll_fixedNumberProgram (positive : 1 ≤ length) (below : length < Text.naturalBound)
    (inRange : (value : Int) ≤ Text.integerMax) (host : Host) (width height : Nat) :
    Session.executeAll host (fixedNumberProgram length value) (Session.start width height) =
      if (toString value).length ≤ length then
        writeFixedNumber length value { titledSession width height with
          environment := fixedNumberEnvironment length value }
      else
        (.error (.value (.tooLong (.ofInteger value) (Ty.numericText length) length)),
          titledSession width height) := by
  have declared := execute_declaration positive below inRange host width height
  rw [fixedNumberProgram, Session.executeAll_cons_of_ok (execute_title host width height)]
  by_cases fits : (toString value).length ≤ length
  · rw [if_pos fits] at declared ⊢
    have written := @execute_write length value host { titledSession width height with
      environment := fixedNumberEnvironment length value } rfl
    rw [Session.executeAll_cons_of_ok declared]
    unfold writeFixedNumber at written ⊢
    by_cases inside : length ≤ Text.maxWidth
    · rw [if_pos inside] at written ⊢
      rw [Session.executeAll_cons_of_ok written]
      rfl
    · rw [if_neg inside] at written ⊢
      exact Session.executeAll_cons_of_error written
  · rw [if_neg fits] at declared ⊢
    exact Session.executeAll_cons_of_error declared

end Running

/-- The result of the program: a report and the variable, the failure of the declaration, or a crash
if the number has more places than a text can be filled up to. -/
theorem interpret_fixedNumberText {length value : Nat} (positive : 1 ≤ length)
    (below : length < Text.naturalBound) (inRange : (value : Int) ≤ Text.integerMax)
    (host : Host) (config : Config) :
    interpret Grammar.builtin host config (fixedNumberText length value) =
      if (toString value).length ≤ length then
        if length ≤ Text.maxWidth then
          .ok ⟨Report.ofScreen "n" ((Screen.blank config.width config.height).write
            (Text.zeroPadded length (toString value))).advance,
              fixedNumberEnvironment length value⟩
        else .error (.run (.crash (.widthOutOfRange length)))
      else
        .error (.run (.value (.tooLong (.ofInteger value) (Ty.numericText length) length))) := by
  have ran := executeAll_fixedNumberProgram positive below inRange host config.width config.height
  have starts : checkStart (fixedNumberProgram length value) = .ok () := rfl
  rw [interpret_of_instructions (instructions_fixedNumberText length value)]
  by_cases fits : (toString value).length ≤ length
  · rw [if_pos fits] at ran ⊢
    unfold writeFixedNumber at ran
    by_cases inside : length ≤ Text.maxWidth
    · rw [if_pos inside] at ran ⊢
      have outcome := run_of_executeAll starts ran
      simp only [titledSession, Option.getD_some] at outcome
      simp only [outcome, Result.mapError_ok]
      rfl
    · rw [if_neg inside] at ran ⊢
      rw [run_of_executeAll_error starts ran]
      rfl
  · rw [if_neg fits] at ran ⊢
    rw [run_of_executeAll_error starts ran]
    rfl

/-- A program that declares a number of fixed length with a value and writes it succeeds exactly
when the value has no more digits than the length, and the length is at most 65535. The rows of the
report, read one after the other, are then the digits with zeros in front up to the length, and
blanks behind them, whatever the screen; and the number is the only variable. If the value has more
digits than the length, the failure is that of a value that is too long. If the length is larger,
and less than `2 ^ 64`, writing the number is a crash. -/
theorem interpret_fixedNumber (host : Host) (config : Config) {length value : Nat}
    (positive : 1 ≤ length) (below : length < 2 ^ 64) (inRange : value ≤ 2 ^ 63 - 1) :
    ((∃ execution, interpret Grammar.builtin host config (fixedNumberText length value) =
        .ok execution) ↔ (toString value).length ≤ length ∧ length ≤ 65535) ∧
    (∀ execution, interpret Grammar.builtin host config (fixedNumberText length value) =
        .ok execution →
      (∃ blanks, execution.report.lines.flatMap String.toList =
        List.replicate (length - (toString value).length) '0' ++ (toString value).toList ++
          List.replicate blanks ' ') ∧
      execution.environment.bindings = [⟨"n", .elementary .numericText (some length),
        .number (.elementary .numericText (some length)) value, false⟩]) ∧
    (length < (toString value).length → ∃ fault diagnostic,
      interpret Grammar.builtin host config (fixedNumberText length value) = .error fault ∧
        fault.diagnostic? = some diagnostic ∧ diagnostic.kind = .lengthOverflow) ∧
    ((toString value).length ≤ length → 65535 < length →
      interpret Grammar.builtin host config (fixedNumberText length value) =
        .error (.run (.crash (.widthOutOfRange length)))) := by
  have valueInRange : (value : Int) ≤ Text.integerMax := by
    unfold Text.integerMax
    omega
  have done := interpret_fixedNumberText positive below valueInRange host config
  have bound : Text.maxWidth = 65535 := rfl
  by_cases fits : (toString value).length ≤ length
  · rw [if_pos fits] at done
    by_cases inside : length ≤ Text.maxWidth
    · rw [if_pos inside] at done
      obtain ⟨blanks, rows⟩ := Screen.flatMap_lines_zeroPadded config.width config.height length
        (toString value)
      refine ⟨⟨fun _ => ⟨fits, inside⟩, fun _ => ⟨_, done⟩⟩, fun execution ended => ?_,
        fun longer => ?_, fun _ larger => ?_⟩
      · obtain rfl := Except.ok.inj (done.symm.trans ended)
        simp only [Report.ofScreen]
        exact ⟨⟨blanks, rows⟩, rfl⟩
      · omega
      · omega
    · rw [if_neg inside] at done
      refine ⟨⟨fun ⟨execution, ended⟩ => ?_, fun within => absurd within.2 inside⟩,
        fun execution ended => ?_, fun longer => ?_, fun _ _ => done⟩
      · cases done.symm.trans ended
      · cases done.symm.trans ended
      · omega
  · rw [if_neg fits] at done
    refine ⟨⟨fun ⟨execution, ended⟩ => ?_, fun within => absurd within.1 fits⟩,
      fun execution ended => ?_, fun _ => ⟨_, _, done, rfl, rfl⟩,
      fun within _ => absurd within fits⟩
    · cases done.symm.trans ended
    · cases done.symm.trans ended

/-- The number 42 is written in five places on a screen of three columns; one place is too few. -/
theorem interpret_fixedNumber_places :
    let host := Host.standard fun asked => ⟨2024, 2, 29, 12, 0, asked⟩
    (∃ execution blanks, interpret Grammar.builtin host ⟨3, 1⟩
        "REPORT 'n'. DATA n TYPE n LENGTH 5 VALUE 42. WRITE n." = .ok execution ∧
      execution.report.lines.flatMap String.toList =
        ['0', '0', '0', '4', '2'] ++ List.replicate blanks ' ') ∧
    ∃ fault diagnostic, interpret Grammar.builtin host ⟨3, 1⟩
        "REPORT 'n'. DATA n TYPE n LENGTH 1 VALUE 42. WRITE n." = .error fault ∧
      fault.diagnostic? = some diagnostic ∧ diagnostic.kind = .lengthOverflow := by
  intro host
  have fitting : fixedNumberText 5 42 =
      "REPORT 'n'. DATA n TYPE n LENGTH 5 VALUE 42. WRITE n." := by decide
  have longer : fixedNumberText 1 42 =
      "REPORT 'n'. DATA n TYPE n LENGTH 1 VALUE 42. WRITE n." := by decide
  have filled : List.replicate (5 - (toString 42).length) '0' ++ (toString 42).toList =
      ['0', '0', '0', '4', '2'] := by
    decide
  rw [← fitting, ← longer, ← filled]
  obtain ⟨succeeds, shows, _⟩ := interpret_fixedNumber host ⟨3, 1⟩
    (by decide : 1 ≤ 5) (by decide) (by decide : 42 ≤ 2 ^ 63 - 1)
  obtain ⟨_, _, fails, _⟩ := interpret_fixedNumber host ⟨3, 1⟩
    (by decide : 1 ≤ 1) (by decide) (by decide : 42 ≤ 2 ^ 63 - 1)
  obtain ⟨execution, done⟩ := succeeds.mpr (by decide)
  obtain ⟨⟨blanks, rows⟩, _⟩ := shows execution done
  exact ⟨⟨execution, blanks, done, rows⟩, fails (by decide)⟩

/-- The number 5 fits in 65536 places, but a program that writes it so crashes. -/
theorem interpret_fixedNumber_crash :
    (toString 5).length ≤ 65536 ∧
    interpret Grammar.builtin (.standard fun asked => ⟨2024, 2, 29, 12, 0, asked⟩) ⟨1023, 1⟩
        "REPORT 'n'. DATA n TYPE n LENGTH 65536 VALUE 5. WRITE n." =
      .error (.run (.crash (.widthOutOfRange 65536))) := by
  have text : fixedNumberText 65536 5 =
      "REPORT 'n'. DATA n TYPE n LENGTH 65536 VALUE 5. WRITE n." := by decide
  have fits : (toString 5).length ≤ 65536 := by decide
  refine ⟨fits, ?_⟩
  rw [← text, interpret_fixedNumberText (by decide) (by decide) (by decide), if_pos fits,
    if_neg (by decide)]

end Program

end ReportLang
