import ReportLang.Proofs.Result
import ReportLang.Statement

/-!
# How lexemes form statements

`Statement.Forms` says what lexemes form statements, one lexeme at a time: it follows the chain and
the statement that are begun, and leaves out what cannot be. Lexemes form statements exactly when
segmenting them succeeds, so that what segmenting yields is proved by induction on how it is formed.
-/

namespace ReportLang.Statement

/-- The lexemes that end a statement or begin a chain. -/
def separators : List Lexeme := [":", ",", "."]

/-- Whether lexemes form statements, within a chain that starts with the given lexemes if there is
one, and after the given lexemes of the current statement. -/
inductive Forms (mode : Mode) :
    Option (List Lexeme) → List Lexeme → List Lexeme → List Statement → Prop where
  /-- Nothing is begun at the end. -/
  | done : Forms mode none [] [] []
  /-- A colon makes what stands before it the start of a chain. -/
  | colon {body rest : List Lexeme} {statements : List Statement}
    (later : Forms mode (some body) [] rest statements) :
    Forms mode none body (":" :: rest) statements
  /-- A comma ends one statement of a chain. -/
  | comma {start body rest : List Lexeme} {statements : List Statement}
    (later : Forms mode (some start) [] rest statements) :
    Forms mode (some start) body ("," :: rest) (cons (start ++ body) statements)
  /-- A period ends a statement, and the chain it belongs to. -/
  | period {chain : Option (List Lexeme)} {body rest : List Lexeme} {statements : List Statement}
    (later : Forms mode none [] rest statements) :
    Forms mode chain body ("." :: rest) (cons (chain.getD [] ++ body) statements)
  /-- Any other lexeme is added to the current statement. -/
  | lexeme {chain : Option (List Lexeme)} {body rest : List Lexeme} {lexeme : Lexeme}
    {statements : List Statement} (plain : lexeme ∉ separators)
    (later : Forms mode chain (body ++ [normal mode lexeme]) rest statements) :
    Forms mode chain body (lexeme :: rest) statements

variable {mode : Mode} {chain : Option (List Lexeme)} {body lexemes others : List Lexeme}
  {statements later : List Statement}

/-- What segmenting yields is formed by the lexemes. -/
theorem forms_of_segmentFrom (formed : segmentFrom mode chain body lexemes = .ok statements) :
    Forms mode chain body lexemes statements := by
  induction lexemes generalizing chain body statements with
  | nil =>
    cases chain with
    | some start => simp [segmentFrom] at formed
    | none =>
      cases body with
      | cons first body => simp [segmentFrom] at formed
      | nil =>
        obtain rfl : [] = statements := by simpa [segmentFrom] using formed
        exact .done
  | cons lexeme lexemes ih =>
    rw [segmentFrom] at formed
    split at formed
    · rename_i isColon
      subst isColon
      cases chain with
      | some start => simp at formed
      | none => exact .colon (ih formed)
    · rename_i noColon
      split at formed
      · rename_i isComma
        subst isComma
        cases chain with
        | none => simp at formed
        | some start =>
          obtain ⟨later, inner, rfl⟩ := Result.map_eq_ok.mp formed
          exact .comma (ih inner)
      · rename_i noComma
        split at formed
        · rename_i isPeriod
          subst isPeriod
          obtain ⟨later, inner, rfl⟩ := Result.map_eq_ok.mp formed
          exact .period (ih inner)
        · rename_i noPeriod
          exact .lexeme (by simp [separators, noColon, noComma, noPeriod]) (ih formed)

/-- Segmenting yields what is formed by the lexemes. -/
theorem segmentFrom_of_forms (forms : Forms mode chain body lexemes statements) :
    segmentFrom mode chain body lexemes = .ok statements := by
  induction forms with
  | done => rfl
  | colon _ ih => simpa [segmentFrom] using ih
  | comma _ ih => simp [segmentFrom, ih, Except.map]
  | period _ ih => simp [segmentFrom, ih, Except.map]
  | lexeme plain _ ih =>
    simp only [separators, List.mem_cons, List.not_mem_nil, or_false, not_or] at plain
    simpa [segmentFrom, plain.1, plain.2.1, plain.2.2] using ih

/-- Statements are what segmenting yields exactly when the lexemes form them. -/
theorem segment_eq_ok_iff :
    segment mode lexemes = .ok statements ↔ Forms mode none [] lexemes statements :=
  ⟨forms_of_segmentFrom, segmentFrom_of_forms⟩

/-- A statement is put before all others or left out. -/
theorem cons_append (first : List Lexeme) (statements later : List Statement) :
    cons first statements ++ later = cons first (statements ++ later) := by
  unfold cons
  split
  · rfl
  · rfl

/-- After lexemes that form statements others start afresh. -/
theorem Forms.append (first : Forms mode chain body lexemes statements)
    (second : Forms mode none [] others later) :
    Forms mode chain body (lexemes ++ others) (statements ++ later) := by
  induction first with
  | done => exact second
  | colon _ ih => exact .colon ih
  | comma _ ih =>
    rw [cons_append]
    exact .comma ih
  | period _ ih =>
    rw [cons_append]
    exact .period ih
  | lexeme plain _ ih => exact .lexeme plain ih

/-- The statements of lexemes in a row are those of the first and then those of the others. -/
theorem segment_append (first : segment mode lexemes = .ok statements)
    (second : segment mode others = .ok later) :
    segment mode (lexemes ++ others) = .ok (statements ++ later) :=
  segment_eq_ok_iff.mpr ((segment_eq_ok_iff.mp first).append (segment_eq_ok_iff.mp second))

end ReportLang.Statement
