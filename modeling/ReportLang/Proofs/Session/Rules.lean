import ReportLang.Proofs.Screen.Valid
import ReportLang.Proofs.Session.Keeps
import ReportLang.Session.Execute

/-!
# What loops and output keep

Loops note the number of their pass, output gives a title and edits the screen, and what is read for
them asks the clock. An invariant of the session that is kept by these changes is kept by a loop if
it is kept by its test and by its body; the passes are followed one by one, up to the largest number
that is counted. An invariant of the environment is kept by them, as they do not touch the
environment at all.
-/

namespace ReportLang.Session

open ReportLang.Action ReportLang.Update

/-- Whether an invariant of the session is kept by what output changes. -/
structure KeptByWriting (invariant : Session → Prop) : Prop where
  /-- It does not matter how often the clock was asked. -/
  clock : ∀ session asked, invariant session → invariant { session with asked }
  /-- A title that is given keeps the invariant. -/
  title : ∀ session (title : String), invariant session →
    invariant { session with title := some title }
  /-- Edits of the screen keep the invariant. -/
  edit : ∀ session change, invariant session →
    invariant { session with screen := session.screen.edit change }

/-- Whether an invariant of the session is kept by what loops and output change. -/
structure KeptByOutput (invariant : Session → Prop) : Prop extends KeptByWriting invariant where
  /-- The passes of loops do not matter. -/
  loops : ∀ session loops, invariant session → invariant { session with loops }

/-- Whether the environment of a session satisfies an invariant. -/
abbrev Satisfies (invariant : Environment → Prop) (session : Session) : Prop :=
  invariant session.environment

/-- Output does not touch the environment. -/
theorem keptByWriting_satisfies (invariant : Environment → Prop) :
    KeptByWriting (Satisfies invariant) :=
  ⟨fun _ _ kept => kept, fun _ _ kept => kept, fun _ _ kept => kept⟩

/-- Loops and output do not touch the environment. -/
theorem keptByOutput_satisfies (invariant : Environment → Prop) :
    KeptByOutput (Satisfies invariant) :=
  { keptByWriting_satisfies invariant with loops := fun _ _ kept => kept }

variable {invariant : Session → Prop} {fails : RunError → Prop} {host : Host}
  {captures : Captures}

section Loops

/-- A pass keeps what its body keeps. -/
theorem keeps_runPass
    (noted : ∀ session pass, invariant session → invariant (setPass pass session))
    {body : Action Signal} (inner : Keeps invariant fails (fun _ => True) body) (pass : Nat) :
    Keeps invariant fails (fun _ => True) (runPass body pass) := by
  refine Keeps.bind (keeps_modify fun session kept => noted session pass kept) fun _ _ => ?_
  exact inner.bind fun _ _ => keeps_pure trivial

/-- Counted passes keep what their body keeps. -/
theorem keeps_countedPasses
    (noted : ∀ session pass, invariant session → invariant (setPass pass session))
    {body : Action Signal} (inner : Keeps invariant fails (fun _ => True) body) (left pass : Nat) :
    Keeps invariant fails (fun _ => True) (countedPasses body left pass) := by
  induction left generalizing pass with
  | zero => exact keeps_pure trivial
  | succ left ih =>
    rw [countedPasses]
    refine (keeps_runPass noted inner pass).bind fun goesOn _ => ?_
    cases goesOn with
    | true => exact ih (pass + 1)
    | false => exact keeps_pure trivial

/-- Tested passes keep what their test and their body keep, and may fail at the largest number. -/
theorem keeps_testedPasses
    (noted : ∀ session pass, invariant session → invariant (setPass pass session))
    (limit : fails (.crash .counterOverflow)) {test : Action Bool} {body : Action Signal}
    (outer : Keeps invariant fails (fun _ => True) test)
    (inner : Keeps invariant fails (fun _ => True) body) (left pass : Nat) :
    Keeps invariant fails (fun _ => True) (testedPasses test body left pass) := by
  induction left generalizing pass with
  | zero =>
    rw [testedPasses]
    refine outer.bind fun holds _ => ?_
    cases holds with
    | true => exact keeps_throw limit
    | false => exact keeps_pure trivial
  | succ left ih =>
    rw [testedPasses]
    refine outer.bind fun holds _ => ?_
    cases holds with
    | true =>
      refine (keeps_runPass noted inner pass).bind fun goesOn _ => ?_
      cases goesOn with
      | true => exact ih (pass + 1)
      | false => exact keeps_pure trivial
    | false => exact keeps_pure trivial

/-- Where the passes of loops do not matter, neither does the number of the current one. -/
theorem KeptByOutput.setPass (output : KeptByOutput invariant) (session : Session) (pass : Nat)
    (kept : invariant session) : invariant (setPass pass session) :=
  output.loops session (pass :: session.loops.tail) kept

/-- The passes of a loop are followed by nothing but the end of its count. -/
theorem keeps_withinLoop (output : KeptByOutput invariant) {passes : Action Unit}
    (inner : Keeps invariant fails (fun _ => True) passes) :
    Keeps invariant fails (fun _ => True) (withinLoop passes) := by
  intro session kept
  have ends := inner { session with loops := 0 :: session.loops } (output.loops session _ kept)
  rw [withinLoop]
  generalize passes { session with loops := 0 :: session.loops } = outcome at ends
  obtain ⟨result, ended⟩ := outcome
  exact ⟨output.loops ended _ ends.1, ends.2.map fun _ _ => trivial⟩

/-- A loop with a condition keeps what its condition and its body keep. -/
theorem keeps_whileLoop (output : KeptByOutput invariant) (limit : fails (.crash .counterOverflow))
    {body : Action Signal}
    (tested : ∀ session, invariant session →
      (session.condition host captures).Keeps (fun _ => True) fails (fun _ => True))
    (inner : Keeps invariant fails (fun _ => True) body) :
    Keeps invariant fails (fun _ => True) (whileLoop host captures body) :=
  keeps_withinLoop output
    (keeps_testedPasses output.setPass limit (keeps_read output.clock tested) inner maxPasses 1)

/-- A loop with a number of passes keeps what its body keeps. -/
theorem keeps_doLoop (output : KeptByOutput invariant) (limit : fails (.crash .counterOverflow))
    {body : Action Signal}
    (counted : ∀ session lexeme, invariant session →
      (session.count host lexeme).Keeps (fun _ => True) fails (fun _ => True))
    (inner : Keeps invariant fails (fun _ => True) body) :
    Keeps invariant fails (fun _ => True) (doLoop host captures body) := by
  unfold doLoop
  split
  · exact keeps_withinLoop output
      (keeps_testedPasses output.setPass limit (keeps_pure trivial) inner maxPasses 1)
  · rename_i lexeme _
    refine (keeps_read output.clock fun session kept => counted session lexeme kept).bind
      fun times _ => ?_
    exact keeps_withinLoop output (keeps_countedPasses output.setPass inner times.toNat 1)

end Loops

section Output

/-- Edits of the screen in order keep the invariant. -/
theorem KeptByWriting.editAll (output : KeptByWriting invariant) (edits : List Screen.Edit)
    {session : Session} (kept : invariant session) :
    invariant { session with screen := session.screen.editAll edits } := by
  induction edits generalizing session with
  | nil => exact kept
  | cons change later ih => exact ih (output.edit session change kept)

/-- A change that is made of edits keeps the invariant. -/
theorem keeps_ofEdits (output : KeptByWriting invariant) {change : Screen → Screen}
    (edits : Screen.IsEdit change) :
    Keeps invariant fails (fun _ => True) (onScreen change) := by
  refine keeps_onScreen fun session kept => ?_
  obtain ⟨changes, same⟩ := edits session.screen
  rw [same]
  exact output.editAll changes kept

/-- The cursor is moved to a position by edits. -/
theorem isEdit_moveTo (position : Position) : Screen.IsEdit (moveTo position) := by
  intro screen
  obtain ⟨newLine, column, length⟩ := position
  cases newLine with
  | true =>
    cases column with
    | some column => exact ⟨[.endLine, .moveTo (column - 1)], rfl⟩
    | none => exact ⟨[.endLine], rfl⟩
  | false =>
    cases column with
    | some column => exact ⟨[.moveTo (column - 1)], rfl⟩
    | none => exact ⟨[], rfl⟩

/-- A text is written by edits. -/
theorem isEdit_writeText (text : String) (length : Option Nat) (noGap : Bool) :
    Screen.IsEdit (writeText text length noGap) := by
  intro screen
  simp only [writeText]
  split
  · exact ⟨[.write _], rfl⟩
  · exact ⟨[.write _, .advance], rfl⟩

/-- Lines are left blank by edits. -/
theorem isEdit_skip (lines : Nat) : Screen.IsEdit fun screen =>
    (List.replicate lines ()).foldl (fun moved _ => moved.newLine) screen.endLine := by
  have below (moved : Screen) :
      (List.replicate lines ()).foldl (fun moved _ => moved.newLine) moved =
        moved.editAll (List.replicate lines .newLine) := by
    induction lines generalizing moved with
    | zero => rfl
    | succ lines ih => exact ih moved.newLine
  exact fun screen => ⟨.endLine :: List.replicate lines .newLine, below screen.endLine⟩

/-- A title that is given keeps the invariant. -/
theorem keeps_giveTitle (output : KeptByWriting invariant) (misplaced : fails .misplacedReport)
    (outside : ∀ width, fails (.lineSizeLimit width))
    (named : Result.Ends fails (fun _ => True) (captures.required "title"))
    (counted : ∀ session lexeme, invariant session →
      (session.count host lexeme).Keeps (fun _ => True) fails (fun _ => True)) :
    Keeps invariant fails (fun _ => True) (giveTitle host captures) := by
  refine keeps_get.bind fun session _ => ?_
  simp only
  split
  · exact keeps_throw_bind misplaced
  · refine (keeps_lift named).bind fun title _ => ?_
    refine Keeps.bind (keeps_modify fun session kept => output.title session _ kept) fun _ _ => ?_
    split
    · exact keeps_pure trivial
    · rename_i lexeme _
      refine (keeps_read output.clock fun session kept => counted session lexeme kept).bind
        fun width _ => ?_
      split
      · exact keeps_ofEdits output fun screen => ⟨[.resize width.toNat], rfl⟩
      · exact keeps_throw (outside width)

/-- Writing keeps the invariant. -/
theorem keeps_write (output : KeptByWriting invariant) (tooWide : ∀ cause, fails (.crash cause))
    (valued : ∀ session lexeme, invariant session →
      (session.operand host lexeme).Keeps (fun _ => True) fails (fun _ => True)) :
    Keeps invariant fails (fun _ => True) (write host captures) := by
  refine Keeps.bind (keeps_ofEdits output (isEdit_moveTo _)) fun _ _ => ?_
  split
  · exact keeps_pure trivial
  · rename_i source _
    refine (keeps_read output.clock fun session kept => valued session source kept).bind
      fun value _ => ?_
    have shown : Result.Ends fails (fun _ => True)
        ((value.toText (captures.flag "no_zero")).mapError RunError.crash) :=
      Result.Ends.mapError (Result.yields_any _) fun cause _ => tooWide cause
    exact (keeps_lift shown).bind fun text _ => keeps_ofEdits output (isEdit_writeText _ _ _)

/-- Skipping lines keeps the invariant. -/
theorem keeps_skip (output : KeptByWriting invariant) (unsupported : fails .skipToLine)
    (tooMany : ∀ lines, fails (.skipLimit lines))
    (counted : ∀ session lexeme, invariant session →
      (session.count host lexeme).Keeps (fun _ => True) fails (fun _ => True)) :
    Keeps invariant fails (fun _ => True) (skip host captures) := by
  have move (lines : Int) : Keeps invariant fails (fun _ => True) (do
      if Screen.maxHeight < lines then
        throw (.skipLimit lines)
      Action.onScreen fun screen =>
        (List.replicate lines.toNat ()).foldl (fun moved _ => moved.newLine) screen.endLine) := by
    simp only
    split
    · exact keeps_throw_bind (tooMany lines)
    · exact keeps_ofEdits output (isEdit_skip lines.toNat)
  simp only [skip]
  split
  · exact keeps_throw_bind unsupported
  · split
    · rename_i lexeme _
      exact (keeps_read output.clock fun session kept => counted session lexeme kept).bind
        fun lines _ =>
        move lines
    · exact move 1

end Output

end ReportLang.Session
