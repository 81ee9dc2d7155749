import ReportLang.Command.Match

/-!
# Shapes of captures

A shape is a capture that holds positions where a capture holds lexemes. Filling in the lexemes that
stand at the positions gives captures, and captures that are put together from others have the shape
that is put together in the same way from theirs, whichever lexemes are filled in.
-/

namespace ReportLang

variable {Position : Type}

/-- A capture with positions in place of lexemes. -/
inductive Capture.Shape (Position : Type) where
  /-- A lexeme at a position. -/
  | single (position : Position)
  /-- A flag. -/
  | flag (set : Bool)
  /-- The captures of a named rule. -/
  | nested (entries : List (String × Capture.Shape Position))
  /-- The captures of each match of a repeated rule. -/
  | repeated (items : List (List (String × Capture.Shape Position)))

/-- Captures by name, with positions in place of lexemes. -/
abbrev Captures.Shape (Position : Type) := List (String × Capture.Shape Position)

mutual

/-- The capture of a shape, where `lexeme` gives what stands at each position. -/
def Capture.Shape.fill (lexeme : Position → Lexeme) : Capture.Shape Position → Capture
  | .single position => .single (lexeme position)
  | .flag set => .flag set
  | .nested entries => .nested (Captures.Shape.fill lexeme entries)
  | .repeated items => .repeated (Captures.Shape.fillAll lexeme items)

/-- The captures of a shape, where `lexeme` gives what stands at each position. -/
def Captures.Shape.fill (lexeme : Position → Lexeme) :
    List (String × Capture.Shape Position) → Captures
  | [] => []
  | (name, shape) :: rest => (name, shape.fill lexeme) :: Captures.Shape.fill lexeme rest

/-- The captures of several shapes. -/
def Captures.Shape.fillAll (lexeme : Position → Lexeme) :
    List (List (String × Capture.Shape Position)) → List Captures
  | [] => []
  | shape :: rest => Captures.Shape.fill lexeme shape :: Captures.Shape.fillAll lexeme rest

end

namespace Captures.Shape

/-- Whether anything is captured is a matter of the shape. -/
theorem isEmpty_fill (lexeme : Position → Lexeme) (shape : Captures.Shape Position) :
    (fill lexeme shape).isEmpty = shape.isEmpty := by
  cases shape with
  | nil => rfl
  | cons entry rest => rfl

/-- Adding a capture is a matter of the shape. -/
theorem exists_fill_eq_insert (name : String) (added : Capture.Shape Position)
    (shape : Captures.Shape Position) :
    ∃ extended, ∀ lexeme : Position → Lexeme,
      fill lexeme extended = (fill lexeme shape).insert name (added.fill lexeme) := by
  induction shape with
  | nil => exact ⟨[(name, added)], fun _ => rfl⟩
  | cons entry rest ih =>
    obtain ⟨other, held⟩ := entry
    obtain ⟨extended, same⟩ := ih
    by_cases before : name < other
    · refine ⟨(name, added) :: (other, held) :: rest, fun lexeme => ?_⟩
      simp only [fill, Captures.insert, if_pos before]
    by_cases equal : name = other
    · refine ⟨(name, added) :: rest, fun lexeme => ?_⟩
      simp only [fill, Captures.insert, if_neg before, if_pos equal]
    · refine ⟨(other, held) :: extended, fun lexeme => ?_⟩
      simp only [fill, Captures.insert, if_neg before, if_neg equal, same lexeme]

/-- Merging captures is a matter of the shapes. -/
theorem exists_fill_eq_merge (shape later : Captures.Shape Position) :
    ∃ merged, ∀ lexeme : Position → Lexeme,
      fill lexeme merged = (fill lexeme shape).merge (fill lexeme later) := by
  induction later generalizing shape with
  | nil => exact ⟨shape, fun _ => rfl⟩
  | cons entry rest ih =>
    obtain ⟨name, added⟩ := entry
    obtain ⟨extended, inserted⟩ := exists_fill_eq_insert name added shape
    obtain ⟨merged, same⟩ := ih extended
    refine ⟨merged, fun lexeme => ?_⟩
    rw [same lexeme, inserted lexeme]
    rfl

end Captures.Shape

/-- What a match captured and what it left over, with positions in place of lexemes. -/
structure Match.Shape (Position : Type) where
  /-- The shape of what was captured. -/
  captures : Captures.Shape Position
  /-- The positions of the lexemes that were not read. -/
  rest : List Position

/-- The match of a shape, where `lexeme` gives what stands at each position. -/
def Match.Shape.fill (lexeme : Position → Lexeme) (shape : Match.Shape Position) : Match :=
  ⟨Captures.Shape.fill lexeme shape.captures, shape.rest.map lexeme⟩

end ReportLang
