import ReportLang.Grammar.Builtin
import ReportLang.Proofs.Grammar.Outline

/-!
# What the grammar of report programs supplies

The execution of a command reads captures by their names and relies on the grammar for the names
that have to be there. `Outline.supplies` lists what each keyword relies on, and every outline of
the rules for report programs is checked against it.
-/

namespace ReportLang

namespace Outline

/-- Whether an outline lists a name in a form. -/
def lists (outline : Outline) (name : String) (form : Capture.Form) : Bool :=
  outline.lookup name = some form

/-- What an outline lists is found in it. -/
theorem lists_iff {outline : Outline} {name : String} {form : Capture.Form} :
    outline.lists name form = true ↔ outline.lookup name = some form :=
  decide_eq_true_iff

/-- Whether what is nested under a name, if anything is, belongs to the rule for conditions. -/
def nestsCondition (outline : Outline) (name : String) : Bool :=
  match outline.lookup name with
  | some (.nested rule) => rule = "cond"
  | _ => true

/-- Whether captures along an outline can be evaluated as a condition: every operand that the clause
calls for is there, and whatever is nested is a condition again. -/
def isCondition (outline : Outline) : Bool :=
  outline.nestsCondition "sub" && outline.nestsCondition "next" &&
    (outline.lists "sub" (.nested "cond") ||
      if outline.lists "initial" .flag then outline.lists "left" .single
      else !outline.lists "op" .single ||
        (outline.lists "left" .single && outline.lists "right" .single))

/-- Whether captures along an outline have what the execution of a keyword relies on. -/
def supplies (keyword : String) (outline : Outline) : Bool :=
  (!outline.lists "begin" .flag || outline.lists "struc" .single) &&
    match keyword with
    | "report" => outline.lists "title" .single
    | "data" | "constants" | "types" =>
      outline.lists "begin" .flag || outline.lists "end" .flag || outline.lists "name" .single
    | "move" | "add" | "subtract" | "multiply" | "divide" =>
      outline.lists "source" .single && outline.lists "dest" .single
    | "compute" =>
      outline.lists "source" .single && outline.lists "dest" .single &&
        (!outline.lists "operator" .single || outline.lists "operand" .single)
    | "clear" => outline.lists "targets" (.repeated "target")
    | "if" | "elseif" | "else" | "while" | "assert" => outline.isCondition
    | "write" | "uline" | "new-line" | "skip" | "exit" | "continue" | "do" => true
    | "endif" | "endwhile" | "enddo" => true
    | _ => false

end Outline

namespace Grammar

/-- The outlines of the rules for report programs. No rule is more than three rules away from the
lexemes it captures without a name in between. -/
def builtinOutlines : String → List Outline :=
  builtin.outlinesWithin 3

/-- The outlines of the rules cover those of their bodies. -/
theorem builtin_covers : builtin.Covers builtinOutlines :=
  covers_outlinesWithin (by decide +kernel)

/-- Every rule that may start a statement supplies what its keyword relies on. -/
theorem builtin_supplies : ∀ entry ∈ builtin.table, entry.2.isStatement = true →
    ∀ outline ∈ builtinOutlines entry.1, outline.supplies entry.1 = true := by
  decide +kernel

/-- Every way through the rule for conditions can be evaluated. -/
theorem builtin_isCondition :
    ∀ outline ∈ builtinOutlines "cond", outline.isCondition = true := by
  decide

/-- Every place to be cleared has a lexeme. -/
theorem builtin_target :
    ∀ outline ∈ builtinOutlines "target", outline.lists "dest" .single = true := by
  decide

end Grammar

/-- Whether a command has what its execution relies on. -/
def Command.Supplied (command : Command) : Prop :=
  ∃ outline, command.captures.Fits Grammar.builtinOutlines outline ∧
    outline.supplies command.keyword = true

/-- A parsed command has what its execution relies on. -/
theorem Statement.supplied_of_parse {statement : Statement} {command : Command}
    (parsed : statement.parse Grammar.builtin = .ok command) : command.Supplied := by
  obtain ⟨⟨rule, member, starts⟩, fits⟩ :=
    Statement.fitsRule_of_parse Grammar.builtin_covers parsed
  obtain ⟨listed, parts⟩ := fits
  exact ⟨_, parts, Grammar.builtin_supplies _ member starts _ listed⟩

end ReportLang
