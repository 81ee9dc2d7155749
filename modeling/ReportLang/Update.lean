import ReportLang.RunError

/-!
# Updates

Steps that change a state and may fail. What a step has changed before it fails stays changed.
-/

namespace ReportLang

/-- A step that changes a state of some type and may fail. -/
abbrev Update (σ : Type) := ExceptT RunError (StateM σ)

end ReportLang
