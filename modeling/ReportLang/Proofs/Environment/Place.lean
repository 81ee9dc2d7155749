import ReportLang.Proofs.Environment.Change
import ReportLang.Proofs.Environment.Typing
import ReportLang.Proofs.Value.Change

/-!
# Places in an environment

A reference is a variable and a path of fields in its value. Storing and clearing replace what is at
the end of the path, in the one variable that has the name (`Reference.Stored`). So what is read
there afterwards is what was stored, other places are read as before, and of a record on the way
nothing but this component changes. Reading and storing agree on which places there are.
-/

namespace ReportLang

open Result

/-- The variable of a name is read exactly if it is found. -/
theorem Environment.get_eq_ok_iff {environment : Environment} {name : String} {held : Variable} :
    environment.get name = .ok held ↔ environment.find? name = some held := by
  unfold Environment.get
  cases environment.find? name with
  | some found => simp
  | none => simp

namespace Reference

/-- The variable that is referred to, or that has the field. -/
def root : Reference → String
  | .whole name => name
  | .part name _ _ => name

/-- The fields that lead from the variable to what is referred to. -/
def fields : Reference → List String
  | .whole _ => []
  | .part _ path field => path ++ [field]

/-- The name of the variable and the fields after it. -/
def names (target : Reference) : List String :=
  target.root :: target.fields

/-- The type with which what is referred to was declared. -/
def ty? (environment : Environment) (target : Reference) : Option Ty :=
  (environment.find? target.root).bind fun held => held.ty.fieldAt? target.fields

/-- Whether an environment is another one in which a place held `old` and holds `new` now. -/
inductive Stored (target : Reference) (old new : Value) (before : Environment) :
    Environment → Prop where
  /-- The component of one variable has changed, which is no constant. -/
  | intro {position : Nat} {held : Variable} {value : Value}
    (indexed : before.position? target.root = some position)
    (here : before.bindings[position]? = some held) (writable : held.isConstant = false)
    (changes : Value.ChangedAt old new target.fields held.value value) :
    Stored target old new before
      { before with bindings := before.bindings.set position { held with value } }

variable {environment before after : Environment} {target other : Reference} {old new value : Value}

section Storing

/-- The variable whose component changes is found before and after. -/
theorem Stored.find? (stored : target.Stored old new before after) :
    ∃ held value, before.find? target.root = some held ∧
      after.find? target.root = some { held with value } ∧
      Value.ChangedAt old new target.fields held.value value := by
  cases stored with
  | @intro position held value indexed here writable changes =>
    have inside : position < before.bindings.length := (List.getElem?_eq_some_iff.mp here).1
    exact ⟨held, value, Environment.find?_eq_some_iff.mpr ⟨position, indexed, here⟩,
      Environment.find?_eq_some_iff.mpr ⟨position, indexed, List.getElem?_set_self inside⟩, changes⟩

/-- A change of a variable stores what it makes of the component at the end of the fields. -/
theorem onVariable_eq_ok_iff_stored {change : Update Variable Unit} (target : Reference)
    (related : Value → Value → Prop)
    (each : ∀ held, before.find? target.root = some held → ∀ later,
      (change held = (.ok (), later) ↔ held.isConstant = false ∧
        ∃ value, (∃ old new, related old new ∧
          Value.ChangedAt old new target.fields held.value value) ∧ later = { held with value })) :
    Environment.onVariable target.root change before = (.ok (), after) ↔
      ∃ old new, related old new ∧ target.Stored old new before after := by
  rw [Environment.onVariable_eq_ok_iff]
  constructor
  · rintro ⟨position, held, later, indexed, here, made, rfl⟩
    have found := Environment.find?_eq_some_iff.mpr ⟨position, indexed, here⟩
    obtain ⟨writable, value, ⟨old, new, holds, changes⟩, rfl⟩ := (each held found later).mp made
    exact ⟨old, new, holds, .intro indexed here writable changes⟩
  · rintro ⟨old, new, holds, @⟨position, held, value, indexed, here, writable, changes⟩⟩
    have found := Environment.find?_eq_some_iff.mpr ⟨position, indexed, here⟩
    have made := (each held found _).mpr ⟨writable, value, ⟨old, new, holds, changes⟩, rfl⟩
    exact ⟨position, held, _, indexed, here, made, rfl⟩

/-- A whole variable is replaced by a value that is made for its type. -/
theorem changedAt_whole_iff (fresh : Ty → Value → Prop) {held : Variable} (typed : held.WellTyped)
    (value : Value) :
    fresh held.ty value ↔
      ∃ old new, fresh old.ty new ∧ Value.ChangedAt old new [] held.value value := by
  rw [← typed.fits.ty_eq]
  constructor
  · intro made
    exact ⟨held.value, value, made, .here⟩
  · rintro ⟨_, _, made, ⟨⟩⟩
    exact made

/-- Storing a value replaces what is referred to by the value, converted to its type. -/
theorem set_eq_ok_iff (typed : before.WellTyped) :
    target.set value before = (.ok (), after) ↔
      ∃ old new, value.convert old.ty false = .ok new ∧ target.Stored old new before after := by
  cases target with
  | whole name =>
    refine onVariable_eq_ok_iff_stored (whole name)
      (fun old new => value.convert old.ty false = .ok new) fun held found later => ?_
    have own := changedAt_whole_iff (fun ty stored => value.convert ty false = .ok stored)
      (typed.find? found)
    exact Variable.assign_eq_ok_iff.trans
      (and_congr_right fun _ => exists_congr fun stored => and_congr_left fun _ => own stored)
  | part name path field =>
    refine onVariable_eq_ok_iff_stored (part name path field)
      (fun old new => value.convert old.ty false = .ok new) fun held found later => ?_
    have inside := (typed.find? found).value
    exact Variable.onValue_eq_ok_iff.trans (and_congr_right fun _ => exists_congr fun _ =>
      and_congr_left fun _ => inside.onPath_field_eq_ok fun _ _ inner => inner.setField_eq_ok)

/-- Clearing replaces what is referred to by the initial value of its type. -/
theorem clear_eq_ok_iff (typed : before.WellTyped) :
    target.clear before = (.ok (), after) ↔
      ∃ old new, Value.makeInitial old.ty = .ok new ∧ target.Stored old new before after := by
  cases target with
  | whole name =>
    refine onVariable_eq_ok_iff_stored (whole name)
      (fun old new => Value.makeInitial old.ty = .ok new) fun held found later => ?_
    have own := changedAt_whole_iff (fun ty stored => Value.makeInitial ty = .ok stored)
      (typed.find? found)
    exact Variable.clear_eq_ok_iff.trans
      (and_congr_right fun _ => exists_congr fun stored => and_congr_left fun _ => own stored)
  | part name path field =>
    refine onVariable_eq_ok_iff_stored (part name path field)
      (fun old new => Value.makeInitial old.ty = .ok new) fun held found later => ?_
    have inside := (typed.find? found).value
    exact Variable.onValue_eq_ok_iff.trans (and_congr_right fun _ => exists_congr fun _ =>
      and_congr_left fun _ => inside.onPath_field_eq_ok fun _ _ inner => inner.clearField_eq_ok)

end Storing

section Reading

/-- What is referred to is read from the variable, along the fields. -/
theorem get_eq (environment : Environment) (target : Reference) :
    target.get environment =
      environment.get target.root >>= fun held =>
        (held.value.fieldAt target.fields).mapError .value := by
  cases target with
  | whole name => rfl
  | part name path field => rfl

/-- All other variables are left alone, as the index has another position for each name. -/
theorem Stored.find?_of_ne (stored : target.Stored old new before after)
    (indexed : before.Indexed) {name : String}
    (differ : Text.lower name ≠ Text.lower target.root) :
    after.find? name = before.find? name := by
  cases stored with
  | @intro position held value listed here writable changes =>
    show (before.position? name).bind _ = (before.position? name).bind _
    cases found : before.position? name with
    | none => rfl
    | some elsewhere =>
      have apart : position ≠ elsewhere := by
        rintro rfl
        have first := (indexed.lookup_iff _ _).mp listed
        have second := (indexed.lookup_iff _ _).mp found
        exact differ (Option.some.inj (second.symm.trans first))
      exact List.getElem?_set_ne apart

/-- There are the same variables as before. -/
theorem Stored.isSome_find? (stored : target.Stored old new before after)
    (indexed : before.Indexed) (name : String) :
    (after.find? name).isSome = (before.find? name).isSome := by
  by_cases same : Text.lower name = Text.lower target.root
  · obtain ⟨held, value, found, later, _⟩ := stored.find?
    have own (environment : Environment) :
        environment.find? name = environment.find? target.root := by
      simp only [Environment.find?, Environment.position?, same]
    rw [own, own, found, later]
    rfl
  · rw [stored.find?_of_ne indexed same]

/-- Of a record on the way to what is stored, only this component changes; a place whose value is
stored itself has the new value. -/
theorem Stored.get_above (stored : target.Stored old new before after) {rest : List String}
    (names : target.names = other.names ++ rest) :
    ∃ held changed, other.get before = .ok held ∧ other.get after = .ok changed ∧
      Value.ChangedAt old new rest held changed := by
  obtain ⟨root, fields⟩ : target.root = other.root ∧ target.fields = other.fields ++ rest :=
    List.cons.inj names
  obtain ⟨held, value, found, later, changes⟩ := stored.find?
  rw [fields, Value.changedAt_append] at changes
  obtain ⟨inner, outer, above, below⟩ := changes
  obtain ⟨reads, rereads⟩ := above.fieldAt
  refine ⟨inner, outer, ?_, ?_, below⟩
  · rw [get_eq, ← root, Environment.get_eq_ok_iff.mpr found]
    show (held.value.fieldAt other.fields).mapError _ = _
    rw [reads, mapError_ok]
  · rw [get_eq, ← root, Environment.get_eq_ok_iff.mpr later]
    show (value.fieldAt other.fields).mapError _ = _
    rw [rereads, mapError_ok]

/-- What was stored is read again. -/
theorem Stored.get (stored : target.Stored old new before after) :
    target.get before = .ok old ∧ target.get after = .ok new := by
  have own : target.names = target.names ++ [] := (List.append_nil _).symm
  obtain ⟨held, changed, reads, rereads, changes⟩ := stored.get_above own
  cases changes with
  | here => exact ⟨reads, rereads⟩

/-- A place that is neither inside of the one where something is stored nor around it is read as
before. -/
theorem Stored.get_apart (stored : target.Stored old new before after) (indexed : before.Indexed)
    (lower : Text.lower target.root = target.root) (otherLower : Text.lower other.root = other.root)
    (notBelow : ¬ target.names <+: other.names) (notAbove : ¬ other.names <+: target.names) :
    other.get after = other.get before := by
  rw [get_eq, get_eq]
  by_cases same : other.root = target.root
  · obtain ⟨held, value, found, later, changes⟩ := stored.find?
    simp only [names, same, List.cons_prefix_cons, true_and] at notBelow notAbove
    rw [same, Environment.get_eq_ok_iff.mpr found, Environment.get_eq_ok_iff.mpr later]
    show (value.fieldAt other.fields).mapError _ = (held.value.fieldAt other.fields).mapError _
    rw [changes.fieldAt_apart notBelow notAbove]
  · have differ : Text.lower other.root ≠ Text.lower target.root := by rwa [lower, otherLower]
    have unchanged : after.get other.root = before.get other.root := by
      unfold Environment.get
      rw [stored.find?_of_ne indexed differ]
    rw [unchanged]

/-- What is referred to has the type with which it was declared. -/
theorem ty?_of_get (typed : environment.WellTyped) (read : target.get environment = .ok value) :
    target.ty? environment = some value.ty := by
  rw [get_eq] at read
  obtain ⟨held, found, reached⟩ := bind_eq_ok.mp read
  have variableTyped := typed.find? (Environment.get_eq_ok_iff.mp found)
  rw [ty?, Environment.get_eq_ok_iff.mp found, Option.bind_some, ← variableTyped.fits.ty_eq]
  exact variableTyped.value.fieldAt?_ty (mapError_eq_ok.mp reached)

/-- Something can be stored exactly where something can be read, unless the variable is a
constant. -/
theorem exists_stored_iff (new : Value) :
    (∃ after, target.Stored old new before after) ↔
      ∃ held, before.find? target.root = some held ∧ held.isConstant = false ∧
        target.get before = .ok old := by
  constructor
  · rintro ⟨after, stored⟩
    have read := stored.get.1
    cases stored with
    | intro indexed here writable changes =>
      exact ⟨_, Environment.find?_eq_some_iff.mpr ⟨_, indexed, here⟩, writable, read⟩
  · rintro ⟨held, found, writable, read⟩
    obtain ⟨position, indexed, here⟩ := Environment.find?_eq_some_iff.mp found
    rw [get_eq, Environment.get_eq_ok_iff.mpr found] at read
    obtain ⟨value, changes⟩ := Value.exists_changedAt (mapError_eq_ok.mp read) new
    exact ⟨_, .intro indexed here writable changes⟩

/-- A value can be stored exactly if the variable is no constant, its place can be read, and the
value can be converted to the type that is read there. -/
theorem exists_set_iff (typed : before.WellTyped) :
    (∃ after, target.set value before = (.ok (), after)) ↔
      ∃ held old new, before.find? target.root = some held ∧ held.isConstant = false ∧
        target.get before = .ok old ∧ value.convert old.ty false = .ok new := by
  constructor
  · rintro ⟨after, set⟩
    obtain ⟨old, new, converted, stored⟩ := (set_eq_ok_iff typed).mp set
    obtain ⟨held, found, writable, read⟩ := (exists_stored_iff new).mp ⟨after, stored⟩
    exact ⟨held, old, new, found, writable, read, converted⟩
  · rintro ⟨held, old, new, found, writable, read, converted⟩
    obtain ⟨after, stored⟩ := (exists_stored_iff new).mpr ⟨held, found, writable, read⟩
    exact ⟨after, (set_eq_ok_iff typed).mpr ⟨old, new, converted, stored⟩⟩

end Reading

end Reference

end ReportLang
