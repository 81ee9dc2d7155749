import ReportLang.Proofs.Text.LowerCase
import ReportLang.Proofs.Value.Field
import ReportLang.Reference

/-!
# Changes of an environment

A run changes an environment in three ways: it declares a variable, it declares a type, or it
changes a variable where it is. What each of them leaves, whether it succeeds or fails, has what was
declared before where it was, and a constant as it was (`Environment.Extends`), and its index is in
step with the variables (`Environment.Indexed`). What is stored or cleared through a reference,
whole or in a field at any depth, is a change of one variable. All these changes are atomic: one
that fails has changed nothing.
-/

namespace ReportLang

open Result ReportLang.Update

/-- Whether a variable is another one at a later time: its declaration is the same, and so is all of
it if it is a constant. -/
structure Variable.Continues (before after : Variable) : Prop where
  /-- The name is the same. -/
  name : after.name = before.name
  /-- The type is the same. -/
  ty : after.ty = before.ty
  /-- A constant is a constant, and nothing else is. -/
  isConstant : after.isConstant = before.isConstant
  /-- A constant has the same value, with all the fields in it. -/
  constant : before.isConstant = true → after.value = before.value

namespace Variable

/-- Every variable continues itself. -/
theorem Continues.refl (held : Variable) : held.Continues held :=
  ⟨rfl, rfl, rfl, fun _ => rfl⟩

/-- A variable continues what an earlier one continues. -/
theorem Continues.trans {before middle after : Variable} (first : before.Continues middle)
    (second : middle.Continues after) : before.Continues after where
  name := second.name.trans first.name
  ty := second.ty.trans first.ty
  isConstant := second.isConstant.trans first.isConstant
  constant fixed :=
    (second.constant (first.isConstant.trans fixed)).trans (first.constant fixed)

/-- A declared variable has its name in lower case, and is a constant if it is to be one. -/
theorem of_declare {name : String} {ty : Ty} {value : Option Value} {isConstant : Bool}
    {held : Variable} (declared : declare name ty value isConstant = .ok held) :
    held.name = Text.lower name ∧ held.isConstant = isConstant := by
  obtain ⟨stored, _, made⟩ := bind_eq_ok.mp declared
  obtain rfl := Except.ok.inj made
  exact ⟨rfl, rfl⟩

/-- A variable that can be written is no constant. -/
theorem checkWritable_eq_ok {held : Variable} :
    held.checkWritable = .ok () ↔ held.isConstant = false := by
  unfold checkWritable
  cases held.isConstant with
  | true => simp
  | false => simp

/-- A variable that cannot be written is a constant. -/
theorem checkWritable_eq_error {held : Variable} {failure : RunError} :
    held.checkWritable = .error failure ↔
      held.isConstant = true ∧ failure = .constant held.name := by
  unfold checkWritable
  cases held.isConstant with
  | true => simp [eq_comm]
  | false => simp

/-- Another value is stored in a variable that can be written, and nothing else. -/
theorem continues_value {held : Variable} (writable : held.isConstant = false) (value : Value) :
    held.Continues { held with value } :=
  ⟨rfl, rfl, rfl, fun fixed => by simp [writable] at fixed⟩

section Storing

variable {α : Type} {held after : Variable}

/-- A variable takes a value exactly when it is no constant and the value can be converted to its
type. -/
theorem assign_eq_ok_iff {value : Value} :
    assign value held = (.ok (), after) ↔
      held.isConstant = false ∧ ∃ stored, value.convert held.ty false = .ok stored ∧
        after = { held with value := stored } := by
  constructor
  · intro done
    obtain ⟨_, _, ⟨⟩, checked⟩ := bind_eq_ok.mp done
    obtain ⟨_, _, passed, converting⟩ := bind_eq_ok.mp checked
    obtain ⟨writable, rfl⟩ := lift_eq_ok.mp passed
    obtain ⟨stored, _, converted, ⟨⟩⟩ := bind_eq_ok.mp converting
    obtain ⟨fits, rfl⟩ := lift_eq_ok.mp converted
    exact ⟨checkWritable_eq_ok.mp writable, stored, mapError_eq_ok.mp fits, rfl⟩
  · rintro ⟨writable, stored, converted, rfl⟩
    simp only [assign, bind_apply, get_apply, lift_apply, checkWritable_eq_ok.mpr writable,
      mapError_eq_ok.mpr converted]
    rfl

/-- A variable is cleared exactly when it is no constant and the initial value of its type can be
made. -/
theorem clear_eq_ok_iff :
    clear held = (.ok (), after) ↔
      held.isConstant = false ∧ ∃ initial, Value.makeInitial held.ty = .ok initial ∧
        after = { held with value := initial } := by
  constructor
  · intro done
    obtain ⟨_, _, ⟨⟩, checked⟩ := bind_eq_ok.mp done
    obtain ⟨_, _, passed, making⟩ := bind_eq_ok.mp checked
    obtain ⟨writable, rfl⟩ := lift_eq_ok.mp passed
    obtain ⟨initial, _, made, ⟨⟩⟩ := bind_eq_ok.mp making
    obtain ⟨built, rfl⟩ := lift_eq_ok.mp made
    exact ⟨checkWritable_eq_ok.mp writable, initial, mapError_eq_ok.mp built, rfl⟩
  · rintro ⟨writable, initial, made, rfl⟩
    simp only [clear, bind_apply, get_apply, lift_apply, checkWritable_eq_ok.mpr writable,
      mapError_eq_ok.mpr made]
    rfl

/-- The value of a variable changes exactly when the variable is no constant and the change of the
value succeeds. -/
theorem onValue_eq_ok_iff {change : Update Value α} {result : α} :
    onValue change held = (.ok result, after) ↔
      held.isConstant = false ∧ ∃ value, change held.value = (.ok result, value) ∧
        after = { held with value } := by
  unfold onValue
  constructor
  · intro done
    split at done
    · cases (Prod.mk.inj done).1
    · rename_i passed
      obtain ⟨made, rfl⟩ := Prod.mk.inj done
      exact ⟨checkWritable_eq_ok.mp passed, (change held.value).2, Prod.ext made rfl, rfl⟩
  · rintro ⟨writable, value, made, rfl⟩
    simp only [checkWritable_eq_ok.mpr writable, made]

/-- A variable takes a value or nothing changes. -/
theorem atomic_assign (value : Value) : Atomic id (assign value) :=
  idle_get.bind fun _ => (idle_lift _).bind fun _ => (idle_lift _).bind fun _ =>
    (succeeds_set _).atomic

/-- A variable is cleared or nothing changes. -/
theorem atomic_clear : Atomic id clear :=
  idle_get.bind fun _ => (idle_lift _).bind fun _ => (idle_lift _).bind fun _ =>
    (succeeds_set _).atomic

/-- A change of a value that has changed nothing when it fails still has in a variable. -/
theorem atomic_onValue {change : Update Value α} (atomic : Atomic id change) :
    Atomic id (onValue change) := by
  intro held failure after failed
  unfold onValue at failed
  split at failed
  · exact (Prod.mk.inj failed).2.symm
  · obtain ⟨inner, rfl⟩ := Prod.mk.inj failed
    have unchanged : (change held.value).2 = held.value :=
      atomic held.value failure _ (Prod.ext inner rfl)
    rw [unchanged]

/-- A variable that takes a value, or fails to, goes on. -/
theorem continues_assign (value : Value) (held : Variable) :
    held.Continues (assign value held).2 := by
  refine (atomic_assign value).holds (Continues.refl held) fun _ after done => ?_
  obtain ⟨writable, _, _, rfl⟩ := assign_eq_ok_iff.mp done
  exact continues_value writable _

/-- A variable that is cleared, or fails to be, goes on. -/
theorem continues_clear (held : Variable) : held.Continues (clear held).2 := by
  refine atomic_clear.holds (Continues.refl held) fun _ after done => ?_
  obtain ⟨writable, _, _, rfl⟩ := clear_eq_ok_iff.mp done
  exact continues_value writable _

/-- A variable whose value is changed where it is goes on, whatever the change leaves. -/
theorem continues_onValue (change : Update Value α) (held : Variable) :
    held.Continues (onValue change held).2 := by
  unfold onValue
  split
  · exact Continues.refl held
  · rename_i passed
    exact continues_value (checkWritable_eq_ok.mp passed) _

end Storing

end Variable

namespace Environment

/-- The names of the variables, first declared first. -/
def names (environment : Environment) : List String :=
  environment.bindings.map Variable.name

/-- What a run does to an environment in one step, whether the step succeeds or fails. -/
inductive Change (before : Environment) : Environment → Prop where
  /-- A variable is declared. -/
  | define {name : String} {ty : Ty} {value : Option Value} {isConstant : Bool} {held : Variable}
    (declared : Variable.declare name ty value isConstant = .ok held) :
    Change before (define held before).2
  /-- A type is declared. -/
  | defineType (name : String) (ty : Ty) : Change before (defineType name ty before).2
  /-- A variable is changed where it is. -/
  | onVariable {α : Type} (name : String) {change : Update Variable α}
    (continues : ∀ held : Variable, held.Continues (change held).2) :
    Change before (onVariable name change before).2

/-- Whether the declarations of an environment stand in a later one, and constants have kept their
values. -/
structure Extends (before after : Environment) : Prop where
  /-- Every variable is where it was. -/
  binding : ∀ (position : Nat) (held : Variable), before.bindings[position]? = some held →
    ∃ later, after.bindings[position]? = some later ∧ held.Continues later
  /-- Every name has the position it had. -/
  index : ∀ name position, before.index.lookup name = some position →
    after.index.lookup name = some position
  /-- Every named type is what it was. -/
  type : ∀ name ty, before.findType? name = some ty → after.findType? name = some ty

/-- Whether the index is in step with the variables. -/
structure Indexed (environment : Environment) : Prop where
  /-- The index has a name at a position exactly if the variable at the position has the name. -/
  lookup_iff : ∀ name position,
    environment.index.lookup name = some position ↔ environment.names[position]? = some name
  /-- Names are in lower case. -/
  lower : ∀ name ∈ environment.names, Text.lower name = name
  /-- No variable has the name of the system record. -/
  ne_system : ∀ name ∈ environment.names, name ≠ systemName

variable {environment before middle after : Environment} {name : String}

section Steps

/-- A variable is added if its name is neither taken nor that of the system record; else nothing
changes. -/
theorem define_apply (held : Variable) (before : Environment) :
    define held before =
      if held.name = systemName || (before.index.lookup held.name).isSome then
        (.error (.duplicateVariable held.name), before)
      else
        (.ok (), { before with
          bindings := before.bindings ++ [held]
          index := before.index ++ [(held.name, before.bindings.length)] }) := by
  simp only [define, bind_apply, get_apply]
  split
  · rfl
  · rfl

/-- A type is added if its name is not taken; else nothing changes. -/
theorem defineType_apply (name : String) (ty : Ty) (before : Environment) :
    defineType name ty before =
      if (before.types.lookup (Text.lower name)).isSome then
        (.error (.duplicateType (Text.lower name)), before)
      else
        (.ok (), { before with types := before.types ++ [(Text.lower name, ty)] }) := by
  simp only [defineType, bind_apply, get_apply]
  split
  · rfl
  · rfl

/-- A variable is added exactly when its name is neither taken nor that of the system record. -/
theorem define_eq_ok_iff {held : Variable} :
    define held before = (.ok (), after) ↔
      held.name ≠ systemName ∧ before.index.lookup held.name = none ∧
        after = { before with
          bindings := before.bindings ++ [held]
          index := before.index ++ [(held.name, before.bindings.length)] } := by
  rw [define_apply]
  split
  · rename_i taken
    simp only [Bool.or_eq_true, decide_eq_true_eq] at taken
    constructor
    · intro failed
      cases (Prod.mk.inj failed).1
    · rintro ⟨other, free, _⟩
      rcases taken with system | present
      · exact absurd system other
      · simp [free] at present
  · rename_i free
    simp only [Bool.or_eq_true, decide_eq_true_eq, not_or, Bool.not_eq_true,
      Option.isSome_eq_false_iff, Option.isNone_iff_eq_none] at free
    constructor
    · intro made
      exact ⟨free.1, free.2, (Prod.mk.inj made).2.symm⟩
    · rintro ⟨_, _, rfl⟩
      rfl

/-- A variable is declared or nothing changes. -/
theorem atomic_define (held : Variable) : Atomic id (define held) := by
  intro before failure after failed
  rw [define_apply] at failed
  split at failed
  · exact (Prod.mk.inj failed).2.symm
  · cases (Prod.mk.inj failed).1

/-- A type is declared or nothing changes. -/
theorem atomic_defineType (name : String) (ty : Ty) : Atomic id (defineType name ty) := by
  intro before failure after failed
  rw [defineType_apply] at failed
  split at failed
  · exact (Prod.mk.inj failed).2.symm
  · cases (Prod.mk.inj failed).1

/-- A variable is found where the index says. -/
theorem find?_eq_some_iff {held : Variable} :
    environment.find? name = some held ↔
      ∃ position, environment.position? name = some position ∧
        environment.bindings[position]? = some held :=
  Option.bind_eq_some_iff

/-- A change of a variable does not find the variable, or leaves in its place what it makes of
it. -/
theorem onVariable_cases {α : Type} (name : String) (change : Update Variable α)
    (before : Environment) :
    (before.find? name = none ∧
      onVariable name change before = (.error (.undefinedVariable name), before)) ∨
    ∃ position held, before.position? name = some position ∧
      before.bindings[position]? = some held ∧
      onVariable name change before =
        ((change held).1,
          { before with bindings := before.bindings.set position (change held).2 }) := by
  cases indexed : before.position? name with
  | none =>
    have missing : before.find? name = none := by rw [find?, indexed, Option.bind_none]
    refine .inl ⟨missing, ?_⟩
    simp only [onVariable, indexed]
  | some position =>
    have found : before.find? name = before.bindings[position]? := by
      rw [find?, indexed, Option.bind_some]
    cases here : before.bindings[position]? with
    | none =>
      rw [here] at found
      refine .inl ⟨found, ?_⟩
      simp only [onVariable, indexed, found]
    | some held =>
      rw [here] at found
      refine .inr ⟨position, held, rfl, here, ?_⟩
      simp only [onVariable, indexed, found]
      rfl

/-- A variable changes where it is exactly when the index has its name and the change of the
variable succeeds; then nothing else changes. -/
theorem onVariable_eq_ok_iff {α : Type} {change : Update Variable α} {result : α} :
    onVariable name change before = (.ok result, after) ↔
      ∃ position held changed, before.position? name = some position ∧
        before.bindings[position]? = some held ∧ change held = (.ok result, changed) ∧
        after = { before with bindings := before.bindings.set position changed } := by
  rcases onVariable_cases name change before with
    ⟨missing, same⟩ | ⟨position, held, indexed, here, same⟩
  · rw [same]
    constructor
    · intro failed
      cases (Prod.mk.inj failed).1
    · rintro ⟨position, held, _, indexed, here, _⟩
      have found := find?_eq_some_iff.mpr ⟨position, indexed, here⟩
      rw [missing] at found
      cases found
  · rw [same]
    constructor
    · intro done
      obtain ⟨made, rfl⟩ := Prod.mk.inj done
      exact ⟨position, held, (change held).2, indexed, here, Prod.ext made rfl, rfl⟩
    · rintro ⟨other, there, changed, again, found, made, rfl⟩
      obtain rfl : position = other := Option.some.inj (indexed.symm.trans again)
      obtain rfl : held = there := Option.some.inj (here.symm.trans found)
      rw [made]

/-- A change of a variable that has changed nothing when it fails has changed nothing in the
environment. -/
theorem atomic_onVariable {α : Type} {change : Update Variable α} (atomic : Atomic id change)
    (name : String) : Atomic id (onVariable name change) := by
  intro before failure after failed
  rcases onVariable_cases name change before with ⟨_, same⟩ | ⟨position, held, _, here, same⟩
  · rw [same] at failed
    exact (Prod.mk.inj failed).2.symm
  · rw [same] at failed
    obtain ⟨inner, rfl⟩ := Prod.mk.inj failed
    have unchanged : (change held).2 = held := atomic held failure _ (Prod.ext inner rfl)
    obtain ⟨inside, there⟩ := List.getElem?_eq_some_iff.mp here
    have stays : before.bindings.set position held = before.bindings := by
      rw [← there, List.set_getElem_self inside]
    rw [unchanged, stays]

end Steps

section Extension

/-- Nothing is lost where nothing happens. -/
theorem Extends.refl (environment : Environment) : environment.Extends environment where
  binding _ held here := ⟨held, here, Variable.Continues.refl held⟩
  index _ _ found := found
  type _ _ found := found

/-- What stands in a later environment stands in one after it. -/
theorem Extends.trans (first : before.Extends middle) (second : middle.Extends after) :
    before.Extends after where
  binding position held here := by
    obtain ⟨next, there, continues⟩ := first.binding position held here
    obtain ⟨last, still, later⟩ := second.binding position next there
    exact ⟨last, still, continues.trans later⟩
  index name position found := second.index name position (first.index name position found)
  type name ty found := second.type name ty (first.type name ty found)

/-- What is looked up in a list is found as well if the list is longer. -/
theorem lookup_append_of_eq_some {α : Type} {key : String} {value : α}
    {entries : List (String × α)} (found : entries.lookup key = some value)
    (added : List (String × α)) : (entries ++ added).lookup key = some value := by
  rw [List.lookup_append, found, Option.some_or]

/-- A declared variable is added behind those before it. -/
theorem extends_define (held : Variable) (before : Environment) :
    before.Extends (define held before).2 := by
  rw [define_apply]
  split
  · exact Extends.refl before
  · refine ⟨fun position other here => ?_, fun name position found => ?_, fun _ _ found => found⟩
    · have inside : position < before.bindings.length := (List.getElem?_eq_some_iff.mp here).1
      refine ⟨other, ?_, Variable.Continues.refl other⟩
      show (before.bindings ++ [held])[position]? = some other
      rwa [List.getElem?_append_left inside]
    · exact lookup_append_of_eq_some found _

/-- A declared type is added behind those before it. -/
theorem extends_defineType (name : String) (ty : Ty) (before : Environment) :
    before.Extends (defineType name ty before).2 := by
  rw [defineType_apply]
  split
  · exact Extends.refl before
  · refine ⟨fun _ held here => ⟨held, here, Variable.Continues.refl held⟩,
      fun _ _ found => found, fun other old found => ?_⟩
    exact lookup_append_of_eq_some found _

/-- A variable that is changed where it is goes on, and all others are left alone. -/
theorem extends_onVariable {α : Type} {change : Update Variable α}
    (continues : ∀ held : Variable, held.Continues (change held).2) (name : String)
    (before : Environment) :
    before.Extends (onVariable name change before).2 := by
  rcases onVariable_cases name change before with ⟨_, same⟩ | ⟨position, held, _, here, same⟩
  · rw [same]
    exact Extends.refl before
  rw [same]
  refine ⟨fun other old there => ?_, fun _ _ found => found, fun _ _ found => found⟩
  have inside : other < before.bindings.length := (List.getElem?_eq_some_iff.mp there).1
  show ∃ later, (before.bindings.set position (change held).2)[other]? = some later ∧
    old.Continues later
  by_cases same : position = other
  · subst same
    obtain rfl : held = old := Option.some.inj (here.symm.trans there)
    exact ⟨(change held).2, List.getElem?_set_self inside, continues held⟩
  · exact ⟨old, by rwa [List.getElem?_set_ne same], Variable.Continues.refl old⟩

/-- No change loses a declaration or touches a constant. -/
theorem Change.extends (change : before.Change after) : before.Extends after := by
  cases change with
  | define _ => exact extends_define _ before
  | defineType name ty => exact extends_defineType name ty before
  | onVariable name continues => exact extends_onVariable continues name before

/-- A constant is found later as it is. -/
theorem Extends.find?_constant (kept : before.Extends after) {held : Variable}
    (found : before.find? name = some held) (fixed : held.isConstant = true) :
    after.find? name = some held := by
  obtain ⟨position, indexed, here⟩ := find?_eq_some_iff.mp found
  obtain ⟨later, there, continues⟩ := kept.binding position held here
  have same : later = held := by
    cases later
    cases held
    simp only [Variable.mk.injEq]
    exact ⟨continues.name, continues.ty, continues.constant fixed, continues.isConstant⟩
  rw [same] at there
  exact find?_eq_some_iff.mpr ⟨position, kept.index _ position indexed, there⟩

end Extension

section Index

/-- There is nothing to index at first. -/
theorem indexed_empty : empty.Indexed where
  lookup_iff name position := by simp [empty, names]
  lower := by simp [empty, names]
  ne_system := by simp [empty, names]

/-- Names are different, as each of them has one position in the index. -/
theorem Indexed.nodup (indexed : environment.Indexed) : environment.names.Nodup := by
  refine List.pairwise_iff_getElem.mpr fun first second inside below less same => ?_
  have here := (indexed.lookup_iff environment.names[first] first).mpr
    (List.getElem?_eq_getElem inside)
  have there := (indexed.lookup_iff environment.names[second] second).mpr
    (List.getElem?_eq_getElem below)
  rw [same, there] at here
  have equal : second = first := Option.some.inj here
  omega

/-- An environment with the names and the index of one that is in step is in step. -/
theorem Indexed.congr (indexed : before.Indexed) (names : after.names = before.names)
    (index : after.index = before.index) : after.Indexed where
  lookup_iff := by
    rw [names, index]
    exact indexed.lookup_iff
  lower := by
    rw [names]
    exact indexed.lower
  ne_system := by
    rw [names]
    exact indexed.ne_system

/-- An entry is found under its own name alone. -/
theorem lookup_singleton_eq_some_iff {key : String} {position found : Nat} :
    [(key, position)].lookup name = some found ↔ name = key ∧ position = found := by
  by_cases same : name = key
  · simp [same]
  · have test : (name == key) = false := by simpa using same
    simp [List.lookup_cons, test, same]

/-- A name that was free is found at the end of the index, and the names before it where they
were. -/
theorem Indexed.lookup_concat_iff (indexed : before.Indexed) {added name : String} {position : Nat}
    (free : before.index.lookup added = none) :
    (before.index ++ [(added, before.bindings.length)]).lookup name = some position ↔
      (before.names ++ [added])[position]? = some name := by
  have length : before.names.length = before.bindings.length := List.length_map _
  rw [List.lookup_append, Option.or_eq_some_iff, indexed.lookup_iff]
  constructor
  · rintro (old | ⟨_, new⟩)
    · have inside : position < before.names.length := (List.getElem?_eq_some_iff.mp old).1
      rwa [List.getElem?_append_left inside]
    · obtain ⟨rfl, rfl⟩ := lookup_singleton_eq_some_iff.mp new
      rw [← length, List.getElem?_concat_length]
  · intro here
    by_cases inside : position < before.names.length
    · rw [List.getElem?_append_left inside] at here
      exact .inl here
    · have last : position = before.bindings.length := by
        have bound := (List.getElem?_eq_some_iff.mp here).1
        rw [List.length_append, List.length_singleton] at bound
        omega
      subst last
      rw [← length, List.getElem?_concat_length] at here
      obtain rfl := Option.some.inj here
      exact .inr ⟨free, lookup_singleton_eq_some_iff.mpr ⟨rfl, rfl⟩⟩

/-- A variable with a name in lower case is added with the position that it gets. -/
theorem Indexed.define (indexed : before.Indexed) {held : Variable}
    (lower : Text.lower held.name = held.name) : (define held before).2.Indexed := by
  rw [define_apply]
  split
  · exact indexed
  rename_i absent
  simp only [Bool.or_eq_true, decide_eq_true_eq, not_or, Bool.not_eq_true,
    Option.isSome_eq_false_iff, Option.isNone_iff_eq_none] at absent
  obtain ⟨other, free⟩ := absent
  have added : names { before with
      bindings := before.bindings ++ [held]
      index := before.index ++ [(held.name, before.bindings.length)] } =
      before.names ++ [held.name] := List.map_append
  refine ⟨fun name position => ?_, ?_, ?_⟩
  · rw [added]
    exact indexed.lookup_concat_iff free
  · rw [added]
    intro name member
    rcases List.mem_append.mp member with earlier | last
    · exact indexed.lower name earlier
    · rwa [List.mem_singleton.mp last]
  · rw [added]
    intro name member
    rcases List.mem_append.mp member with earlier | last
    · exact indexed.ne_system name earlier
    · rwa [List.mem_singleton.mp last]

/-- A variable that is changed where it is keeps its name. -/
theorem Indexed.onVariable {α : Type} {change : Update Variable α} (indexed : before.Indexed)
    (continues : ∀ held : Variable, held.Continues (change held).2) (name : String) :
    (onVariable name change before).2.Indexed := by
  rcases onVariable_cases name change before with ⟨_, same⟩ | ⟨position, held, _, here, same⟩
  · rw [same]
    exact indexed
  rw [same]
  refine indexed.congr ?_ rfl
  obtain ⟨inside, found⟩ := List.getElem?_eq_some_iff.mp here
  have bound : position < before.names.length := by
    rwa [names, List.length_map]
  have same : before.names[position] = held.name := by
    rw [← found]
    exact List.getElem_map _
  calc
    (before.bindings.set position (change held).2).map Variable.name =
        before.names.set position (change held).2.name := List.map_set
    _ = before.names.set position held.name := congrArg _ (continues held).name
    _ = before.names := by
      rw [← same]
      exact List.set_getElem_self bound

/-- Every change keeps the index in step with the variables. -/
theorem Change.indexed (change : before.Change after) (indexed : before.Indexed) :
    after.Indexed := by
  cases change with
  | define declared =>
    refine indexed.define ?_
    rw [(Variable.of_declare declared).1]
    exact Text.lower_lower _
  | defineType name ty =>
    rw [defineType_apply]
    split
    · exact indexed
    · exact indexed.congr rfl rfl
  | onVariable name continues => exact indexed.onVariable continues name

end Index

end Environment

namespace Reference

/-- Storing a value is a change of one variable. -/
theorem change_set (value : Value) (target : Reference) (before : Environment) :
    before.Change (target.set value before).2 := by
  cases target with
  | whole name => exact .onVariable name (Variable.continues_assign value)
  | part name path field => exact .onVariable name (Variable.continues_onValue _)

/-- Clearing a place is a change of one variable. -/
theorem change_clear (target : Reference) (before : Environment) :
    before.Change (target.clear before).2 := by
  cases target with
  | whole name => exact .onVariable name Variable.continues_clear
  | part name path field => exact .onVariable name (Variable.continues_onValue _)

/-- A value is stored or nothing changes. -/
theorem atomic_set (value : Value) (target : Reference) : Atomic id (target.set value) := by
  cases target with
  | whole name => exact Environment.atomic_onVariable (Variable.atomic_assign value) name
  | part name path field =>
    exact Environment.atomic_onVariable
      (Variable.atomic_onValue (Value.atomic_onPath (Value.atomic_setField field value false) path))
      name

/-- A place is cleared or nothing changes. -/
theorem atomic_clear (target : Reference) : Atomic id target.clear := by
  cases target with
  | whole name => exact Environment.atomic_onVariable Variable.atomic_clear name
  | part name path field =>
    exact Environment.atomic_onVariable
      (Variable.atomic_onValue (Value.atomic_onPath (Value.atomic_clearField field) path)) name

end Reference

end ReportLang
