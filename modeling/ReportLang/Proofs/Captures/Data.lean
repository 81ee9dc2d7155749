import ReportLang.Proofs.Captures

/-!
# Captures as data

The four kinds of captures are written as data without a tag, and still no two captures have the
same data: a text, a truth value, an object and a list are told apart by their form. Two values are
the same data if their objects have the same entries in whatever order (`Json.sorted` puts them in
the order of their names); captures whose names are in order are written in that order already.
-/

namespace ReportLang

namespace Json

mutual

/-- A value with the entries of all its objects in the order of their names. -/
def sorted : Json → Json
  | .integer n => .integer n
  | .float x => .float x
  | .bool b => .bool b
  | .text s => .text s
  | .list items => .list (sortedItems items)
  | .object entries => ofMap (sortedEntries entries)

/-- The items of a list, each with its entries in order. -/
def sortedItems : List Json → List Json
  | [] => []
  | item :: rest => item.sorted :: sortedItems rest

/-- The entries of an object, each value with its own entries in order. -/
def sortedEntries : List (String × Json) → List (String × Json)
  | [] => []
  | (name, value) :: rest => (name, value.sorted) :: sortedEntries rest

end

end Json

section Injectivity

mutual

/-- Captures with the same data are the same. -/
theorem Capture.toJson_inj : (left right : Capture) → left.toJson = right.toJson → left = right
  | .single _, .single _, same => by rw [Json.text.inj same]
  | .flag _, .flag _, same => by rw [Json.bool.inj same]
  | .nested left, .nested right, same => by
    rw [Captures.toEntries_inj left right (Json.object.inj same)]
  | .repeated left, .repeated right, same => by
    rw [Captures.toObjects_inj left right (Json.list.inj same)]
  | .single _, .flag _, same | .single _, .nested _, same | .single _, .repeated _, same
  | .flag _, .single _, same | .flag _, .nested _, same | .flag _, .repeated _, same
  | .nested _, .single _, same | .nested _, .flag _, same | .nested _, .repeated _, same
  | .repeated _, .single _, same | .repeated _, .flag _, same | .repeated _, .nested _, same =>
    nomatch same

/-- Captures by name with the same entries are the same. -/
theorem Captures.toEntries_inj : (left right : Captures) →
    Captures.toEntries left = Captures.toEntries right → left = right
  | [], [], _ => rfl
  | [], _ :: _, same | _ :: _, [], same => nomatch same
  | (name, left) :: rest, (name', right) :: rest', same => by
    obtain ⟨first, later⟩ := List.cons.inj same
    obtain ⟨rfl, value⟩ := Prod.mk.inj first
    rw [Capture.toJson_inj left right value, Captures.toEntries_inj rest rest' later]

/-- Lists of captures with the same objects are the same. -/
theorem Captures.toObjects_inj : (left right : List Captures) →
    Captures.toObjects left = Captures.toObjects right → left = right
  | [], [], _ => rfl
  | [], _ :: _, same | _ :: _, [], same => nomatch same
  | left :: rest, right :: rest', same => by
    obtain ⟨first, later⟩ := List.cons.inj same
    rw [Captures.toEntries_inj left right (Json.object.inj first),
      Captures.toObjects_inj rest rest' later]

end

end Injectivity

section Order

/-- Whether the names in all captures inside of a capture stand in order. -/
inductive Capture.DeeplyOrdered : Capture → Prop where
  /-- A lexeme has no captures inside. -/
  | single {lexeme : Lexeme} : DeeplyOrdered (.single lexeme)
  /-- A flag has no captures inside. -/
  | flag {set : Bool} : DeeplyOrdered (.flag set)
  /-- The captures of a named rule. -/
  | nested {entries : Captures} (ordered : entries.Ordered)
    (inner : ∀ entry ∈ entries, DeeplyOrdered entry.2) : DeeplyOrdered (.nested entries)
  /-- The captures of each match of a repeated rule. -/
  | repeated {items : List Captures} (ordered : ∀ entries ∈ items, entries.Ordered)
    (inner : ∀ entries ∈ items, ∀ entry ∈ entries, DeeplyOrdered entry.2) :
    DeeplyOrdered (.repeated items)

/-- Whether names stand in order, in captures and in those inside of them. -/
structure Captures.DeeplyOrdered (captures : Captures) : Prop where
  /-- The names of the captures themselves stand in order. -/
  ordered : captures.Ordered
  /-- So do those inside of each capture. -/
  inner : ∀ entry ∈ captures, entry.2.DeeplyOrdered

/-- Adding a capture adds its data. -/
theorem Captures.toEntries_insert (name : String) (capture : Capture) (captures : Captures) :
    Captures.toEntries (captures.insert name capture) =
      Json.insertEntry name capture.toJson (Captures.toEntries captures) := by
  induction captures with
  | nil => rfl
  | cons entry rest ih =>
    obtain ⟨other, held⟩ := entry
    rw [insert, toEntries, Json.insertEntry]
    split
    · rfl
    · split
      · rfl
      · rw [toEntries, ih]

/-- Merging captures merges their data. -/
theorem Captures.toEntries_merge (captures later : Captures) :
    Captures.toEntries (captures.merge later) =
      (Captures.toEntries later).foldl (fun sorted entry => Json.insertEntry entry.1 entry.2 sorted)
        (Captures.toEntries captures) := by
  induction later generalizing captures with
  | nil => rfl
  | cons entry rest ih =>
    obtain ⟨name, held⟩ := entry
    rw [toEntries, List.foldl_cons, ← toEntries_insert]
    exact ih (captures.insert name held)

/-- The entries of ordered captures are in order. -/
theorem Captures.ofMap_toEntries {captures : Captures} (ordered : captures.Ordered) :
    Json.ofMap (Captures.toEntries captures) = .object (Captures.toEntries captures) := by
  have merged := toEntries_merge .empty captures
  rw [merge_empty_left ordered] at merged
  exact congrArg Json.object merged.symm

/-- Captures whose values are in order have their entries in order. -/
theorem Captures.sorted_object {captures : Captures} (ordered : captures.Ordered)
    (inner : ∀ entry ∈ captures, entry.2.toJson.sorted = entry.2.toJson) :
    (Json.object (Captures.toEntries captures)).sorted = .object (Captures.toEntries captures) := by
  have entries : Json.sortedEntries (toEntries captures) = toEntries captures := by
    clear ordered
    induction captures with
    | nil => rfl
    | cons entry rest ih =>
      obtain ⟨name, held⟩ := entry
      obtain ⟨first, later⟩ := List.forall_mem_cons.mp inner
      rw [toEntries, Json.sortedEntries, ih later, first]
  rw [Json.sorted, entries, ofMap_toEntries ordered]

/-- A list of objects that are in order is in order. -/
theorem Captures.sortedItems_toObjects {items : List Captures}
    (each : ∀ captures ∈ items, (Json.object (Captures.toEntries captures)).sorted =
      .object (Captures.toEntries captures)) :
    Json.sortedItems (Captures.toObjects items) = Captures.toObjects items := by
  induction items with
  | nil => rfl
  | cons captures rest ih =>
    obtain ⟨first, later⟩ := List.forall_mem_cons.mp each
    rw [toObjects, Json.sortedItems, first, ih later]

/-- A capture with names in order is written in order. -/
theorem Capture.DeeplyOrdered.sorted_toJson {capture : Capture} (ordered : capture.DeeplyOrdered) :
    capture.toJson.sorted = capture.toJson := by
  induction ordered with
  | single => rfl
  | flag => rfl
  | nested ordered _ ih => exact Captures.sorted_object ordered ih
  | repeated ordered _ ih =>
    have each := fun captures member => Captures.sorted_object (ordered captures member)
      (ih captures member)
    exact congrArg Json.list (Captures.sortedItems_toObjects each)

/-- Captures with names in order are written in order. -/
theorem Captures.DeeplyOrdered.sorted_toJson {captures : Captures}
    (ordered : captures.DeeplyOrdered) : captures.toJson.sorted = captures.toJson :=
  Captures.sorted_object ordered.ordered fun entry member =>
    (ordered.inner entry member).sorted_toJson

end Order

end ReportLang
