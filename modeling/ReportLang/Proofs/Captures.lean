import ReportLang.Captures

/-!
# Reading captures

What is found under a name after captures have been added or merged. Captures are kept in the order
of their names, so that each name occurs once; merging puts what comes later in place of what came
before.
-/

namespace ReportLang.Captures

/-- Whether names stand in order, each of them once. -/
def Ordered (captures : Captures) : Prop :=
  captures.Pairwise fun first later => first.1 < later.1

/-- The first entry is found under its name. -/
theorem get?_cons_self (name : String) (capture : Capture) (rest : Captures) :
    get? ((name, capture) :: rest) name = some capture := by
  simp [get?]

/-- The first entry does not matter for other names. -/
theorem get?_cons_of_ne {name other : String} (differ : name ≠ other) (capture : Capture)
    (rest : Captures) : get? ((other, capture) :: rest) name = get? rest name := by
  have test : (name == other) = false := by simp [differ]
  simp [get?, List.lookup_cons, test]

/-- What is added is found under its name, and nothing changes under other names. -/
theorem get?_insert (captures : Captures) (name other : String) (capture : Capture) :
    (captures.insert name capture).get? other =
      if other = name then some capture else captures.get? other := by
  induction captures with
  | nil =>
    by_cases same : other = name
    · subst same
      rw [insert, get?_cons_self, if_pos rfl]
    · rw [insert, get?_cons_of_ne same, if_neg same]
  | cons entry rest ih =>
    obtain ⟨held, old⟩ := entry
    by_cases same : other = name
    · subst same
      rw [if_pos rfl] at ih
      rw [insert, if_pos rfl]
      split
      · rw [get?_cons_self]
      · split
        · rw [get?_cons_self]
        · rename_i differ
          rw [get?_cons_of_ne differ, ih]
    · rw [if_neg same] at ih
      rw [insert, if_neg same]
      split
      · rw [get?_cons_of_ne same]
      · split
        · rename_i own
          subst own
          rw [get?_cons_of_ne same, get?_cons_of_ne same]
        · by_cases here : other = held
          · subst here
            rw [get?_cons_self, get?_cons_self]
          · rw [get?_cons_of_ne here, get?_cons_of_ne here, ih]

/-- What is added has its own name or one that was there. -/
theorem mem_insert {captures : Captures} {name : String} {capture : Capture}
    {entry : String × Capture} (member : entry ∈ captures.insert name capture) :
    entry = (name, capture) ∨ entry ∈ captures := by
  induction captures with
  | nil => simpa [insert] using member
  | cons head rest ih =>
    obtain ⟨held, old⟩ := head
    rw [insert] at member
    split at member
    · simpa using member
    · split at member
      · rcases List.mem_cons.mp member with new | later
        · exact .inl new
        · exact .inr (List.mem_cons_of_mem _ later)
      · rcases List.mem_cons.mp member with first | later
        · exact .inr (by simp [first])
        · rcases ih later with new | old
          · exact .inl new
          · exact .inr (List.mem_cons_of_mem _ old)

/-- Adding a capture keeps names in order. -/
theorem Ordered.insert {captures : Captures} (ordered : captures.Ordered) (name : String)
    (capture : Capture) : (captures.insert name capture).Ordered := by
  induction captures with
  | nil => exact List.pairwise_singleton _ _
  | cons head rest ih =>
    obtain ⟨held, old⟩ := head
    obtain ⟨first, later⟩ := List.pairwise_cons.mp ordered
    rw [Captures.insert]
    split
    · rename_i below
      refine List.pairwise_cons.mpr ⟨?_, ordered⟩
      intro entry member
      rcases List.mem_cons.mp member with rfl | after
      · exact below
      · exact String.lt_trans below (first entry after)
    · split
      · rename_i own
        subst own
        exact List.pairwise_cons.mpr ⟨first, later⟩
      · rename_i notBelow differ
        refine List.pairwise_cons.mpr ⟨?_, ih later⟩
        intro entry member
        rcases mem_insert member with rfl | after
        · refine String.not_le.mp fun reverse => differ ?_
          exact String.le_antisymm reverse (String.not_lt.mp notBelow)
        · exact first entry after

/-- Merging captures into ordered ones keeps names in order. -/
theorem Ordered.merge {captures : Captures} (ordered : captures.Ordered) (later : Captures) :
    (captures.merge later).Ordered := by
  unfold Captures.merge
  induction later generalizing captures with
  | nil => exact ordered
  | cons entry rest ih => exact ih (ordered.insert entry.1 entry.2)

/-- No captures are in order. -/
theorem ordered_empty : Ordered .empty := List.Pairwise.nil

/-- A single capture is in order. -/
theorem ordered_singleton (name : String) (capture : Capture) :
    (Captures.singleton name capture).Ordered := List.pairwise_singleton _ _

/-- Merging puts what comes later in place of what came before under the same name. -/
theorem get?_merge {captures later : Captures} (ordered : later.Ordered) (name : String) :
    (captures.merge later).get? name = (later.get? name).or (captures.get? name) := by
  unfold merge
  induction later generalizing captures with
  | nil => simp [get?]
  | cons entry rest ih =>
    obtain ⟨held, capture⟩ := entry
    obtain ⟨first, after⟩ := List.pairwise_cons.mp ordered
    rw [List.foldl_cons, ih after, get?_insert]
    by_cases same : name = held
    · subst same
      have absent : get? rest name = none := by
        rw [get?, List.lookup_eq_none_iff]
        intro other member
        have differ := String.ne_of_lt (first other member)
        simpa using differ
      rw [absent, get?_cons_self, if_pos rfl]
      rfl
    · rw [get?_cons_of_ne same, if_neg same]

/-- Nothing is found where nothing was captured. -/
theorem get?_empty (name : String) : get? .empty name = none := rfl

/-- A single capture is found under its name alone. -/
theorem get?_singleton (name other : String) (capture : Capture) :
    (Captures.singleton name capture).get? other =
      if other = name then some capture else none := by
  by_cases same : other = name
  · subst same
    rw [singleton, get?_cons_self, if_pos rfl]
  · rw [singleton, get?_cons_of_ne same, if_neg same]
    rfl

/-- Merging a single capture changes what is found under its name alone. -/
theorem get?_merge_singleton (captures : Captures) (name other : String) (capture : Capture) :
    (captures.merge (.singleton name capture)).get? other =
      if other = name then some capture else captures.get? other := by
  rw [get?_merge (ordered_singleton _ _), get?_singleton]
  by_cases same : other = name
  · rw [if_pos same, if_pos same]
    rfl
  · rw [if_neg same, if_neg same]
    rfl

/-- A capture whose name comes after all others is added at the end. -/
theorem insert_of_lt {captures : Captures} {name : String} (capture : Capture)
    (after : ∀ entry ∈ captures, entry.1 < name) :
    captures.insert name capture = captures ++ [(name, capture)] := by
  induction captures with
  | nil => rfl
  | cons head rest ih =>
    obtain ⟨held, old⟩ := head
    have first := after (held, old) List.mem_cons_self
    have notBelow : ¬ name < held := fun below => String.lt_irrefl _ (String.lt_trans below first)
    have differ : name ≠ held := fun same => String.ne_of_lt first same.symm
    rw [insert, if_neg notBelow, if_neg differ,
      ih fun entry member => after entry (List.mem_cons_of_mem _ member)]
    rfl

/-- Captures that come after others in order are merged by putting them at the end. -/
theorem merge_of_ordered {captures later : Captures} (ordered : (captures ++ later).Ordered) :
    captures.merge later = captures ++ later := by
  induction later generalizing captures with
  | nil => simp [merge]
  | cons entry rest ih =>
    have after : ∀ other ∈ captures, other.1 < entry.1 := fun other member =>
      (List.pairwise_append.mp ordered).2.2 other member entry List.mem_cons_self
    have step : captures.merge (entry :: rest) = (captures.insert entry.1 entry.2).merge rest := rfl
    rw [step, insert_of_lt entry.2 after, ih]
    · simp
    · simpa using ordered

/-- Merging ordered captures into nothing yields them. -/
theorem merge_empty_left {later : Captures} (ordered : later.Ordered) :
    Captures.empty.merge later = later :=
  merge_of_ordered ordered

end ReportLang.Captures
