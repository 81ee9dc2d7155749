import ReportLang.Text.Split

/-!
# Texts cut apart

What cutting a text at its first separator yields, and that marks at the end of a text are dropped.
-/

namespace ReportLang.Text

/-- A separator that does not stand in a text does not cut it. -/
theorem splitFirst?_eq_none_of_not_mem {separator : Char} {chars : List Char}
    (absent : separator ∉ chars) : splitFirst? separator chars = none := by
  induction chars with
  | nil => rfl
  | cons c rest ih =>
    obtain ⟨other, later⟩ := not_or.mp (mt List.mem_cons.mpr absent)
    rw [splitFirst?, if_neg (Ne.symm other), ih later, Option.map_none]

/-- A text is cut at the first separator. -/
theorem splitFirst?_append {separator : Char} {before : List Char} (absent : separator ∉ before)
    (after : List Char) :
    splitFirst? separator (before ++ separator :: after) = some (before, after) := by
  induction before with
  | nil => rw [List.nil_append, splitFirst?, if_pos rfl]
  | cons c rest ih =>
    obtain ⟨other, later⟩ := not_or.mp (mt List.mem_cons.mpr absent)
    rw [List.cons_append, splitFirst?, if_neg (Ne.symm other), ih later, Option.map_some]

/-- A text is what stands before the first separator, the separator and what stands after it. -/
theorem eq_of_splitFirst? {separator : Char} {chars before after : List Char}
    (found : splitFirst? separator chars = some (before, after)) :
    chars = before ++ separator :: after := by
  induction chars generalizing before with
  | nil => simp [splitFirst?] at found
  | cons c rest ih =>
    rw [splitFirst?] at found
    split at found
    · rename_i same
      obtain ⟨rfl, rfl⟩ : [] = before ∧ rest = after := by simpa using found
      rw [same, List.nil_append]
    · obtain ⟨parts, inner, same⟩ := Option.map_eq_some_iff.mp found
      obtain ⟨rfl, rfl⟩ : c :: parts.1 = before ∧ parts.2 = after := by simpa using same
      rw [ih inner, List.cons_append]

/-- Nothing is dropped from a text that does not start with a mark. -/
theorem dropWhile_of_head?_ne {mark : Char} {chars : List Char} (other : chars.head? ≠ some mark) :
    chars.dropWhile (· == mark) = chars := by
  cases chars with
  | nil => rfl
  | cons c rest =>
    have differ : (c == mark) = false := by simpa using other
    rw [List.dropWhile_cons_of_neg (by simp [differ])]

/-- A mark at the end of a text that has no other is dropped. -/
theorem dropEnd_append {mark : Char} {chars : List Char} (absent : mark ∉ chars) :
    dropEnd mark (chars ++ [mark]) = chars := by
  have other : chars.reverse.head? ≠ some mark := fun first =>
    absent (List.mem_reverse.mp (List.mem_of_head? first))
  rw [dropEnd, List.reverse_append, List.reverse_singleton, List.singleton_append,
    List.dropWhile_cons_of_pos (by simp), dropWhile_of_head?_ne other, List.reverse_reverse]

end ReportLang.Text
