import ReportLang.Proofs.Text.LowerCase
import ReportLang.Text.Class

/-!
# Lower-casing and delimiters

Lower-casing introduces none of the characters that open or end the lexemes of a program: for ASCII
this is seen character by character, and the ranges to which the table sends code points are apart
from those of the delimiters. So a delimiter in a lower-cased text stands in the text itself.
-/

namespace ReportLang.Text

/-- Whether a character can open or end a lexeme of a program: a blank, a control character, a
quote, a mark that starts a comment, or punctuation. -/
def isDelimiter (c : Char) : Bool :=
  isBlank c || isControl c || ['\x27', '\x60', '*', '\x22', '.', ',', ':'].contains c

/-- Ranges of code points outside of which there are no delimiters, but characters only. -/
def delimiterRanges : List (Nat × Nat) :=
  [(0, 0x60), (0x7F, 0xA0), (0x1680, 0x1680), (0x2000, 0x205F), (0x3000, 0x3000), (0xD800, 0xDFFF)]

/-- The code point of a delimiter lies in one of the ranges. -/
theorem exists_range_of_isDelimiter {c : Char} (delimiter : isDelimiter c = true) :
    ∃ range ∈ delimiterRanges, range.1 ≤ c.toNat ∧ c.toNat ≤ range.2 := by
  have listed : ['\x27', '\x60', '*', '\x22', '.', ',', ':'].all (·.toNat ≤ 0x60) = true := rfl
  suffices codes : c.toNat ≤ 0x60 ∨ (0x7F ≤ c.toNat ∧ c.toNat ≤ 0xA0) ∨ c.toNat = 0x1680 ∨
      (0x2000 ≤ c.toNat ∧ c.toNat ≤ 0x205F) ∨ c.toNat = 0x3000 by
    simp only [delimiterRanges, List.mem_cons, List.not_mem_nil, or_false, exists_eq_or_imp,
      exists_eq_left]
    omega
  simp only [isDelimiter, Bool.or_eq_true, List.contains_iff_mem] at delimiter
  rcases delimiter with (blank | control) | mark
  · unfold isBlank at blank
    simp only at blank
    split at blank
    · simp only [Bool.or_eq_true, Bool.and_eq_true, beq_iff_eq, decide_eq_true_eq] at blank
      omega
    · simp only [Bool.or_eq_true, Bool.and_eq_true, beq_iff_eq, decide_eq_true_eq] at blank
      omega
  · simp only [isControl, Bool.or_eq_true, Bool.and_eq_true, decide_eq_true_eq] at control
    omega
  · exact .inl (of_decide_eq_true (List.all_eq_true.mp listed c mark))

/-- The lower-case table sends nothing into a range of delimiters. -/
theorem lowerRuns_avoid_delimiters : (lowerRuns.all fun run =>
    Nat.blt (run.target + (run.last - run.first)) 0x110000 &&
      delimiterRanges.all fun range =>
        Nat.blt (run.target + (run.last - run.first)) range.1 || Nat.blt range.2 run.target) =
          true := by
  decide

/-- What the lower-case table sends a code point to is a character outside the ranges of
delimiters. -/
theorem image_outside_delimiterRanges {code image : Nat}
    (sent : CaseRun.lookup lowerRuns code = some image) :
    (Char.ofNat image).toNat = image ∧
      ∀ range ∈ delimiterRanges, image < range.1 ∨ range.2 < image := by
  obtain ⟨run, member, one⟩ := List.exists_of_findSome?_eq_some sent
  obtain ⟨_, low, high⟩ := CaseRun.mem_targets_of_image? one
  have apart := List.all_eq_true.mp lowerRuns_avoid_delimiters run member
  simp only [Bool.and_eq_true, Nat.blt_eq, List.all_eq_true, Bool.or_eq_true] at apart
  have outside : ∀ range ∈ delimiterRanges, image < range.1 ∨ range.2 < image := by
    intro range among
    rcases apart.2 range among with below | above
    · omega
    · omega
  have valid : image.isValidChar := by
    have surrogates := outside (0xD800, 0xDFFF) (by decide)
    unfold Nat.isValidChar
    omega
  refine ⟨?_, outside⟩
  rw [Char.ofNat, dif_pos valid]
  rfl

/-- What the lower-case table sends a character to is no delimiter. -/
theorem not_isDelimiter_of_lookup {code image : Nat}
    (sent : CaseRun.lookup lowerRuns code = some image) :
    isDelimiter (Char.ofNat image) = false := by
  obtain ⟨same, outside⟩ := image_outside_delimiterRanges sent
  cases delimiter : isDelimiter (Char.ofNat image) with
  | false => rfl
  | true =>
    obtain ⟨range, among, inside⟩ := exists_range_of_isDelimiter delimiter
    rw [same] at inside
    have := outside range among
    omega

/-- A delimiter of ASCII is no lower-case form of another character. -/
theorem toLower_of_isDelimiter : ∀ code < 128, isDelimiter (Char.ofNat code).toLower = true →
    (Char.ofNat code).toLower = Char.ofNat code := by
  decide

/-- A delimiter in the lower-case form of a character is that character, and the whole form. -/
theorem lowerBetween_of_isDelimiter {before after : List Char} {c d : Char}
    (member : d ∈ lowerBetween before c after) (delimiter : isDelimiter d = true) :
    lowerBetween before c after = [c] ∧ d = c := by
  suffices whole : lowerBetween before c after = [c] by
    rw [whole] at member
    exact ⟨whole, List.mem_singleton.mp member⟩
  have sigma : isDelimiter finalSigma = false ∧ isDelimiter smallSigma = false := by decide
  unfold lowerBetween at member ⊢
  split at member
  · split at member
    · simp [List.mem_singleton.mp member, sigma] at delimiter
    · simp [List.mem_singleton.mp member, sigma] at delimiter
  · rename_i other
    rw [if_neg other]
    unfold lowerChar at member ⊢
    split at member
    · rename_i ascii
      rw [List.mem_singleton.mp member] at delimiter
      have code := toLower_of_isDelimiter c.toNat ascii
      rw [Char.ofNat_toNat] at code
      rw [if_pos ascii, code delimiter]
    · rename_i notAscii
      rw [if_neg notAscii]
      split at member
      · have forms : ['i', Char.ofNat 0x307].any isDelimiter = false := rfl
        simp [List.any_eq_false.mp forms d member] at delimiter
      · rename_i plain
        rw [if_neg plain]
        split at member
        · rename_i image sent
          rw [List.mem_singleton.mp member, not_isDelimiter_of_lookup sent] at delimiter
          simp at delimiter
        · rfl

/-- Lower-casing introduces no delimiters. -/
theorem mem_of_mem_lowerAfter {before chars : List Char} {d : Char}
    (member : d ∈ lowerAfter before chars) (delimiter : isDelimiter d = true) : d ∈ chars := by
  induction chars generalizing before with
  | nil => simp [lowerAfter] at member
  | cons c rest ih =>
    rw [lowerAfter, List.mem_append] at member
    rcases member with here | later
    · rw [(lowerBetween_of_isDelimiter here delimiter).2]
      exact List.mem_cons_self
    · exact List.mem_cons_of_mem c (ih later)

/-- The lower-case form of a character is not empty. -/
theorem lowerBetween_ne_nil (before : List Char) (c : Char) (after : List Char) :
    lowerBetween before c after ≠ [] := by
  unfold lowerBetween lowerChar
  split
  · split <;> simp
  · split
    · simp
    · split
      · simp
      · split <;> simp

/-- A text that starts with a delimiter after lower-casing starts with it before. -/
theorem head?_of_head?_lowerAfter {before chars : List Char} {d : Char}
    (head : (lowerAfter before chars).head? = some d) (delimiter : isDelimiter d = true) :
    chars.head? = some d := by
  cases chars with
  | nil => simp [lowerAfter] at head
  | cons c rest =>
    obtain ⟨first, more, form⟩ := List.exists_cons_of_ne_nil (lowerBetween_ne_nil before c rest)
    rw [lowerAfter, form, List.cons_append, List.head?_cons, Option.some.injEq] at head
    subst head
    have member : first ∈ lowerBetween before c rest := by simp [form]
    rw [(lowerBetween_of_isDelimiter member delimiter).2]
    rfl

/-- Lower-casing leaves no text empty that was not. -/
theorem lowerAfter_ne_nil {before chars : List Char} (nonempty : chars ≠ []) :
    lowerAfter before chars ≠ [] := by
  obtain ⟨c, rest, rfl⟩ := List.exists_cons_of_ne_nil nonempty
  simp [lowerAfter, lowerBetween_ne_nil]

/-- Lower-casing adds no line breaks. -/
theorem count_newline_lowerAfter_le (before chars : List Char) :
    (lowerAfter before chars).count '\n' ≤ chars.count '\n' := by
  induction chars generalizing before with
  | nil => simp [lowerAfter]
  | cons c rest ih =>
    have here : (lowerBetween before c rest).count '\n' ≤ [c].count '\n' := by
      by_cases member : '\n' ∈ lowerBetween before c rest
      · exact Nat.le_of_eq (by rw [(lowerBetween_of_isDelimiter member rfl).1])
      · rw [List.count_eq_zero.mpr member]
        exact Nat.zero_le _
    have later := ih (c :: before)
    have both : (c :: rest).count '\n' = [c].count '\n' + rest.count '\n' := by
      rw [← List.count_append, List.singleton_append]
    rw [lowerAfter, List.count_append, both]
    omega

end ReportLang.Text
