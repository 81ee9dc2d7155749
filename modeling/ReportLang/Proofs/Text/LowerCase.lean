import ReportLang.Text.Case

/-!
# Lower-case texts stay as they are

No lower-case form has a lower-case form other than itself. For ASCII letters this is seen character
by character; for the table it is checked run against run, and two runs are compared code by code
only where their ranges meet. So a lower-cased text, and every part of one, is its own lower-case
form.
-/

namespace ReportLang.Text

namespace CaseRun

/-- The code points to which a run sends others. -/
def targets (run : CaseRun) : List Nat :=
  (List.range ((run.last - run.first) / run.step + 1)).map fun count =>
    run.target + count * run.step

/-- Whether a run sends nothing to a code point that another run moves. -/
def misses (run other : CaseRun) : Bool :=
  Nat.blt (run.target + (run.last - run.first)) other.first ||
    (Nat.blt other.last run.target ||
      run.targets.all fun code => (other.image? code).isNone)

/-- What a run sends a code point to is one of its targets, and no further than its last one. -/
theorem mem_targets_of_image? {run : CaseRun} {code image : Nat}
    (sent : run.image? code = some image) :
    image ∈ run.targets ∧ run.target ≤ image ∧ image ≤ run.target + (run.last - run.first) := by
  unfold image? at sent
  split at sent
  · rename_i inside
    obtain ⟨low, high, aligned⟩ := inside
    obtain rfl : run.target + (code - run.first) = image := by simpa using sent
    refine ⟨?_, by omega, by omega⟩
    rw [targets, List.mem_map]
    refine ⟨(code - run.first) / run.step, ?_, ?_⟩
    · rw [List.mem_range]
      have bound : (code - run.first) / run.step ≤ (run.last - run.first) / run.step :=
        Nat.div_le_div_right (by omega)
      omega
    · rw [Nat.div_mul_cancel (Nat.dvd_of_mod_eq_zero aligned)]
  · simp at sent

/-- A code point that a run sends something to is moved by no run that it misses. -/
theorem image?_eq_none_of_misses {run other : CaseRun} {code image : Nat}
    (apart : run.misses other = true) (sent : run.image? code = some image) :
    other.image? image = none := by
  obtain ⟨member, low, high⟩ := mem_targets_of_image? sent
  simp only [misses, Bool.or_eq_true, Nat.blt_eq, List.all_eq_true, Option.isNone_iff_eq_none]
    at apart
  rcases apart with below | above | codes
  · rw [image?, if_neg]
    omega
  · rw [image?, if_neg]
    omega
  · exact codes image member

end CaseRun

/-- No run of the lower-case table moves what another one sends code points to. -/
theorem lowerRuns_miss : (lowerRuns.all fun run => lowerRuns.all run.misses) = true := by
  decide +kernel

/-- The lower-case table sends nothing to an ASCII capital or to the dotted capital `i`. -/
theorem lowerRuns_targets : (lowerRuns.all fun run => run.targets.all fun code =>
    (Nat.blt code 65 || Nat.blt 90 code) && (Nat.blt code 0x130 || Nat.blt 0x130 code)) = true := by
  decide

/-- What the lower-case table sends a code point to is not moved by it again. -/
theorem lookup_lowerRuns_image {code image : Nat}
    (sent : CaseRun.lookup lowerRuns code = some image) :
    CaseRun.lookup lowerRuns image = none ∧ (image < 65 ∨ 90 < image) ∧ image ≠ 0x130 := by
  obtain ⟨run, member, one⟩ := List.exists_of_findSome?_eq_some sent
  have apart := List.all_eq_true.mp lowerRuns_miss run member
  have codes := List.all_eq_true.mp lowerRuns_targets run member
  constructor
  · rw [CaseRun.lookup, List.findSome?_eq_none_iff]
    intro other present
    exact CaseRun.image?_eq_none_of_misses (List.all_eq_true.mp apart other present) one
  · have plain := List.all_eq_true.mp codes image (CaseRun.mem_targets_of_image? one).1
    simp only [Bool.and_eq_true, Bool.or_eq_true, Nat.blt_eq] at plain
    exact ⟨plain.1, by omega⟩

/-- Whether a character is its own lower-case form wherever it stands. -/
def IsSmall (c : Char) : Prop :=
  c ≠ capitalSigma ∧ lowerChar c = [c]

/-- ASCII letters have lower-case forms that are their own. -/
theorem toLower_small_of_ascii :
    ∀ code < 128, (Char.ofNat code).toLower.toNat < 128 ∧
      (Char.ofNat code).toLower.toLower = (Char.ofNat code).toLower := by
  decide

/-- A code point outside the capitals of ASCII is an ASCII character in lower case. -/
theorem toLower_of_not_capital :
    ∀ code < 128, (code < 65 ∨ 90 < code) → (Char.ofNat code).toLower = Char.ofNat code := by
  decide

/-- A character of ASCII that is its own lower-case form is small. -/
theorem isSmall_of_ascii {c : Char} (ascii : c.toNat < 128) (lower : c.toLower = c) :
    IsSmall c := by
  constructor
  · rintro rfl
    simp [capitalSigma] at ascii
  · rw [lowerChar, if_pos ascii, lower]

/-- A character that the lower-case table does not move is small, apart from ASCII. -/
theorem isSmall_of_lookup {c : Char} (other : ¬ c.toNat < 128) (plain : c.toNat ≠ 0x130)
    (unmoved : CaseRun.lookup lowerRuns c.toNat = none) : IsSmall c := by
  constructor
  · rintro rfl
    revert unmoved
    decide
  · rw [lowerChar, if_neg other, if_neg plain, unmoved]

/-- What the lower-case table sends a character to is small. -/
theorem isSmall_ofNat_image {code image : Nat}
    (sent : CaseRun.lookup lowerRuns code = some image) : IsSmall (Char.ofNat image) := by
  obtain ⟨unmoved, plain, undotted⟩ := lookup_lowerRuns_image sent
  by_cases ascii : image < 128
  · have small := toLower_of_not_capital image ascii plain
    refine isSmall_of_ascii ?_ small
    have bound := (toLower_small_of_ascii image ascii).1
    rwa [small] at bound
  · by_cases valid : image.isValidChar
    · have same : (Char.ofNat image).toNat = image := by
        rw [Char.ofNat, dif_pos valid]
        rfl
      refine isSmall_of_lookup ?_ ?_ ?_
      · rwa [same]
      · rwa [same]
      · rwa [same]
    · have none : Char.ofNat image = Char.ofNat 0 := by
        rw [Char.ofNat, dif_neg valid]
        rfl
      rw [none]
      exact ⟨by decide, by decide⟩

/-- The lower-case form of a character has small characters only. -/
theorem isSmall_of_mem_lowerChar {c small : Char} (sigma : c ≠ capitalSigma)
    (member : small ∈ lowerChar c) : IsSmall small := by
  unfold lowerChar at member
  split at member
  · rename_i ascii
    obtain rfl := List.mem_singleton.mp member
    have code := toLower_small_of_ascii c.toNat ascii
    rw [Char.ofNat_toNat] at code
    exact isSmall_of_ascii code.1 code.2
  · rename_i other
    split at member
    · simp only [List.mem_cons, List.not_mem_nil, or_false] at member
      rcases member with rfl | rfl
      · exact ⟨by decide, by decide⟩
      · exact ⟨by decide, by decide⟩
    · rename_i plain
      split at member
      · rename_i image sent
        obtain rfl := List.mem_singleton.mp member
        exact isSmall_ofNat_image sent
      · rename_i unmoved
        obtain rfl := List.mem_singleton.mp member
        exact isSmall_of_lookup other plain unmoved

/-- Lower-casing yields small characters only. -/
theorem isSmall_of_mem_lowerAfter {before chars : List Char} {small : Char}
    (member : small ∈ lowerAfter before chars) : IsSmall small := by
  induction chars generalizing before with
  | nil => simp [lowerAfter] at member
  | cons c rest ih =>
    rw [lowerAfter, List.mem_append] at member
    rcases member with here | later
    · unfold lowerBetween at here
      split at here
      · split at here
        · obtain rfl := List.mem_singleton.mp here
          exact ⟨by decide, by decide⟩
        · obtain rfl := List.mem_singleton.mp here
          exact ⟨by decide, by decide⟩
      · rename_i sigma
        exact isSmall_of_mem_lowerChar sigma here
    · exact ih later

/-- Every character of a lower-cased text is small. -/
theorem isSmall_of_mem_lower {text : String} {small : Char}
    (member : small ∈ (lower text).toList) : IsSmall small := by
  rw [lower, String.toList_ofList] at member
  exact isSmall_of_mem_lowerAfter member

/-- Lower-casing small characters changes nothing. -/
theorem lowerAfter_of_isSmall {before chars : List Char} (small : ∀ c ∈ chars, IsSmall c) :
    lowerAfter before chars = chars := by
  induction chars generalizing before with
  | nil => rfl
  | cons c rest ih =>
    obtain ⟨sigma, own⟩ := small c List.mem_cons_self
    rw [lowerAfter, lowerBetween, if_neg sigma, own,
      ih fun other member => small other (List.mem_cons_of_mem c member)]
    rfl

/-- A text of small characters is its own lower-case form. -/
theorem lower_of_isSmall {chars : List Char} (small : ∀ c ∈ chars, IsSmall c) :
    lower (String.ofList chars) = String.ofList chars := by
  rw [lower, String.toList_ofList, lowerAfter_of_isSmall small]

/-- Lower-casing a text twice is lower-casing it once. -/
theorem lower_lower (text : String) : lower (lower text) = lower text := by
  have small : ∀ c ∈ lowerAfter [] text.toList, IsSmall c := fun _ => isSmall_of_mem_lowerAfter
  exact lower_of_isSmall small

end ReportLang.Text
