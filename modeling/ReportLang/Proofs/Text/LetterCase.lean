import ReportLang.Lexeme
import ReportLang.Text.Case
import ReportLang.Text.Class

/-!
# The case of ASCII letters

Characters that are the same up to ASCII case are equal or both letters, and a letter is neither a
blank nor a control character nor any mark or quote of a program. Texts that are the same up to
ASCII case have the same lower-case form: not even a capital sigma, whose form depends on its
neighbours, can tell them apart.
-/

namespace ReportLang.Text

variable {c d : Char}

/-- What holds of the first 128 code points holds of every character of ASCII. -/
theorem of_ascii (holds : Char → Prop) (codes : ∀ code < 128, holds (Char.ofNat code))
    (ascii : c.toNat < 128) : holds c := by
  have code := codes c.toNat ascii
  rwa [Char.ofNat_toNat] at code

/-- Outside of ASCII there is nothing to lower-case. -/
theorem toLower_of_not_ascii (other : ¬ c.toNat < 128) : c.toLower = c := by
  have plain : ¬ (c.val ≥ 'A'.val ∧ c.val ≤ 'Z'.val) := by
    rintro ⟨_, high⟩
    have code : c.toNat ≤ 'Z'.toNat := UInt32.le_iff_toNat_le.mp high
    have bound : 'Z'.toNat = 90 := rfl
    omega
  exact dif_neg plain

/-- What does not depend on case within ASCII does not depend on it at all. -/
theorem apply_toLower {α : Type} (f : Char → α)
    (codes : ∀ code < 128, f (Char.ofNat code).toLower = f (Char.ofNat code)) (c : Char) :
    f c.toLower = f c := by
  by_cases ascii : c.toNat < 128
  · exact of_ascii (fun c => f c.toLower = f c) codes ascii
  · rw [toLower_of_not_ascii ascii]

/-- What does not depend on case within ASCII is the same for characters that are the same up to
case. -/
theorem apply_eq_of_toLower_eq {α : Type} (f : Char → α)
    (codes : ∀ code < 128, f (Char.ofNat code).toLower = f (Char.ofNat code))
    (same : c.toLower = d.toLower) : f c = f d := by
  rw [← apply_toLower f codes c, same, apply_toLower f codes d]

/-- A letter is a character of ASCII. -/
theorem ascii_of_isAlpha (letter : c.isAlpha = true) : c.toNat < 128 := by
  change (decide ('A'.val ≤ c.val ∧ c.val ≤ 'Z'.val) ||
    decide ('a'.val ≤ c.val) && decide (c.val ≤ 'z'.val)) = true at letter
  simp only [Bool.or_eq_true, Bool.and_eq_true, decide_eq_true_eq, UInt32.le_iff_toNat_le]
    at letter
  have code : c.val.toNat = c.toNat := rfl
  have bounds : 'Z'.val.toNat = 90 ∧ 'z'.val.toNat = 122 := ⟨rfl, rfl⟩
  omega

/-- Only letters are changed. -/
theorem toLower_of_not_isAlpha (plain : c.isAlpha = false) : c.toLower = c := by
  by_cases ascii : c.toNat < 128
  · exact of_ascii (fun c => c.isAlpha = false → c.toLower = c) (by decide) ascii plain
  · exact toLower_of_not_ascii ascii

/-- Characters that are the same up to case are equal, unless they are letters. -/
theorem eq_or_isAlpha_of_toLower_eq (same : c.toLower = d.toLower) :
    c = d ∨ c.isAlpha = true ∧ d.isAlpha = true := by
  have letters : c.isAlpha = d.isAlpha := apply_eq_of_toLower_eq Char.isAlpha (by decide) same
  cases letter : c.isAlpha with
  | true => exact .inr ⟨rfl, letters ▸ letter⟩
  | false =>
    rw [toLower_of_not_isAlpha letter, toLower_of_not_isAlpha (letters ▸ letter)] at same
    exact .inl same

/-- Only the character itself has a lower-case form that is no letter. -/
theorem toLower_eq_iff (plain : d.isAlpha = false) : c.toLower = d ↔ c = d := by
  have own := toLower_of_not_isAlpha plain
  constructor
  · intro same
    rcases eq_or_isAlpha_of_toLower_eq (same.trans own.symm) with equal | ⟨_, letter⟩
    · exact equal
    · simp [plain] at letter
  · rintro rfl
    exact own

/-- Both or neither of two characters that are the same up to case are a given one that is no
letter. -/
theorem eq_iff_of_toLower_eq (same : c.toLower = d.toLower) (mark : Char)
    (plain : mark.isAlpha = false) : c = mark ↔ d = mark := by
  rw [← toLower_eq_iff plain, same, toLower_eq_iff plain]

/-- Whether a character has no meaning of its own between the lexemes of a program. -/
structure IsPlain (c : Char) : Prop where
  /-- It separates no lexemes. -/
  notBlank : isBlank c = false
  /-- It is allowed to stand there. -/
  notControl : isControl c = false
  /-- It is no lexeme of its own. -/
  notMark : Mode.statement.isMark c = false
  /-- It opens no literal. -/
  notQuote : Quote.ofMark? c = none
  /-- It opens no comment. -/
  notComment : c ≠ '\x22'
  /-- It ends no line. -/
  notNewline : c ≠ '\n'

/-- Whether a character is plain can be decided. -/
instance (c : Char) : Decidable (IsPlain c) :=
  decidable_of_iff (isBlank c = false ∧ isControl c = false ∧ Mode.statement.isMark c = false ∧
      Quote.ofMark? c = none ∧ c ≠ '\x22' ∧ c ≠ '\n')
    ⟨fun ⟨blank, control, mark, quote, comment, newline⟩ =>
        ⟨blank, control, mark, quote, comment, newline⟩,
      fun ⟨blank, control, mark, quote, comment, newline⟩ =>
        ⟨blank, control, mark, quote, comment, newline⟩⟩

/-- Letters are plain. -/
theorem isPlain_of_isAlpha (letter : c.isAlpha = true) : IsPlain c :=
  of_ascii (fun c => c.isAlpha = true → IsPlain c) (by decide) (ascii_of_isAlpha letter) letter

/-- Whether a text starts with a character that has case does not depend on that case. -/
theorem startsCased_map_toLower (chars : List Char) :
    startsCased (chars.map Char.toLower) = startsCased chars := by
  have ignorable : isCaseIgnorable ∘ Char.toLower = isCaseIgnorable :=
    funext (apply_toLower isCaseIgnorable (by decide))
  unfold startsCased
  rw [List.dropWhile_map, ignorable]
  cases chars.dropWhile isCaseIgnorable with
  | nil => rfl
  | cons c rest => exact apply_toLower isCased (by decide) c

/-- The lower-case form of a character between its neighbours does not depend on case. -/
theorem lowerBetween_toLower (before : List Char) (c : Char) (after : List Char) :
    lowerBetween (before.map Char.toLower) c.toLower (after.map Char.toLower) =
      lowerBetween before c after := by
  have form : lowerChar c.toLower = lowerChar c := apply_toLower lowerChar (by decide) c
  have sigma : c.toLower = capitalSigma ↔ c = capitalSigma := toLower_eq_iff (by decide)
  simp only [lowerBetween, startsCased_map_toLower, form, sigma]

/-- The lower-case form of a text does not depend on the case of its ASCII letters. -/
theorem lowerAfter_map_toLower (before chars : List Char) :
    lowerAfter (before.map Char.toLower) (chars.map Char.toLower) = lowerAfter before chars := by
  induction chars generalizing before with
  | nil => rfl
  | cons c rest ih =>
    rw [List.map_cons, lowerAfter, lowerAfter, lowerBetween_toLower, ← List.map_cons, ih]

/-- Texts that are the same up to ASCII case have the same lower-case form. -/
theorem lower_eq_of_map_toLower_eq {text other : String}
    (same : text.toList.map Char.toLower = other.toList.map Char.toLower) :
    lower text = lower other := by
  have form := lowerAfter_map_toLower [] text.toList
  rw [same] at form
  rw [lower, lower, ← form, lowerAfter_map_toLower []]

end ReportLang.Text
