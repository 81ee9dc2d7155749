import ReportLang.Proofs.Number.PlainText
import ReportLang.Proofs.Result
import ReportLang.Value.Arithmetic
import ReportLang.Value.Field

/-!
# Values of their types

Which types obey the rules for lengths and fields, and which values fit a type: the payload is of
the kind the type asks for, it is no longer than the type admits, and a record has exactly the
fields of its type. Conversion, calculation and changes of fields yield values that fit. A value is
admitted by the length of its type alone, so its payload is only known to be short enough because
every value fits its own type.
-/

namespace ReportLang

/-- Whether a length is one that an elementary type can have. -/
def Base.AdmitsLength (base : Base) (length : Option Nat) : Prop :=
  match base with
  | .character | .numericText | .packed | .hex => ∃ count, length = some count ∧ 1 ≤ count
  | .date => length = some 8
  | .time => length = some 6
  | .integer | .float | .string | .hexString => length = none

mutual

/-- Whether a type obeys the rules: an elementary type has a length its base admits, and the fields
of a record have different names and types that obey the rules. -/
def Ty.Valid : Ty → Prop
  | .elementary base length => base.AdmitsLength length
  | .record fields => (fields.map Prod.fst).Nodup ∧ Ty.ValidFields fields

/-- Whether the types of fields obey the rules. -/
def Ty.ValidFields : List (String × Ty) → Prop
  | [] => True
  | (_, ty) :: rest => ty.Valid ∧ Ty.ValidFields rest

end

/-- A base whose length is not forced admits a length unless one is missing, forbidden or zero. -/
theorem Base.admitsLength_of_free {base : Base} {length : Option Nat}
    (free : base.forcedLength? = none)
    (notMissing : length = none → base.hasChosenLength = true → False)
    (notForbidden : ∀ count, length = some count → base.hasChosenLength = false → False)
    (notZero : length = some 0 → base.hasChosenLength = true → False) :
    base.AdmitsLength length := by
  have chosen (has : base.hasChosenLength = true) : ∃ count, length = some count ∧ 1 ≤ count := by
    match length with
    | none => exact absurd has (notMissing rfl)
    | some 0 => exact absurd has (notZero rfl)
    | some (count + 1) => exact ⟨count + 1, rfl, by omega⟩
  have absent (lacks : base.hasChosenLength = false) : length = none := by
    match length with
    | none => rfl
    | some count => exact absurd lacks (notForbidden count rfl)
  cases base with
  | character => exact chosen rfl
  | numericText => exact chosen rfl
  | hex => exact chosen rfl
  | packed => exact chosen rfl
  | date => cases free
  | time => cases free
  | integer => exact absent rfl
  | float => exact absent rfl
  | string => exact absent rfl
  | hexString => exact absent rfl

/-- An elementary type has a length that its base admits. -/
theorem Ty.valid_of_ofBase {base : Base} {length : Option Nat} {ty : Ty}
    (made : Ty.ofBase base length = .ok ty) : ty.Valid := by
  unfold Ty.ofBase at made
  split at made
  · rename_i forced same
    obtain rfl := Except.ok.inj made
    cases base <;> cases same <;> rfl
  · rename_i forced given same
    split at made
    · obtain rfl := Except.ok.inj made
      cases base <;> cases same <;> rfl
    · simp at made
  · rename_i free
    split at made
    · simp at made
    · simp at made
    · simp at made
    · rename_i given _ _ _ notMissing notForbidden notZero
      obtain rfl := Except.ok.inj made
      generalize given.or base.defaultLength? = chosen at notMissing notForbidden notZero ⊢
      exact Base.admitsLength_of_free free notMissing notForbidden notZero

/-- Whether values of an elementary type are whole numbers. -/
def Base.holdsNumbers : Base → Bool
  | .integer | .numericText | .packed => true
  | _ => false

/-- Whether values of an elementary type are texts. -/
def Base.holdsTexts : Base → Bool
  | .character | .date | .time | .hex | .string | .hexString => true
  | _ => false

/-- Whole numbers are numbers. -/
theorem Base.isNumeric_of_holdsNumbers {base : Base} (kind : base.holdsNumbers = true) :
    base.isNumeric = true := by
  cases base <;> first | rfl | cases kind

/-- Texts are no numbers. -/
theorem Base.isNumeric_of_holdsTexts {base : Base} (kind : base.holdsTexts = true) :
    base.isNumeric = false := by
  cases base <;> first | rfl | cases kind

/-- Whole numbers are not floating-point. -/
theorem Base.ne_float_of_holdsNumbers {base : Base} (kind : base.holdsNumbers = true) :
    base ≠ .float := by
  rintro rfl
  cases kind

/-- Numbers that are not floating-point are whole numbers. -/
theorem Base.holdsNumbers_of_isNumeric {base : Base} (numeric : base.isNumeric = true)
    (whole : base ≠ .float) : base.holdsNumbers = true := by
  cases base <;> first | rfl | exact absurd rfl whole | cases numeric

/-- How many characters of a text count as one in a length: two for bytes in hexadecimal. -/
def Base.width : Base → Nat
  | .hex => 2
  | _ => 1

mutual

/-- Whether a value fits a type. -/
inductive Value.Fits : Ty → Value → Prop where
  /-- A whole number whose digits and sign are no longer than the length. -/
  | number {base : Base} {length : Option Nat} {n : Int} (kind : base.holdsNumbers = true)
    (short : ∀ limit, length = some limit → (toString n).length ≤ limit) :
    Value.Fits (.elementary base length) (.number (.elementary base length) n)
  /-- A floating-point number. -/
  | float {length : Option Nat} {x : Float} :
    Value.Fits (.elementary .float length) (.float (.elementary .float length) x)
  /-- A text that is no longer than the length. -/
  | text {base : Base} {length : Option Nat} {s : String} (kind : base.holdsTexts = true)
    (short : ∀ limit, length = some limit → s.length ≤ base.width * limit) :
    Value.Fits (.elementary base length) (.text (.elementary base length) s)
  /-- A record whose fields fit those of the type. -/
  | record {types : List (String × Ty)} {fields : List (String × Value)}
    (inner : Value.FieldsFit types fields) :
    Value.Fits (.record types) (.record (.record types) fields)

/-- Whether fields have the names of the fields of a type, in the same order, with values that fit
their types. -/
inductive Value.FieldsFit : List (String × Ty) → List (String × Value) → Prop where
  /-- No fields. -/
  | nil : Value.FieldsFit [] []
  /-- A first field and others. -/
  | cons {name : String} {ty : Ty} {value : Value} {types : List (String × Ty)}
    {fields : List (String × Value)} (first : Value.Fits ty value)
    (rest : Value.FieldsFit types fields) :
    Value.FieldsFit ((name, ty) :: types) ((name, value) :: fields)

end

mutual

/-- Whether a value has no floating-point number in it, at any depth. -/
def Value.FloatFree : Value → Prop
  | .number .. | .text .. => True
  | .float .. => False
  | .record _ fields => Value.FloatFreeFields fields

/-- Whether the values of fields have no floating-point number in them. -/
def Value.FloatFreeFields : List (String × Value) → Prop
  | [] => True
  | (_, value) :: rest => value.FloatFree ∧ Value.FloatFreeFields rest

end

/-- A value that fits its own type, which obeys the rules. -/
structure Value.WellTyped (value : Value) : Prop where
  /-- The type obeys the rules. -/
  valid : value.ty.Valid
  /-- The value fits the type. -/
  fits : value.Fits value.ty

namespace Value

variable {value stored : Value} {ty target : Ty}

/-- A value that fits a type has that type. -/
theorem Fits.ty_eq (fits : value.Fits ty) : value.ty = ty := by
  cases fits with
  | number => rfl
  | float => rfl
  | text => rfl
  | record => rfl

/-- A value that fits a type that obeys the rules is well-typed. -/
theorem Fits.wellTyped (fits : value.Fits ty) (valid : ty.Valid) : value.WellTyped := by
  obtain rfl := fits.ty_eq
  exact ⟨valid, fits⟩

/-- A whole number of the integer type is well-typed. -/
theorem wellTyped_ofInteger (n : Int) : (ofInteger n).WellTyped :=
  Fits.wellTyped (.number rfl (by simp)) rfl

/-- A text whose type has its length is well-typed. -/
theorem wellTyped_ofCharacters (s : String) : (ofCharacters s).WellTyped := by
  have positive : 1 ≤ max s.length 1 := le_max_right s.length 1
  refine Fits.wellTyped (.text rfl fun limit same => ?_) ⟨_, rfl, positive⟩
  obtain rfl := Option.some.inj same
  simp [Base.width]

/-- A text of the type without length is well-typed. -/
theorem wellTyped_ofString (s : String) : (ofString s).WellTyped :=
  Fits.wellTyped (.text rfl (by simp)) rfl

/-- A date of eight characters is well-typed. -/
theorem wellTyped_ofDate {s : String} (eight : s.length = 8) : (ofDate s).WellTyped :=
  Fits.wellTyped (.text rfl (by simp [Base.width, eight])) rfl

/-- A time of six characters is well-typed. -/
theorem wellTyped_ofTime {s : String} (six : s.length = 6) : (ofTime s).WellTyped :=
  Fits.wellTyped (.text rfl (by simp [Base.width, six])) rfl

/-- A zero of at least one place fits. -/
theorem fits_zero {base : Base} {count : Nat} (kind : base.holdsNumbers = true)
    (positive : 1 ≤ count) :
    Fits (.elementary base (some count)) (.number (.elementary base (some count)) 0) := by
  have zero : (toString (0 : Int)).length = 1 := by decide
  refine .number kind fun limit same => ?_
  obtain rfl := Option.some.inj same
  omega

mutual

/-- The initial value of a type that obeys the rules fits it. -/
theorem fits_initial : (ty : Ty) → ty.Valid → (initial ty).Fits ty
  | .elementary base length, valid => by
    rw [initial]
    cases base with
    | integer =>
      obtain rfl : length = none := valid
      exact .number rfl (by simp)
    | numericText =>
      obtain ⟨count, rfl, positive⟩ := valid
      exact fits_zero rfl positive
    | packed =>
      obtain ⟨count, rfl, positive⟩ := valid
      exact fits_zero rfl positive
    | float => exact .float
    | character => exact .text rfl (by simp)
    | string => exact .text rfl (by simp)
    | hexString => exact .text rfl (by simp)
    | date =>
      obtain rfl : length = some 8 := valid
      exact .text rfl (by decide)
    | time =>
      obtain rfl : length = some 6 := valid
      exact .text rfl (by decide)
    | hex =>
      obtain ⟨count, rfl, positive⟩ := valid
      exact .text rfl (by simp [Base.width])
  | .record fields, valid => by
    rw [initial]
    exact .record (fieldsFit_initialFields fields valid.2)

/-- The initial values of fields fit their types. -/
theorem fieldsFit_initialFields :
    (fields : List (String × Ty)) → Ty.ValidFields fields → FieldsFit fields (initialFields fields)
  | [], _ => by
    rw [initialFields]
    exact .nil
  | (_, ty) :: rest, valid => by
    rw [initialFields]
    exact .cons (fits_initial ty valid.1) (fieldsFit_initialFields rest valid.2)

end

/-- What is made as the initial value of a type is its initial value. -/
theorem eq_initial_of_makeInitial {ty : Ty} {made : Value} (built : makeInitial ty = .ok made) :
    made = initial ty := by
  unfold makeInitial at built
  split at built
  · exact (Except.ok.inj built).symm
  · cases built

/-- What is made as the initial value of a type that obeys the rules fits it. -/
theorem fits_makeInitial {ty : Ty} {made : Value} (valid : ty.Valid)
    (built : makeInitial ty = .ok made) : made.Fits ty := by
  rw [eq_initial_of_makeInitial built]
  exact fits_initial ty valid

/-- The payload of an elementary value is no longer than the value counts, in characters of its
base: a value whose type has no length counts as long as its payload is. -/
theorem WellTyped.length_asText_le {base : Base} {length : Option Nat}
    (wellTyped : value.WellTyped) (elementary : value.ty = .elementary base length) :
    value.asText.length ≤ base.width * value.length := by
  obtain ⟨valid, fits⟩ := wellTyped
  rw [elementary] at valid fits
  have atLeast (count : Nat) : count ≤ base.width * count :=
    Nat.le_mul_of_pos_left count (by cases base <;> decide)
  cases fits with
  | number kind short =>
    cases length with
    | none => exact atLeast _
    | some limit => exact (short limit rfl).trans (atLeast limit)
  | float =>
    obtain rfl : length = none := valid
    exact atLeast _
  | text kind short =>
    cases length with
    | none => exact atLeast _
    | some limit => exact short limit rfl

/-- A whole number keeps its payload under a type that is not floating-point. -/
theorem retag_number {base : Base} (other : base ≠ .float) (length : Option Nat) (ty : Ty)
    (n : Int) :
    retag (.elementary base length) (.number ty n) = .ok (.number (.elementary base length) n) := by
  cases base <;> first | rfl | exact absurd rfl other

/-- A number that takes a numeric type is a floating-point number if the type is, and a whole one
otherwise. -/
theorem retag_numeric {base : Base} {length : Option Nat} (numeric : base.isNumeric = true)
    (source : value.toFloat?.isSome = true)
    (retagged : value.retag (.elementary base length) = .ok stored) :
    (base.holdsNumbers = true ∧ ∃ n, stored = .number (.elementary base length) n) ∨
      (base = .float ∧ ∃ x, stored = .float (.elementary base length) x) := by
  cases value with
  | number ty n =>
    by_cases float : base = .float
    · subst float
      exact .inr ⟨rfl, _, (Except.ok.inj retagged).symm⟩
    · rw [retag_number float] at retagged
      exact .inl ⟨Base.holdsNumbers_of_isNumeric numeric float, n, (Except.ok.inj retagged).symm⟩
  | float ty x =>
    simp only [retag] at retagged
    split at retagged
    · rename_i different
      split at retagged
      · rename_i n _
        exact .inl ⟨Base.holdsNumbers_of_isNumeric numeric different.1, n,
          (Except.ok.inj retagged).symm⟩
      · simp at retagged
    · rename_i other
      have float : base = .float := by simpa [numeric] using other
      exact .inr ⟨float, x, (Except.ok.inj retagged).symm⟩
  | text => simp [toFloat?] at source
  | record => simp [toFloat?] at source

/-- A number that takes a numeric type fits it if it is short enough afterwards. -/
theorem fits_retag {base : Base} {length : Option Nat} (numeric : base.isNumeric = true)
    (source : value.toFloat?.isSome = true)
    (retagged : value.retag (.elementary base length) = .ok stored)
    (short : ∀ limit, length = some limit → stored.asText.length ≤ limit) :
    stored.Fits (.elementary base length) := by
  obtain ⟨kind, n, rfl⟩ | ⟨rfl, x, rfl⟩ := retag_numeric numeric source retagged
  · exact .number kind short
  · exact .float

/-- A payload does not become longer by taking a type that is not floating-point: a number that is
rounded has no more digits than before. -/
theorem length_asText_retag_le {base : Base} {length : Option Nat}
    (retagged : value.retag (.elementary base length) = .ok stored) (other : base ≠ .float) :
    stored.asText.length ≤ value.asText.length := by
  cases value with
  | number ty n =>
    rw [retag_number other] at retagged
    obtain rfl := Except.ok.inj retagged
    exact le_rfl
  | float ty x =>
    simp only [retag] at retagged
    split at retagged
    · split at retagged
      · rename_i n found
        obtain rfl := Except.ok.inj retagged
        obtain ⟨nearest, inRange⟩ := Option.filter_eq_some_iff.mp found
        exact Number.length_toString_nearest_le nearest inRange
      · simp at retagged
    · obtain rfl := Except.ok.inj retagged
      exact le_rfl
  | text ty s =>
    obtain rfl : Value.text _ _ = stored := Except.ok.inj retagged
    exact le_rfl
  | record ty fields =>
    obtain rfl : Value.record _ _ = stored := Except.ok.inj retagged
    simp [asText]

/-- Numbers are stored under types of numbers only, and texts under types of texts that count
characters alike. -/
theorem kind_of_sameFamily {base source : Base} {length given : Option Nat}
    (family : sameFamily (.elementary source given) (.elementary base length) = true) :
    (source.isNumeric = true → base.isNumeric = true ∧ source.width = 1) ∧
      (source.holdsTexts = true → base.holdsTexts = true ∧ base.width = source.width) := by
  simp only [sameFamily, Ty.isNumeric, Ty.isTextual, Ty.shape, Bool.or_eq_true, Bool.and_eq_true,
    decide_eq_true_eq, Shape.elementary.injEq] at family
  revert family
  cases base <;> cases source <;> decide

/-- A value that counts as short enough for a type of its family fits it. -/
theorem WellTyped.fits_retag {base : Base} {length : Option Nat} (wellTyped : value.WellTyped)
    (valid : base.AdmitsLength length)
    (bound : ∀ limit, length = some limit → value.length ≤ limit)
    (family : sameFamily value.ty (.elementary base length) = true)
    (retagged : value.retag (.elementary base length) = .ok stored) :
    stored.Fits (.elementary base length) := by
  cases typed : value.ty with
  | record fields =>
    rw [typed] at family
    simp [sameFamily, Ty.isNumeric, Ty.isTextual, Ty.shape] at family
  | elementary source given =>
    have payload := wellTyped.length_asText_le typed
    have fits := wellTyped.fits
    rw [typed] at fits family
    obtain ⟨ofNumbers, ofTexts⟩ := kind_of_sameFamily family
    -- A type with a length is not floating-point, so a number is as long as before at most.
    have number (numeric : source.isNumeric = true) (float : value.toFloat?.isSome = true) :
        stored.Fits (.elementary base length) := by
      obtain ⟨numbers, width⟩ := ofNumbers numeric
      refine Value.fits_retag numbers float retagged fun limit some => ?_
      have other : base ≠ .float := by
        rintro rfl
        simp [Base.AdmitsLength, some] at valid
      have shorter := length_asText_retag_le retagged other
      have counted := bound limit some
      rw [width] at payload
      omega
    cases fits with
    | number kind short => exact number (Base.isNumeric_of_holdsNumbers kind) rfl
    | float => exact number rfl rfl
    | text kind short =>
      obtain ⟨texts, width⟩ := ofTexts kind
      obtain rfl : Value.text _ _ = stored := Except.ok.inj retagged
      refine .text texts fun limit some => ?_
      rw [width]
      exact payload.trans (Nat.mul_le_mul_left source.width (bound limit some))

/-- A converted value fits the type it is converted to. -/
theorem fits_convert {allowRecords : Bool} (wellTyped : value.WellTyped) (valid : target.Valid)
    (converted : value.convert target allowRecords = .ok stored) : stored.Fits target := by
  cases target with
  | record fields =>
    simp only [convert] at converted
    split at converted
    · simp at converted
    · split at converted
      · simp at converted
      · rename_i same
        obtain rfl := Except.ok.inj converted
        rw [← Decidable.not_not.mp same]
        exact wellTyped.fits
  | elementary base length =>
    simp only [convert] at converted
    split at converted
    · simp at converted
    · rename_i longEnough
      have bound (limit : Nat) (some : length = some limit) : value.length ≤ limit := by
        simpa [some] using longEnough
      split at converted
      · rename_i family
        exact wellTyped.fits_retag valid bound family converted
      · simp at converted

/-- An operation on two numbers yields a number. -/
theorem isSome_toFloat?_rawResult {operation : Operation} {left right result : Value}
    (raw : rawResult operation left right = .ok result) : result.toFloat?.isSome = true := by
  unfold rawResult at raw
  split at raw
  · obtain ⟨n, _, rfl⟩ := Result.map_eq_ok.mp raw
    rfl
  · obtain ⟨x, _, rfl⟩ := Result.map_eq_ok.mp raw
    rfl

/-- The result of a calculation fits the type of its left operand. -/
theorem fits_calculate {operation : Operation} {left right : Value}
    (calculated : left.calculate operation right = .ok stored) : stored.Fits left.ty := by
  unfold calculate at calculated
  split at calculated
  · simp at calculated
  · rename_i numeric
    obtain ⟨raw, computed, remaining⟩ := Result.bind_eq_ok.mp calculated
    obtain ⟨result, retagged, checked⟩ := Result.bind_eq_ok.mp remaining
    split at checked
    · simp at checked
    · rename_i longEnough
      obtain rfl := Except.ok.inj checked
      simp only [isNumeric, Bool.or_eq_true, Bool.not_eq_true', not_or, Bool.not_eq_false]
        at numeric
      cases typed : left.ty with
      | record fields => simp [typed, Ty.isNumeric] at numeric
      | elementary base length =>
        rw [typed] at retagged numeric longEnough
        refine fits_retag numeric.1 (isSome_toFloat?_rawResult computed) retagged
          fun limit some => ?_
        subst some
        simpa [Ty.length?] using longEnough

end Value

end ReportLang
