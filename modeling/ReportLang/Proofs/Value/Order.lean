import ReportLang.Comparison
import ReportLang.Proofs.Value.Typing

/-!
# The order of values

Values compare within three families: numbers, texts and bytes. The order of two values is that of
their payloads as whole numbers or as texts, so it is reflexive, reversed when the two are
exchanged, and transitive. Equality goes through records of any depth, where an error of a later
field matters only if all fields before it are equal; it is an equivalence all the same, as equal
values are those of the same content. Records have no order.
-/

namespace ReportLang

/-- The families of values that compare with each other. -/
inductive Family where
  /-- Numbers, whatever their length. -/
  | numbers
  /-- Texts, and bytes of any number. -/
  | texts
  /-- Bytes of a fixed length. -/
  | bytes
deriving DecidableEq

/-- The family of an elementary type. -/
def Base.family : Base → Family
  | .numericText | .integer | .packed | .float => .numbers
  | .character | .date | .time | .string | .hexString => .texts
  | .hex => .bytes

/-- Texts are of the family of texts, or bytes. -/
theorem Base.family_of_holdsTexts {base : Base} (kind : base.holdsTexts = true) :
    base.family = .texts ∨ base.family = .bytes := by
  revert kind
  cases base <;> decide

/-- The family of a type; records have none. -/
def Ty.family? : Ty → Option Family
  | .elementary base _ => some base.family
  | .record _ => none

/-- What a value is compared by. -/
inductive Key where
  /-- A whole number. -/
  | number (n : ℤ)
  /-- A text. -/
  | text (s : String)
  /-- Bytes in hexadecimal. -/
  | bytes (s : String)

namespace Key

variable {first second third : Key} {order later : Ordering}

/-- The family of what a value is compared by. -/
def family : Key → Family
  | .number _ => .numbers
  | .text _ => .texts
  | .bytes _ => .bytes

/-- The order of two keys of one family. -/
def compare? : Key → Key → Option Ordering
  | .number m, .number n => some (Ord.compare m n)
  | .text s, .text t => some (Ord.compare s t)
  | .bytes s, .bytes t => some (Ord.compare s t)
  | _, _ => none

/-- The order of two keys, by their payloads. -/
inductive Compares : Key → Key → Ordering → Prop where
  /-- Numbers compare by their size. -/
  | number (m n : ℤ) : Compares (.number m) (.number n) (Ord.compare m n)
  /-- Texts compare character by character. -/
  | text (s t : String) : Compares (.text s) (.text t) (Ord.compare s t)
  /-- Bytes compare digit by digit. -/
  | bytes (s t : String) : Compares (.bytes s) (.bytes t) (Ord.compare s t)

/-- Two keys of one family have the order of their payloads. -/
theorem compare?_eq_some_iff :
    first.compare? second = some order ↔ Compares first second order := by
  constructor
  · intro compared
    unfold compare? at compared
    split at compared
    · exact Option.some.inj compared ▸ .number _ _
    · exact Option.some.inj compared ▸ .text _ _
    · exact Option.some.inj compared ▸ .bytes _ _
    · cases compared
  · intro compares
    cases compares with
    | number m n => rfl
    | text s t => rfl
    | bytes s t => rfl

/-- Keys have an order exactly if they are of one family. -/
theorem isSome_compare? (first second : Key) :
    (first.compare? second).isSome = true ↔ first.family = second.family := by
  cases first <;> cases second <;> simp [compare?, family]

/-- A key equals itself. -/
theorem compare?_self (key : Key) : key.compare? key = some .eq := by
  cases key with
  | number n => exact congrArg some Std.ReflCmp.compare_self
  | text s => exact congrArg some Std.ReflCmp.compare_self
  | bytes s => exact congrArg some Std.ReflCmp.compare_self

/-- Keys compare as equal exactly if they are equal. -/
theorem compare?_eq_eq_iff : first.compare? second = some .eq ↔ first = second := by
  constructor
  · intro compared
    generalize equal : Ordering.eq = order at compared
    cases compare?_eq_some_iff.mp compared with
    | number m n => rw [Std.LawfulEqCmp.eq_of_compare equal.symm]
    | text s t => rw [Std.LawfulEqCmp.eq_of_compare equal.symm]
    | bytes s t => rw [Std.LawfulEqCmp.eq_of_compare equal.symm]
  · rintro rfl
    exact compare?_self first

/-- Exchanging two keys reverses their order. -/
theorem compare?_swap (first second : Key) :
    second.compare? first = (first.compare? second).map Ordering.swap := by
  cases first <;> cases second <;> first | rfl | exact congrArg some Std.OrientedCmp.eq_swap

/-- Of two steps that do not lead down, the first one that leads up decides. -/
theorem compare_then {α : Type} [Ord α] [Std.TransOrd α] [Std.LawfulEqOrd α] {x y z : α}
    (below : compare x y ≠ .gt) (above : compare y z ≠ .gt) :
    compare x z = (compare x y).then (compare y z) := by
  cases step : compare x y with
  | lt =>
    have later : (compare y z).isLE = true := by
      cases next : compare y z with
      | lt => rfl
      | eq => rfl
      | gt => exact absurd next above
    exact Std.TransCmp.lt_of_lt_of_isLE step later
  | eq =>
    obtain rfl := Std.LawfulEqCmp.eq_of_compare step
    rfl
  | gt => exact absurd step below

/-- Keys that follow each other are in the same order at a distance. -/
theorem compare?_trans (below : first.compare? second = some order)
    (above : second.compare? third = some later) (notAbove : order ≠ .gt) (notBelow : later ≠ .gt) :
    first.compare? third = some (order.then later) := by
  rw [compare?_eq_some_iff] at below above
  cases below with
  | number m n =>
    cases above with
    | number _ k => exact congrArg some (compare_then notAbove notBelow)
  | text s t =>
    cases above with
    | text _ u => exact congrArg some (compare_then notAbove notBelow)
  | bytes s t =>
    cases above with
    | bytes _ u => exact congrArg some (compare_then notAbove notBelow)

end Key

namespace Value

variable {a b c left right : Value} {ty leftTy rightTy : Ty}

/-- What a text of a type is compared by. -/
def textKey (ty : Ty) (s : String) : Key :=
  if ty.family? = some .bytes then .bytes s else .text s

/-- What a value is compared by; records and floating-point numbers have nothing of the kind. -/
def key? : Value → Option Key
  | .number _ n => some (.number n)
  | .float .. => none
  | .text ty s => some (textKey ty s)
  | .record .. => none

/-- A value that fits an elementary type and is no floating-point number has a key of its family. -/
theorem Fits.exists_key {base : Base} {length : Option Nat} {value : Value}
    (fits : value.Fits (.elementary base length)) (free : value.FloatFree) :
    ∃ key, value.key? = some key ∧ key.family = base.family := by
  cases fits with
  | number kind =>
    refine ⟨_, rfl, ?_⟩
    cases base <;> first | rfl | cases kind
  | float => exact absurd free id
  | text kind =>
    refine ⟨_, rfl, ?_⟩
    cases base <;> first | rfl | cases kind

/-- A record has no key. -/
theorem Fits.key?_record {fields : List (String × Ty)} {value : Value}
    (fits : value.Fits (.record fields)) : value.key? = none := by
  cases fits with
  | record => rfl

/-- Texts compare if they are of one family. -/
theorem comparableTexts_eq {base other : Base} (kind : base.holdsTexts = true)
    (otherKind : other.holdsTexts = true) (length otherLength : Option Nat) :
    comparableTexts (.elementary base length) (.elementary other otherLength) =
      decide (base.family = other.family) := by
  simp only [comparableTexts, Ty.isTextual, Ty.isRecord, Ty.shape, Shape.elementary.injEq]
  revert kind otherKind
  cases base <;> cases other <;> decide

/-- Texts compare as their keys do. -/
theorem compare?_text {base other : Base} (kind : base.holdsTexts = true)
    (otherKind : other.holdsTexts = true) (length otherLength : Option Nat) (s t : String) :
    compare? (.text (.elementary base length) s) (.text (.elementary other otherLength) t) =
      (textKey (.elementary base length) s).compare?
        (textKey (.elementary other otherLength) t) := by
  have notNumber := Base.isNumeric_of_holdsTexts kind
  have compared : compare? (.text (.elementary base length) s)
      (.text (.elementary other otherLength) t) =
        if base.family = other.family then some (Ord.compare s t) else none := by
    simp only [compare?, isNumeric, Value.ty, Ty.isNumeric, notNumber, Bool.false_and,
      Bool.false_eq_true, if_false, comparableTexts_eq kind otherKind, decide_eq_true_eq]
    rfl
  rw [compared]
  rcases Base.family_of_holdsTexts kind with one | one
  · rcases Base.family_of_holdsTexts otherKind with two | two
    · simp [textKey, Ty.family?, one, two, Key.compare?]
    · simp [textKey, Ty.family?, one, two, Key.compare?]
  · rcases Base.family_of_holdsTexts otherKind with two | two
    · simp [textKey, Ty.family?, one, two, Key.compare?]
    · simp [textKey, Ty.family?, one, two, Key.compare?]

/-- No number compares with a text. -/
theorem compare?_number_textKey (n : ℤ) (ty : Ty) (s : String) :
    (Key.number n).compare? (textKey ty s) = none := by
  unfold textKey
  split
  · rfl
  · rfl

/-- No text compares with a number. -/
theorem compare?_textKey_number (ty : Ty) (s : String) (n : ℤ) :
    (textKey ty s).compare? (.number n) = none := by
  rw [Key.compare?_swap, compare?_number_textKey]
  rfl

/-- Values compare as their keys do. -/
theorem compare?_eq_key (first : left.Fits leftTy) (second : right.Fits rightTy)
    (free : left.FloatFree) (other : right.FloatFree) :
    compare? left right = left.key?.bind fun key => right.key?.bind key.compare? := by
  cases first with
  | number kind =>
    have numeric := Base.isNumeric_of_holdsNumbers kind
    cases second with
    | number otherKind =>
      have both := Base.isNumeric_of_holdsNumbers otherKind
      simp [compare?, isNumeric, Value.ty, Ty.isNumeric, numeric, both, key?, Key.compare?]
    | float => exact absurd other id
    | text otherKind =>
      have notNumber := Base.isNumeric_of_holdsTexts otherKind
      simp [compare?, isNumeric, Value.ty, Ty.isNumeric, notNumber, key?, compare?_number_textKey]
    | record => simp [compare?, isNumeric, Value.ty, Ty.isNumeric, key?]
  | float => exact absurd free id
  | text kind =>
    have notNumber := Base.isNumeric_of_holdsTexts kind
    cases second with
    | number =>
      simp [compare?, isNumeric, Value.ty, Ty.isNumeric, notNumber, key?, compare?_textKey_number]
    | float => exact absurd other id
    | text otherKind => exact compare?_text kind otherKind _ _ _ _
    | record => simp [compare?, isNumeric, Value.ty, Ty.isNumeric, key?]
  | record => simp [compare?, isNumeric, Value.ty, Ty.isNumeric, key?]

/-- A comparison tells the order of the keys, and fails if there is none. -/
theorem toOption_compare (left right : Value) :
    (left.compare right).toOption = compare? left right := by
  unfold compare
  split
  · rename_i order found
    exact found.symm
  · rename_i none
    exact none.symm

/-- A step succeeds exactly if there is a result of it. -/
theorem toOption_eq_some_iff {α : Type} {step : Except ValueError α} {value : α} :
    step.toOption = some value ↔ step = .ok value :=
  ⟨Result.eq_ok_of_toOption, fun succeeds => succeeds ▸ rfl⟩

/-- A step fails exactly if there is no result of it. -/
theorem toOption_eq_none_iff {α : Type} {step : Except ValueError α} :
    step.toOption = none ↔ ∃ failure, step = .error failure := by
  cases step with
  | error failure => simp [Except.toOption]
  | ok value => simp [Except.toOption]

/-- A comparison succeeds with an order exactly if there is one. -/
theorem compare_eq_ok_iff {order : Ordering} :
    left.compare right = .ok order ↔ compare? left right = some order := by
  rw [← toOption_compare, toOption_eq_some_iff]

/-- A value has a key of the family of its type, if this has one. -/
theorem Fits.map_family_key? (fits : a.Fits ty) (free : a.FloatFree) :
    a.key?.map Key.family = ty.family? := by
  cases ty with
  | elementary base length =>
    obtain ⟨key, same, family⟩ := fits.exists_key free
    rw [same, Option.map_some, family]
    rfl
  | record fields =>
    rw [fits.key?_record]
    rfl

/-- Exchanging two values reverses their order, and makes no difference for whether there is one. -/
theorem compare?_swap (first : a.Fits leftTy) (second : b.Fits rightTy) (free : a.FloatFree)
    (other : b.FloatFree) : compare? b a = (compare? a b).map Ordering.swap := by
  rw [compare?_eq_key first second free other, compare?_eq_key second first other free]
  cases a.key? with
  | none => cases b.key? <;> rfl
  | some key =>
    cases b.key? with
    | none => rfl
    | some another => exact Key.compare?_swap key another

/-- Values that follow each other are in the same order at a distance. -/
theorem compare?_trans {lastTy : Ty} {order later : Ordering} (first : a.Fits leftTy)
    (second : b.Fits rightTy) (third : c.Fits lastTy) (free : a.FloatFree) (other : b.FloatFree)
    (last : c.FloatFree) (below : compare? a b = some order) (above : compare? b c = some later)
    (notAbove : order ≠ .gt) (notBelow : later ≠ .gt) :
    compare? a c = some (order.then later) := by
  rw [compare?_eq_key first second free other] at below
  rw [compare?_eq_key second third other last] at above
  rw [compare?_eq_key first third free last]
  obtain ⟨one, firstKey, near⟩ := Option.bind_eq_some_iff.mp below
  obtain ⟨two, secondKey, lower⟩ := Option.bind_eq_some_iff.mp near
  obtain ⟨again, same, far⟩ := Option.bind_eq_some_iff.mp above
  obtain ⟨three, thirdKey, upper⟩ := Option.bind_eq_some_iff.mp far
  obtain rfl : two = again := Option.some.inj (secondKey.symm.trans same)
  simp [firstKey, thirdKey, Key.compare?_trans lower upper notAbove notBelow]

section Equality

/-- What equality sees of a value. -/
inductive Content where
  /-- What an elementary value is compared by. -/
  | elementary (key : Option Key)
  /-- The names and contents of the fields of a record. -/
  | record (fields : List (String × Content))

mutual

/-- The content of a value. -/
def content : Value → Content
  | .record _ fields => .record (contents fields)
  | value => .elementary value.key?

/-- The names and contents of fields. -/
def contents : List (String × Value) → List (String × Content)
  | [] => []
  | (name, value) :: rest => (name, value.content) :: contents rest

end

/-- The content of a value is what it is compared by, unless it is a record. -/
theorem Fits.content_cases (fits : a.Fits ty) (free : a.FloatFree) :
    (∃ key, a.key? = some key ∧ a.content = .elementary (some key)) ∨
      ∃ types fields, a = .record (.record types) fields := by
  cases fits with
  | number => exact .inl ⟨_, rfl, rfl⟩
  | float => exact absurd free id
  | text => exact .inl ⟨_, rfl, rfl⟩
  | record => exact .inr ⟨_, _, rfl⟩

/-- Values that are not both records are equal if they compare as equal. -/
theorem equals_eq_compare (elementary : a.isRecord = false ∨ b.isRecord = false)
    (first : a.Fits leftTy) (second : b.Fits rightTy) :
    a.equals b = (a.compare b).map (· == .eq) := by
  cases first with
  | number => rfl
  | float => rfl
  | text => rfl
  | record =>
    cases second with
    | number => rfl
    | float => rfl
    | text => rfl
    | record => simp [isRecord, Value.ty, Ty.isRecord] at elementary

/-- An answer that is changed afterwards. -/
theorem toOption_map {step : Except ValueError Ordering} (change : Ordering → Bool) :
    (step.map change).toOption = step.toOption.map change := by
  cases step with
  | error failure => rfl
  | ok found => rfl

/-- Whether records are equal: as many fields, and equal ones. -/
theorem toOption_equals_record (leftTy rightTy : Ty) (fields others : List (String × Value)) :
    ((record leftTy fields).equals (record rightTy others)).toOption =
      if fields.length = others.length then (equalFields fields others).toOption
      else some false := by
  rw [equals]
  split
  · rfl
  · rename_i same
    rw [if_pos (Decidable.not_not.mp same)]

/-- Whether fields are equal: the later ones matter if the first ones have one name and are
equal. -/
theorem toOption_equalFields_cons (name other : String) (value held : Value)
    (fields others : List (String × Value)) :
    (equalFields ((name, value) :: fields) ((other, held) :: others)).toOption =
      if name = other then
        (value.equals held).toOption.bind fun same =>
          if same then (equalFields fields others).toOption else some false
      else some false := by
  rw [equalFields]
  split
  · rfl
  · rename_i same
    rw [if_pos (Decidable.not_not.mp same)]
    cases value.equals held with
    | error failure => rfl
    | ok answer => cases answer <;> rfl

/-- Records are equal if they have as many fields, of the same names and with equal values. -/
theorem equals_record_eq_true {fields others : List (String × Value)} :
    (record leftTy fields).equals (record rightTy others) = .ok true ↔
      fields.length = others.length ∧ equalFields fields others = .ok true := by
  rw [← toOption_eq_some_iff, ← toOption_eq_some_iff, toOption_equals_record]
  split
  · rename_i same
    simp [same]
  · rename_i differ
    simp [differ]

/-- The first fields and all later ones have to be equal. -/
theorem equalFields_cons_eq_true {name other : String} {value held : Value}
    {fields others : List (String × Value)} :
    equalFields ((name, value) :: fields) ((other, held) :: others) = .ok true ↔
      name = other ∧ value.equals held = .ok true ∧ equalFields fields others = .ok true := by
  simp only [← toOption_eq_some_iff, toOption_equalFields_cons]
  split
  · rename_i same
    cases (value.equals held).toOption with
    | none => simp [same]
    | some answer => cases answer <;> simp [same]
  · rename_i differ
    simp [differ]

/-- An elementary value equals another value exactly if it compares as equal with it. -/
theorem equals_eq_true_iff (elementary : a.isRecord = false ∨ b.isRecord = false)
    (first : a.Fits leftTy) (second : b.Fits rightTy) :
    a.equals b = .ok true ↔ compare? a b = some .eq := by
  rw [equals_eq_compare elementary first second, Result.map_eq_ok, ← compare_eq_ok_iff]
  constructor
  · rintro ⟨order, compared, equal⟩
    rw [compared, eq_of_beq equal]
  · intro compared
    exact ⟨.eq, compared, rfl⟩

/-- Values that are not both records are equal exactly if they have the same content. -/
theorem equals_eq_true_iff_of_elementary (elementary : a.isRecord = false ∨ b.isRecord = false)
    (first : a.Fits leftTy) (second : b.Fits rightTy) (free : a.FloatFree) (other : b.FloatFree) :
    a.equals b = .ok true ↔ a.content = b.content := by
  rw [equals_eq_true_iff elementary first second, compare?_eq_key first second free other]
  rcases first.content_cases free with ⟨key, firstKey, firstContent⟩ | ⟨_, fields, rfl⟩
  · rcases second.content_cases other with ⟨another, secondKey, secondContent⟩ | ⟨_, others, rfl⟩
    · simp [firstKey, secondKey, firstContent, secondContent, Key.compare?_eq_eq_iff]
    · simp [firstContent, key?, content]
  · rcases second.content_cases other with ⟨another, secondKey, secondContent⟩ | ⟨_, others, rfl⟩
    · simp [secondContent, key?, content]
    · simp [isRecord, Value.ty, Ty.isRecord] at elementary

mutual

/-- Values are equal exactly if they have the same content. -/
theorem Fits.equals_eq_true_iff : {leftTy rightTy : Ty} → (left right : Value) →
    left.Fits leftTy → right.Fits rightTy → left.FloatFree → right.FloatFree →
    (left.equals right = .ok true ↔ left.content = right.content)
  | _, _, .record _ fields, .record _ others, .record inner, .record outer, free, other => by
    rw [equals_record_eq_true, inner.equals_eq_true_iff fields others outer free other]
    simp [content]
  | _, _, .number .., _, first@(.number ..), second, free, other =>
    equals_eq_true_iff_of_elementary (.inl rfl) first second free other
  | _, _, .float .., _, _, _, free, _ => absurd free id
  | _, _, .text .., _, first@(.text ..), second, free, other =>
    equals_eq_true_iff_of_elementary (.inl rfl) first second free other
  | _, _, _, .number .., first, second@(.number ..), free, other =>
    equals_eq_true_iff_of_elementary (.inr rfl) first second free other
  | _, _, _, .float .., _, _, _, other => absurd other id
  | _, _, _, .text .., first, second@(.text ..), free, other =>
    equals_eq_true_iff_of_elementary (.inr rfl) first second free other

/-- As many fields are equal exactly if they have the same names and contents. -/
theorem FieldsFit.equals_eq_true_iff : {types otherTypes : List (String × Ty)} →
    (fields others : List (String × Value)) → FieldsFit types fields →
    FieldsFit otherTypes others → FloatFreeFields fields → FloatFreeFields others →
    (fields.length = others.length ∧ equalFields fields others = .ok true ↔
      contents fields = contents others)
  | _, _, [], [], _, _, _, _ => by simp [equalFields, contents]
  | _, _, [], (_, _) :: _, _, _, _, _ => by simp [contents]
  | _, _, (_, _) :: _, [], _, _, _, _ => by simp [contents]
  | _, _, (name, value) :: rest, (otherName, held) :: others, .cons first later, .cons second last,
      free, other => by
    have tail := later.equals_eq_true_iff rest others last free.2 other.2
    rw [equalFields_cons_eq_true, first.equals_eq_true_iff value held second free.1 other.1]
    simp only [contents, List.cons.injEq, Prod.mk.injEq, ← tail, List.length_cons,
      Nat.add_right_cancel_iff]
    tauto

end

/-- Exchanging two values that are not both records makes no difference for whether they are
equal. -/
theorem equals_comm_of_elementary (elementary : a.isRecord = false ∨ b.isRecord = false)
    (first : a.Fits leftTy) (second : b.Fits rightTy) (free : a.FloatFree) (other : b.FloatFree) :
    (b.equals a).toOption = (a.equals b).toOption := by
  have unchanged (order : Ordering) : (order.swap == .eq) = (order == .eq) := by
    cases order <;> rfl
  rw [equals_eq_compare elementary first second, equals_eq_compare elementary.symm second first,
    toOption_map, toOption_map, toOption_compare, toOption_compare,
    compare?_swap first second free other, Option.map_map]
  exact congrArg (compare? a b).map (funext unchanged)

mutual

/-- Exchanging two values makes no difference for whether they are equal, or whether that is an
error. -/
theorem Fits.equals_comm : {leftTy rightTy : Ty} → (left right : Value) → left.Fits leftTy →
    right.Fits rightTy → left.FloatFree → right.FloatFree →
    (right.equals left).toOption = (left.equals right).toOption
  | _, _, .record _ fields, .record _ others, .record inner, .record outer, free, other => by
    rw [toOption_equals_record, toOption_equals_record]
    simp only [eq_comm, inner.equals_comm fields others outer free other]
  | _, _, .number .., _, first@(.number ..), second, free, other =>
    equals_comm_of_elementary (.inl rfl) first second free other
  | _, _, .float .., _, _, _, free, _ => absurd free id
  | _, _, .text .., _, first@(.text ..), second, free, other =>
    equals_comm_of_elementary (.inl rfl) first second free other
  | _, _, _, .number .., first, second@(.number ..), free, other =>
    equals_comm_of_elementary (.inr rfl) first second free other
  | _, _, _, .float .., _, _, _, other => absurd other id
  | _, _, _, .text .., first, second@(.text ..), free, other =>
    equals_comm_of_elementary (.inr rfl) first second free other

/-- Exchanging the fields of two records makes no difference for whether they are equal. -/
theorem FieldsFit.equals_comm : {types otherTypes : List (String × Ty)} →
    (fields others : List (String × Value)) → FieldsFit types fields →
    FieldsFit otherTypes others → FloatFreeFields fields → FloatFreeFields others →
    (equalFields others fields).toOption = (equalFields fields others).toOption
  | _, _, [], _, _, _, _, _ => by simp [equalFields]
  | _, _, _ :: _, [], _, _, _, _ => by simp [equalFields]
  | _, _, (_, value) :: rest, (_, held) :: others, .cons first later, .cons second last, free,
      other => by
    rw [toOption_equalFields_cons, toOption_equalFields_cons]
    simp only [eq_comm, first.equals_comm value held second free.1 other.1,
      later.equals_comm rest others last free.2 other.2]

end

end Equality

section Relational

/-- What a relational operator, in lower case, says about the order of two values. -/
def relation? : String → Option (Ordering → Bool)
  | "=" | "eq" => some (· == .eq)
  | "<>" | "ne" => some (· != .eq)
  | "<" | "lt" => some (· == .lt)
  | ">" | "gt" => some (· == .gt)
  | "<=" | "le" => some (· != .gt)
  | ">=" | "ge" => some (· != .lt)
  | _ => none

/-- A relational operator asks for equality or inequality, or for one of several orders. -/
theorem ofOperator?_of_relation? {name : String} {holds : Ordering → Bool}
    (named : relation? name = some holds) :
    (∃ negated, Comparison.ofOperator? name = some (.equality negated) ∧
        ∀ order, ((order == .eq) != negated) = holds order) ∨
      ∃ accepted, Comparison.ofOperator? name = some (.order accepted) ∧
        ∀ order, accepted.contains order = holds order := by
  unfold relation? at named
  split at named
  case h_13 => cases named
  all_goals obtain rfl := Option.some.inj named
  -- The two spellings of each operator, in the order of the table.
  case h_1 | h_2 => exact .inl ⟨false, rfl, fun order => by cases order <;> rfl⟩
  case h_3 | h_4 => exact .inl ⟨true, rfl, fun order => by cases order <;> rfl⟩
  case h_5 | h_6 => exact .inr ⟨[.lt], rfl, fun order => by cases order <;> rfl⟩
  case h_7 | h_8 => exact .inr ⟨[.gt], rfl, fun order => by cases order <;> rfl⟩
  case h_9 | h_10 => exact .inr ⟨[.lt, .eq], rfl, fun order => by cases order <;> rfl⟩
  case h_11 | h_12 => exact .inr ⟨[.gt, .eq], rfl, fun order => by cases order <;> rfl⟩

/-- A value that has an order to another one is elementary. -/
theorem Fits.isRecord_of_compare {order : Ordering} (first : a.Fits leftTy)
    (second : b.Fits rightTy) (free : a.FloatFree) (other : b.FloatFree)
    (compared : a.compare b = .ok order) : a.isRecord = false := by
  rw [compare_eq_ok_iff, compare?_eq_key first second free other] at compared
  cases first with
  | number => rfl
  | float => rfl
  | text => rfl
  | record => cases compared

/-- Where values have an order, it decides all relational operators. -/
theorem test_eq_of_compare (engine : Text.Engine) {operator : String} {holds : Ordering → Bool}
    {order : Ordering} (first : a.Fits leftTy) (second : b.Fits rightTy) (free : a.FloatFree)
    (other : b.FloatFree)
    (named : relation? (Text.lower operator) = some holds) (compared : a.compare b = .ok order) :
    test engine operator a b = .ok (holds order) := by
  have elementary := first.isRecord_of_compare second free other compared
  rcases ofOperator?_of_relation? named with ⟨negated, means, same⟩ | ⟨accepted, means, same⟩
  · simp only [test, means, Comparison.holds, equals_eq_compare (.inl elementary) first second,
      compared, Except.map, Result.mapError_ok, same]
  · simp only [test, means, Comparison.holds, compared, Except.map, Result.mapError_ok, same]

end Relational

section Payloads

variable {ty otherTy : Ty}

/-- Whether characters stand before others: at the first difference the code point is lower, or the
first characters end. -/
inductive Before : List Char → List Char → Prop where
  /-- The first characters have ended. -/
  | ends (d : Char) (rest : List Char) : Before [] (d :: rest)
  /-- The first difference is a character with a lower code point. -/
  | lower {c d : Char} (below : c.toNat < d.toNat) (rest others : List Char) :
    Before (c :: rest) (d :: others)
  /-- There is no difference yet. -/
  | same (c : Char) {rest others : List Char} (later : Before rest others) :
    Before (c :: rest) (c :: others)

/-- A text is below another one exactly if its characters stand before those of the other. -/
theorem lt_iff_before {s t : String} : s < t ↔ Before s.toList t.toList := by
  show s.toList < t.toList ↔ _
  generalize s.toList = chars, t.toList = others
  constructor
  · intro below
    induction chars generalizing others with
    | nil =>
      cases others with
      | nil => cases below
      | cons d others => exact .ends d others
    | cons c rest ih =>
      cases others with
      | nil => cases below
      | cons d others =>
        rcases List.cons_lt_cons_iff.mp below with lower | ⟨rfl, later⟩
        · exact .lower lower rest others
        · exact .same c (ih others later)
  · intro before
    induction before with
    | ends d rest => exact List.nil_lt_cons d rest
    | lower below rest others => exact List.cons_lt_cons_iff.mpr (.inl below)
    | same c _ ih => exact List.cons_lt_cons_iff.mpr (.inr ⟨rfl, ih⟩)

/-- Numbers have the order of their payloads as whole numbers. -/
theorem compare_numbers (first : ty.isNumeric = true) (second : otherTy.isNumeric = true)
    (m n : ℤ) :
    ((number ty m).compare (.number otherTy n) = .ok .lt ↔ m < n) ∧
      ((number ty m).compare (.number otherTy n) = .ok .eq ↔ m = n) ∧
      ((number ty m).compare (.number otherTy n) = .ok .gt ↔ n < m) := by
  have order : compare? (.number ty m) (.number otherTy n) = some (Ord.compare m n) := by
    simp [compare?, isNumeric, Value.ty, first, second]
  simp only [compare_eq_ok_iff, order, Option.some.injEq]
  exact ⟨compare_lt_iff_lt, compare_eq_iff_eq, compare_gt_iff_gt⟩

/-- Texts that compare have the order of their first difference, by code points. -/
theorem compare_texts (first : ty.isNumeric = false)
    (comparable : comparableTexts ty otherTy = true) (s t : String) :
    ((text ty s).compare (.text otherTy t) = .ok .lt ↔ Before s.toList t.toList) ∧
      ((text ty s).compare (.text otherTy t) = .ok .eq ↔ s = t) ∧
      ((text ty s).compare (.text otherTy t) = .ok .gt ↔ Before t.toList s.toList) := by
  have order : compare? (.text ty s) (.text otherTy t) = some (Ord.compare s t) := by
    simp only [compare?, isNumeric, Value.ty, first, comparable, Bool.false_and, if_true,
      Bool.false_eq_true, if_false]
    rfl
  have below {s t : String} : Ord.compare s t = .lt ↔ s < t := compareOfLessAndEq_eq_lt
  simp only [compare_eq_ok_iff, order, Option.some.injEq, ← lt_iff_before]
  exact ⟨below, Std.LawfulEqCmp.compare_eq_iff_eq, Std.OrientedCmp.gt_iff_lt.trans below⟩

end Payloads

/-- Whether a value is well-typed and has no floating-point number in it. -/
structure IsExact (value : Value) : Prop where
  /-- The value fits its own type, which obeys the rules. -/
  wellTyped : value.WellTyped
  /-- There is no floating-point number in it, at any depth. -/
  floatFree : value.FloatFree

/-- What holds of the comparison of three values. -/
structure OrderLaws (a b c : Value) : Prop where
  /-- There is an order exactly if both types are of one family, so it depends on them alone. -/
  comparable : (∃ order, a.compare b = .ok order) ↔
    ∃ family, a.ty.family? = some family ∧ b.ty.family? = some family
  /-- An elementary value has an order to itself. -/
  comparable_self : a.isRecord = false → ∃ order, a.compare a = .ok order
  /-- If there is an order one way, there is one the other way. -/
  comparable_symm : (∃ order, a.compare b = .ok order) → ∃ order, b.compare a = .ok order
  /-- Values that have an order to the same value have one to each other. -/
  comparable_trans : (∃ order, a.compare b = .ok order) → (∃ order, b.compare c = .ok order) →
    ∃ order, a.compare c = .ok order
  /-- Records have no order. -/
  record : a.isRecord = true → ∃ failure, a.compare b = .error failure
  /-- An elementary value is as large as itself. -/
  compare_self : a.isRecord = false → a.compare a = .ok .eq
  /-- Exchanging two values reverses their order. -/
  compare_swap : ∀ order, a.compare b = .ok order → b.compare a = .ok order.swap
  /-- A value that is not above the next one, which is not above a third, is not above the third; it
  is below it if one of the two is below the next. -/
  compare_trans : ∀ order later, a.compare b = .ok order → b.compare c = .ok later →
    order ≠ .gt → later ≠ .gt → a.compare c = .ok (order.then later)
  /-- Every value equals itself. -/
  equals_self : a.equals a = .ok true
  /-- Exchanging two values makes no difference for whether they are equal. -/
  equals_comm : ∀ answer, a.equals b = .ok answer ↔ b.equals a = .ok answer
  /-- Exchanging two values makes no difference for whether their equality is an error. -/
  equals_error : (∃ failure, a.equals b = .error failure) ↔ ∃ failure, b.equals a = .error failure
  /-- Values that equal the same value equal each other. -/
  equals_trans : a.equals b = .ok true → b.equals c = .ok true → a.equals c = .ok true
  /-- Elementary values are equal exactly if neither is above the other. -/
  equals_iff : a.isRecord = false → b.isRecord = false →
    (a.equals b = .ok true ↔ a.compare b = .ok .eq)
  /-- Where there is an order, it decides all relational operators, in either case of letters. -/
  relational : ∀ engine operator holds order, relation? (Text.lower operator) = some holds →
    a.compare b = .ok order → test engine operator a b = .ok (holds order)
  /-- Where there is an order, exactly one of three operators holds. -/
  trichotomy : ∀ engine, (∃ order, a.compare b = .ok order) →
    (test engine "<" a b = .ok true ∧ test engine "=" a b = .ok false ∧
        test engine ">" a b = .ok false) ∨
      (test engine "<" a b = .ok false ∧ test engine "=" a b = .ok true ∧
        test engine ">" a b = .ok false) ∨
      (test engine "<" a b = .ok false ∧ test engine "=" a b = .ok false ∧
        test engine ">" a b = .ok true)
  /-- Where there is an order, each of the other three operators is the opposite of one of these. -/
  opposite : ∀ engine, (∃ order, a.compare b = .ok order) →
    test engine "<>" a b = (test engine "=" a b).map (!·) ∧
      test engine "<=" a b = (test engine ">" a b).map (!·) ∧
      test engine ">=" a b = (test engine "<" a b).map (!·)

/-- There is an order of two values exactly if their types are of one family. -/
theorem exists_compare_iff (first : a.Fits leftTy) (second : b.Fits rightTy) (free : a.FloatFree)
    (other : b.FloatFree) : (∃ order, a.compare b = .ok order) ↔
      ∃ family, leftTy.family? = some family ∧ rightTy.family? = some family := by
  simp only [compare_eq_ok_iff, ← first.map_family_key? free, ← second.map_family_key? other,
    compare?_eq_key first second free other]
  cases a.key? with
  | none => simp
  | some key =>
    cases b.key? with
    | none => simp
    | some another =>
      have related := Key.isSome_compare? key another
      rw [Option.isSome_iff_exists] at related
      simpa [eq_comm] using related

/-- Where values have an order, exactly one of three operators holds. -/
theorem test_trichotomy {engine : Text.Engine} {order : Ordering}
    (decided : ∀ operator holds, relation? (Text.lower operator) = some holds →
      test engine operator a b = .ok (holds order)) :
    (test engine "<" a b = .ok true ∧ test engine "=" a b = .ok false ∧
        test engine ">" a b = .ok false) ∨
      (test engine "<" a b = .ok false ∧ test engine "=" a b = .ok true ∧
        test engine ">" a b = .ok false) ∨
      (test engine "<" a b = .ok false ∧ test engine "=" a b = .ok false ∧
        test engine ">" a b = .ok true) := by
  rw [decided "<" (· == .lt) rfl, decided "=" (· == .eq) rfl, decided ">" (· == .gt) rfl]
  cases order with
  | lt => exact .inl ⟨rfl, rfl, rfl⟩
  | eq => exact .inr (.inl ⟨rfl, rfl, rfl⟩)
  | gt => exact .inr (.inr ⟨rfl, rfl, rfl⟩)

/-- Where values have an order, the other three operators are the opposites of these. -/
theorem test_opposite {engine : Text.Engine} {order : Ordering}
    (decided : ∀ operator holds, relation? (Text.lower operator) = some holds →
      test engine operator a b = .ok (holds order)) :
    test engine "<>" a b = (test engine "=" a b).map (!·) ∧
      test engine "<=" a b = (test engine ">" a b).map (!·) ∧
      test engine ">=" a b = (test engine "<" a b).map (!·) := by
  rw [decided "<>" (· != .eq) rfl, decided "=" (· == .eq) rfl, decided "<=" (· != .gt) rfl,
    decided ">" (· == .gt) rfl, decided ">=" (· != .lt) rfl, decided "<" (· == .lt) rfl]
  exact ⟨rfl, rfl, rfl⟩

/-- Comparison is an order on each family of values, and equality an equivalence of all of them. -/
theorem exact_values_are_ordered (first : a.IsExact) (second : b.IsExact) (third : c.IsExact) :
    OrderLaws a b c := by
  obtain ⟨⟨_, fits⟩, free⟩ := first
  obtain ⟨⟨_, fitsNext⟩, freeNext⟩ := second
  obtain ⟨⟨_, fitsLast⟩, freeLast⟩ := third
  have comparable := exists_compare_iff fits fitsNext free freeNext
  have comparableNext := exists_compare_iff fitsNext fitsLast freeNext freeLast
  have comparableLast := exists_compare_iff fits fitsLast free freeLast
  have equal := fits.equals_eq_true_iff a b fitsNext free freeNext
  have equalNext := fitsNext.equals_eq_true_iff b c fitsLast freeNext freeLast
  have equalLast := fits.equals_eq_true_iff a c fitsLast free freeLast
  have exchanged := fits.equals_comm a b fitsNext free freeNext
  have itself := (fits.equals_eq_true_iff a a fits free free).mpr rfl
  have compareSelf (elementary : a.isRecord = false) : a.compare a = .ok .eq :=
    compare_eq_ok_iff.mpr ((equals_eq_true_iff (.inl elementary) fits fits).mp itself)
  have swap (order : Ordering) (compared : a.compare b = .ok order) :
      b.compare a = .ok order.swap := by
    rw [compare_eq_ok_iff] at compared ⊢
    rw [compare?_swap fits fitsNext free freeNext, compared]
    rfl
  have decided (engine : Text.Engine) (order : Ordering) (compared : a.compare b = .ok order)
      (operator : String) (holds : Ordering → Bool)
      (named : relation? (Text.lower operator) = some holds) :=
    test_eq_of_compare engine fits fitsNext free freeNext named compared
  exact {
    comparable
    comparable_self := fun elementary => ⟨.eq, compareSelf elementary⟩
    comparable_symm := fun ⟨order, compared⟩ => ⟨order.swap, swap order compared⟩
    comparable_trans := fun near far => by
      obtain ⟨family, one, two⟩ := comparable.mp near
      obtain ⟨other, same, three⟩ := comparableNext.mp far
      obtain rfl : family = other := Option.some.inj (two.symm.trans same)
      exact comparableLast.mpr ⟨family, one, three⟩
    record := fun isRecord => by
      cases compared : a.compare b with
      | error failure => exact ⟨failure, rfl⟩
      | ok order =>
        have elementary := fits.isRecord_of_compare fitsNext free freeNext compared
        simp [elementary] at isRecord
    compare_self := compareSelf
    compare_swap := swap
    compare_trans := fun order later near far notAbove notBelow => by
      rw [compare_eq_ok_iff] at near far ⊢
      exact compare?_trans fits fitsNext fitsLast free freeNext freeLast near far notAbove notBelow
    equals_self := itself
    equals_comm := fun answer => by
      rw [← toOption_eq_some_iff, ← toOption_eq_some_iff, exchanged]
    equals_error := by
      rw [← toOption_eq_none_iff, ← toOption_eq_none_iff, exchanged]
    equals_trans := fun near far => equalLast.mpr ((equal.mp near).trans (equalNext.mp far))
    equals_iff := fun elementary _ => by
      rw [compare_eq_ok_iff, equals_eq_true_iff (.inl elementary) fits fitsNext]
    relational := fun engine operator holds order named compared =>
      decided engine order compared operator holds named
    trichotomy := fun engine ⟨order, compared⟩ => test_trichotomy (decided engine order compared)
    opposite := fun engine ⟨order, compared⟩ => test_opposite (decided engine order compared) }

/-- Records that hold a number inside a field, and numbers of different types. -/
theorem exact_values_are_ordered_nested :
    let place := Ty.record [("x", .elementary .integer none)]
    let point (x : Int) : Value :=
      .record (.record [("name", .elementary .string none), ("place", place)])
        [("name", ofString "here"), ("place", .record place [("x", ofInteger x)])]
    let digits (n : Int) : Value := .number (.elementary .numericText (some 2)) n
    (∀ x, (point x).IsExact) ∧ OrderLaws (point 1) (point 1) (point 2) ∧
      (point 1).equals (point 2) = .ok false ∧
      (digits 7).IsExact ∧ OrderLaws (digits 7) (ofInteger 12) (digits 7) ∧
      (digits 7).compare (ofInteger 12) = .ok .lt := by
  intro place point digits
  have points (x : Int) : (point x).IsExact := by
    refine ⟨Fits.wellTyped (.record (.cons ?_ (.cons (.record (.cons ?_ .nil)) .nil))) ?_, ?_⟩
    · exact (wellTyped_ofString "here").fits
    · exact (wellTyped_ofInteger x).fits
    · simp [Ty.Valid, Ty.ValidFields, Base.AdmitsLength, place]
    · simp [point, FloatFree, FloatFreeFields, ofString, ofInteger]
  have seven : (digits 7).IsExact :=
    ⟨Fits.wellTyped (.number rfl (by decide)) ⟨2, rfl, by decide⟩, trivial⟩
  have twelve : (ofInteger 12).IsExact := ⟨wellTyped_ofInteger 12, trivial⟩
  have records := exact_values_are_ordered (points 1) (points 1) (points 2)
  have numbers := exact_values_are_ordered seven twelve seven
  exact ⟨points, records, by cbv, seven, numbers, by cbv⟩

end Value

end ReportLang
