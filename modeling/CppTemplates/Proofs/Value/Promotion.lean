import Mathlib
import CppTemplates.Proofs.Value.Kinds
import CppTemplates.Value.Promotion

/-!
# The usual arithmetic conversions are conversions of integers

Each step of bringing two operands to a common kind reinterprets bits.  In terms of integers, every
conversion reduces the integer of the operand to the new kind, and an operand is converted to the
common kind or left alone.  So what becomes of an operand depends on its own integer and on the two
kinds only, and the common kind is the higher one of the two.
-/

namespace CppTemplates

namespace ValueKind

/-- The kind that values of a kind are promoted to. -/
def promoted : ValueKind → ValueKind
  | .character | .bool => .signedInt
  | kind => kind

/-- The place of a kind in the order `signed int`, `unsigned int`, `signed long`,
`unsigned long`. -/
def rank : ValueKind → Nat
  | .character | .bool | .signedInt => 0
  | .unsignedInt => 1
  | .signedLong => 2
  | .unsignedLong => 3

/-- The higher one of two kinds after promotion. -/
def common (first second : ValueKind) : ValueKind :=
  if first.promoted.rank ≤ second.promoted.rank then second.promoted else first.promoted

theorem promoted_promoted (kind : ValueKind) : kind.promoted.promoted = kind.promoted := by
  cases kind <;> rfl

theorem common_promoted (first second : ValueKind) :
    common first.promoted second.promoted = common first second := by
  simp only [common, promoted_promoted]

theorem common_comm (first second : ValueKind) : common first second = common second first := by
  cases first <;> cases second <;> rfl

theorem common_eq_or (first second : ValueKind) :
    common first second = first.promoted ∨ common first second = second.promoted := by
  unfold common
  split
  · exact Or.inr rfl
  · exact Or.inl rfl

theorem promoted_common (first second : ValueKind) :
    (common first second).promoted = common first second := by
  rcases common_eq_or first second with same | same <;> rw [same, promoted_promoted]

theorem rank_le_common (first second : ValueKind) :
    first.promoted.rank ≤ (common first second).rank := by
  unfold common
  split
  · assumption
  · exact Nat.le_refl _

theorem ne_bool_of_promoted {kind : ValueKind} (isPromoted : kind.promoted = kind) :
    kind ≠ .bool := by
  rintro rfl
  cases isPromoted

theorem greatest_le_of_rank_le {lower higher : ValueKind} (isPromoted : higher.promoted = higher)
    (le : lower.promoted.rank ≤ higher.rank) : lower.greatest ≤ higher.greatest := by
  revert isPromoted le
  cases lower <;> cases higher <;> decide

theorem least_le_of_rank_le {lower higher : ValueKind} (isPromoted : higher.promoted = higher)
    (le : lower.promoted.rank ≤ higher.rank) (signed : higher.isSigned) :
    higher.least ≤ lower.least := by
  revert isPromoted le signed
  cases lower <;> cases higher <;> decide

theorem least_of_unsigned {kind : ValueKind} (unsigned : kind.isSigned = false) :
    kind.least = 0 := by
  simp [least, unsigned]

end ValueKind

namespace Value

theorem toUnsignedLong_eq_ofInt (value : Value) :
    value.toUnsignedLong = ofInt .unsignedLong value.toInt := by
  cases value with
  | bool truth => cases truth <;> rfl
  | _ => simp [toUnsignedLong, toInt, ofInt, BitVec.signExtend]

theorem toSignedLong_eq_ofInt (value : Value) :
    value.toSignedLong = ofInt .signedLong value.toInt := by
  cases value with
  | bool truth => cases truth <;> rfl
  | _ => simp [toSignedLong, toInt, ofInt, BitVec.signExtend]

theorem toUnsignedInt_eq_ofInt (value : Value) :
    value.toUnsignedInt = ofInt .unsignedInt value.toInt := by
  cases value with
  | bool truth => cases truth <;> rfl
  | signedLong bits =>
      exact congrArg unsignedInt (BitVec.signExtend_eq_setWidth_of_le bits (by omega)).symm
  | _ => simp [toUnsignedInt, toInt, ofInt, BitVec.signExtend]

theorem toInt_integralPromotion (value : Value) :
    value.integralPromotion.toInt = value.toInt := by
  cases value with
  | character bits => exact BitVec.toInt_signExtend_of_le (by omega)
  | bool truth => cases truth <;> rfl
  | _ => rfl

theorem kind_integralPromotion (value : Value) :
    value.integralPromotion.kind = value.kind.promoted := by
  cases value <;> rfl

end Value

/-- The steps convert each operand to the higher kind. -/
theorem toCommonKind_eq {left right : Value} (promotedLeft : left.kind.promoted = left.kind)
    (promotedRight : right.kind.promoted = right.kind) :
    toCommonKind (left, right) =
      (.ofInt (.common left.kind right.kind) left.toInt,
        .ofInt (.common left.kind right.kind) right.toInt) := by
  have leftItself := left.ofInt_toInt
  have rightItself := right.ofInt_toInt
  cases leftKind : left.kind <;> cases rightKind : right.kind <;>
    simp_all [toCommonKind, convertTo, raise, ValueKind.common, ValueKind.promoted, ValueKind.rank,
      Value.toUnsignedLong_eq_ofInt, Value.toSignedLong_eq_ofInt, Value.toUnsignedInt_eq_ofInt]

/-- A higher kind changes an integer only if that is negative and the kind is unsigned. -/
theorem ValueKind.reduce_ne_iff {value : Value} {kind : ValueKind}
    (isPromoted : kind.promoted = kind) (higher : value.kind.promoted.rank ≤ kind.rank) :
    kind.reduce value.toInt ≠ value.toInt ↔ value.toInt < 0 ∧ kind.isSigned = false := by
  have below : value.toInt ≤ kind.greatest :=
    value.toInt_le_greatest.trans (greatest_le_of_rank_le isPromoted higher)
  cases sign : kind.isSigned with
  | true =>
      have above : kind.least ≤ value.toInt :=
        (least_le_of_rank_le isPromoted higher sign).trans value.least_le_toInt
      simp [reduce_eq_self above below]
  | false =>
      have least := least_of_unsigned sign
      have reduced := kind.least_le_reduce value.toInt
      constructor
      · intro changed
        refine ⟨Int.lt_of_not_ge fun nonneg => changed ?_, rfl⟩
        exact reduce_eq_self (by omega) below
      · rintro ⟨negative, -⟩
        omega

theorem Value.abs_toInt_lt {value : Value} {kind : ValueKind} (isPromoted : kind.promoted = kind)
    (higher : value.kind.promoted.rank ≤ kind.rank) : |value.toInt| < 2 ^ kind.width := by
  have above : -2 ^ kind.width < value.kind.least := by
    revert isPromoted higher
    cases value.kind <;> cases kind <;> decide
  have below : value.kind.greatest < 2 ^ kind.width := by
    revert isPromoted higher
    cases value.kind <;> cases kind <;> decide
  exact abs_lt.mpr
    ⟨above.trans_le value.least_le_toInt, value.toInt_le_greatest.trans_lt below⟩

/-- Among the integers of a lower kind only zero is zero in a higher kind. -/
theorem ValueKind.reduce_eq_zero_iff {value : Value} {kind : ValueKind}
    (isPromoted : kind.promoted = kind) (higher : value.kind.promoted.rank ≤ kind.rank) :
    kind.reduce value.toInt = 0 ↔ value.toInt = 0 := by
  constructor
  · intro isZero
    have congruent := reduce_modEq (ne_bool_of_promoted isPromoted) value.toInt
    rw [isZero] at congruent
    exact Int.eq_zero_of_abs_lt_dvd (Int.modEq_zero_iff_dvd.mp congruent.symm)
      (Value.abs_toInt_lt isPromoted higher)
  · intro isZero
    rw [isZero]
    cases kind <;> decide

theorem promote_of_kind_eq {left right : Value} (same : left.kind = right.kind) :
    promote left right = (left, right) :=
  if_pos same

/-- Operands of two kinds are converted to the common kind. -/
theorem promote_of_kind_ne {left right : Value} (differ : left.kind ≠ right.kind) :
    promote left right =
      (.ofInt (.common left.kind right.kind) left.toInt,
        .ofInt (.common left.kind right.kind) right.toInt) := by
  unfold promote
  rw [if_neg differ, toCommonKind_eq]
  · simp only [Value.kind_integralPromotion, Value.toInt_integralPromotion,
      ValueKind.common_promoted]
  · rw [Value.kind_integralPromotion, ValueKind.promoted_promoted]
  · rw [Value.kind_integralPromotion, ValueKind.promoted_promoted]

theorem promote_comm (left right : Value) :
    promote right left = (promote left right).swap := by
  by_cases same : left.kind = right.kind
  · rw [promote_of_kind_eq same, promote_of_kind_eq same.symm]
    rfl
  · rw [promote_of_kind_ne same, promote_of_kind_ne (Ne.symm same), ValueKind.common_comm]
    rfl

theorem kind_promote (left right : Value) :
    (promote left right).1.kind = (promote left right).2.kind := by
  by_cases same : left.kind = right.kind
  · rw [promote_of_kind_eq same]
    exact same
  · rw [promote_of_kind_ne same, Value.kind_ofInt, Value.kind_ofInt]

/-- An operand changes numerically only if it is negative and the kind it comes to is unsigned. -/
theorem toInt_promote_ne_iff (left right : Value) :
    (promote left right).1.toInt ≠ left.toInt ↔
      left.toInt < 0 ∧ (promote left right).1.kind.isSigned = false := by
  by_cases same : left.kind = right.kind
  · have nonneg : left.kind.isSigned = false → 0 ≤ left.toInt := fun unsigned =>
      ValueKind.least_of_unsigned unsigned ▸ left.least_le_toInt
    rw [promote_of_kind_eq same]
    constructor
    · intro changed
      exact absurd rfl changed
    · rintro ⟨negative, unsigned⟩
      exact absurd (nonneg unsigned) (Int.not_le.mpr negative)
  · have isPromoted := ValueKind.promoted_common left.kind right.kind
    rw [promote_of_kind_ne same, Value.kind_ofInt,
      Value.toInt_ofInt (ValueKind.ne_bool_of_promoted isPromoted)]
    exact ValueKind.reduce_ne_iff isPromoted (ValueKind.rank_le_common left.kind right.kind)

theorem toInt_promote_eq_zero_iff (left right : Value) :
    (promote left right).1.toInt = 0 ↔ left.toInt = 0 := by
  by_cases same : left.kind = right.kind
  · rw [promote_of_kind_eq same]
  · have isPromoted := ValueKind.promoted_common left.kind right.kind
    rw [promote_of_kind_ne same, Value.toInt_ofInt (ValueKind.ne_bool_of_promoted isPromoted)]
    exact ValueKind.reduce_eq_zero_iff isPromoted (ValueKind.rank_le_common left.kind right.kind)

/-- Two operands are brought to one kind.  If their kinds agree, nothing happens.  Otherwise the
kind is the higher one of the two after promotion, and each operand becomes what that kind makes of
the integer it stood for.  The order of the operands does not matter, doing it twice is doing it
once, and an operand changes numerically exactly if it is negative and the common kind is
unsigned. -/
theorem promote_converts (left right : Value) :
    (left.kind = right.kind → promote left right = (left, right)) ∧
    (left.kind ≠ right.kind → ∃ kind : ValueKind,
      (kind = left.kind.promoted ∨ kind = right.kind.promoted) ∧
      left.kind.promoted.rank ≤ kind.rank ∧ right.kind.promoted.rank ≤ kind.rank ∧
      (promote left right).1.kind = kind ∧ (promote left right).2.kind = kind ∧
      (promote left right).1.toInt = kind.reduce left.toInt ∧
      (promote left right).2.toInt = kind.reduce right.toInt) ∧
    promote right left = (promote left right).swap ∧
    promote (promote left right).1 (promote left right).2 = promote left right ∧
    ((promote left right).1.toInt ≠ left.toInt ↔
      left.toInt < 0 ∧ (promote left right).1.kind.isSigned = false) ∧
    ((promote left right).2.toInt ≠ right.toInt ↔
      right.toInt < 0 ∧ (promote left right).2.kind.isSigned = false) := by
  refine ⟨promote_of_kind_eq, fun differ => ?_, promote_comm left right,
    promote_of_kind_eq (kind_promote left right), toInt_promote_ne_iff left right, ?_⟩
  · have isInteger : ValueKind.common left.kind right.kind ≠ .bool :=
      ValueKind.ne_bool_of_promoted (ValueKind.promoted_common _ _)
    have higher : right.kind.promoted.rank ≤ (ValueKind.common left.kind right.kind).rank := by
      rw [ValueKind.common_comm]
      exact ValueKind.rank_le_common right.kind left.kind
    rw [promote_of_kind_ne differ]
    exact ⟨_, ValueKind.common_eq_or _ _, ValueKind.rank_le_common _ _, higher,
      Value.kind_ofInt _ _, Value.kind_ofInt _ _, Value.toInt_ofInt isInteger _,
      Value.toInt_ofInt isInteger _⟩
  · have swapped := toInt_promote_ne_iff right left
    rwa [promote_comm left right] at swapped

end CppTemplates
