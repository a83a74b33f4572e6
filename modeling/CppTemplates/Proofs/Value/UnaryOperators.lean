import Mathlib
import CppTemplates.Proofs.Value.Arithmetic

/-!
# Unary operators agree with the binary ones

The unary operators are written for each kind, the binary ones once for words of any width.  Both
are compared with the integers: `-` takes the integer `n` of a value to `-n`, `~` takes it to
`-n - 1`, an increment takes it to `n + 1` and `!` to zero or one, each brought back to the kind.
An integer kind does not tell congruent integers apart, so the operators on its values commute with
bringing an integer to the kind, and an identity of integers is one of values, also where a step
leaves the range.

A truth value keeps of an integer only whether it is zero.  Its negation is still zero less the
value, but its complement is always true and its increment fails.
-/

namespace CppTemplates

namespace Value

theorem negate_eq_ofInt (value : Value) : value.negate = ofInt value.kind (-value.toInt) := by
  cases value with
  | bool truth => cases truth <;> rfl
  | _ => simp [negate, kind, ofInt, toInt, BitVec.ofInt_neg]

theorem complement_eq_ofInt (value : Value) :
    value.complement = ofInt value.kind (-value.toInt - 1) := by
  cases value with
  | bool truth => cases truth <;> rfl
  | _ => simp [complement, kind, ofInt, toInt, ofInt_sub, BitVec.ofInt_neg, BitVec.not_eq_neg_add]

theorem logicalNot_eq_ofInt (value : Value) :
    value.logicalNot = ofInt value.kind (if value.isZero then 1 else 0) := by
  cases value with
  | bool truth => cases truth <;> rfl
  | signedInt bits | unsignedInt bits | signedLong bits | unsignedLong bits | character bits =>
      by_cases zero : bits = 0
      · rw [zero]
        rfl
      · simp only [logicalNot, isZero, beq_eq_false_iff_ne.mpr zero, if_neg zero]
        rfl

theorem increment_eq_ofInt {value : Value} (isInteger : value.kind ≠ .bool) :
    value.increment = .ok (ofInt value.kind (value.toInt + 1)) := by
  cases value with
  | bool truth => exact absurd rfl isInteger
  | _ => simp [increment, kind, ofInt, toInt, BitVec.ofInt_add]

/-- Only truth values cannot be incremented. -/
theorem increment_eq_error_iff (value : Value) (cause : EvaluationError) :
    value.increment = .error cause ↔ value.kind = .bool ∧ cause = .invalidIncrement .bool := by
  cases value <;> simp [increment, kind, eq_comm]

theorem kind_negate (value : Value) : value.negate.kind = value.kind := by
  rw [negate_eq_ofInt, kind_ofInt]

theorem kind_complement (value : Value) : value.complement.kind = value.kind := by
  rw [complement_eq_ofInt, kind_ofInt]

theorem kind_logicalNot (value : Value) : value.logicalNot.kind = value.kind := by
  rw [logicalNot_eq_ofInt, kind_ofInt]

theorem kind_of_increment {value next : Value} (incremented : value.increment = .ok next) :
    next.kind = value.kind := by
  by_cases isBool : value.kind = .bool
  · have fails := (value.increment_eq_error_iff _).mpr ⟨isBool, rfl⟩
    cases fails.symm.trans incremented
  · cases (increment_eq_ofInt isBool).symm.trans incremented
    exact kind_ofInt _ _

theorem isZero_logicalNot (value : Value) : value.logicalNot.isZero = !value.isZero := by
  rw [logicalNot_eq_ofInt]
  cases value.isZero with
  | true => cases value.kind <;> rfl
  | false => cases value.kind <;> rfl

section Integers

variable {kind : ValueKind} (isInteger : kind ≠ .bool)

include isInteger

theorem negate_ofInt (n : Int) : (ofInt kind n).negate = ofInt kind (-n) := by
  rw [negate_eq_ofInt, kind_ofInt]
  exact ofInt_congr isInteger (toInt_ofInt_modEq isInteger n).neg

theorem complement_ofInt (n : Int) : (ofInt kind n).complement = ofInt kind (-n - 1) := by
  rw [complement_eq_ofInt, kind_ofInt]
  exact ofInt_congr isInteger ((toInt_ofInt_modEq isInteger n).neg.sub_right 1)

/-- An operator whose result on two integers is an integer makes the same of their values. -/
theorem apply_ofInt {operator : BinaryOperator} {first second exact n : Int}
    (result : operator.exact kind.width (ofInt kind first).toInt (ofInt kind second).toInt =
      some (.integer exact))
    (congruent : exact ≡ n [ZMOD 2 ^ kind.width]) (span : FileSpan) :
    operator.apply (ofInt kind first) (ofInt kind second) span = .ok (ofInt kind n) := by
  have sameKind : (ofInt kind first).kind = (ofInt kind second).kind := by
    rw [kind_ofInt, kind_ofInt]
  rw [BinaryOperator.apply_eq_exact _ sameKind, kind_ofInt, result,
    ← ofInt_congr isInteger congruent, ← ofInt_reduce isInteger]
  rfl

theorem add_ofInt (first second : Int) (span : FileSpan) :
    BinaryOperator.add.apply (ofInt kind first) (ofInt kind second) span =
      .ok (ofInt kind (first + second)) :=
  apply_ofInt isInteger rfl
    ((toInt_ofInt_modEq isInteger first).add (toInt_ofInt_modEq isInteger second)) span

theorem subtract_ofInt (first second : Int) (span : FileSpan) :
    BinaryOperator.subtract.apply (ofInt kind first) (ofInt kind second) span =
      .ok (ofInt kind (first - second)) :=
  apply_ofInt isInteger rfl
    ((toInt_ofInt_modEq isInteger first).sub (toInt_ofInt_modEq isInteger second)) span

end Integers

theorem subtract_zero_eq_negate (value : Value) (span : FileSpan) :
    BinaryOperator.subtract.apply (ofInt value.kind 0) value span = .ok value.negate := by
  by_cases isBool : value.kind = .bool
  · cases value with
    -- Zero less one is the greatest byte, which is not zero and so is true.
    | bool truth => cases truth <;> rfl
    | _ => cases isBool
  · calc BinaryOperator.subtract.apply (ofInt value.kind 0) value span
      _ = .ok (ofInt value.kind (0 - value.toInt)) := by
          rw [← subtract_ofInt isBool, ofInt_toInt]
      _ = .ok value.negate := by
          rw [zero_sub, negate_eq_ofInt]

section IntegerValues

variable {value : Value} (isInteger : value.kind ≠ .bool)

include isInteger

theorem increment_eq_add_one (span : FileSpan) :
    value.increment = BinaryOperator.add.apply value (ofInt value.kind 1) span := by
  rw [increment_eq_ofInt isInteger, ← add_ofInt isInteger, ofInt_toInt]

theorem negate_sub_one (span : FileSpan) :
    BinaryOperator.subtract.apply value.negate (ofInt value.kind 1) span =
      .ok value.complement := by
  rw [negate_eq_ofInt, subtract_ofInt isInteger, complement_eq_ofInt]

theorem map_negate_increment : value.increment.map negate = .ok value.complement := by
  calc value.increment.map negate
    _ = .ok (ofInt value.kind (-(value.toInt + 1))) := by
        rw [increment_eq_ofInt isInteger, ← negate_ofInt isInteger]
        rfl
    _ = .ok value.complement := by
        rw [neg_add', complement_eq_ofInt]

theorem negate_negate : value.negate.negate = value := by
  calc value.negate.negate
    _ = ofInt value.kind (- -value.toInt) := by
        rw [negate_eq_ofInt value, negate_ofInt isInteger]
    _ = value := by
        rw [neg_neg, ofInt_toInt]

theorem complement_complement : value.complement.complement = value := by
  calc value.complement.complement
    _ = ofInt value.kind (-(-value.toInt - 1) - 1) := by
        rw [complement_eq_ofInt value, complement_ofInt isInteger]
    _ = value := by
        rw [neg_sub, sub_neg_eq_add, add_sub_cancel_left, ofInt_toInt]

end IntegerValues

end Value

/-- Unary operators agree with the binary ones.  Any value is negated by taking it from the zero of
its kind, and `!` turns zero into what is not zero and the other way around; all unary operators
keep the kind.  A value is incremented by adding the one of its kind, unless it is a truth value,
which cannot be incremented.  For all other values the complement is the negation less one, which
is the negation of the next value, and to complement or to negate twice gives the value back. -/
theorem unary_agree_with_binary (value : Value) (span : FileSpan) :
    BinaryOperator.subtract.apply (.ofInt value.kind 0) value span = .ok value.negate ∧
    (value.logicalNot.isZero = !value.isZero) ∧
    (value.negate.kind = value.kind ∧ value.complement.kind = value.kind ∧
      value.logicalNot.kind = value.kind ∧
      ∀ next, value.increment = .ok next → next.kind = value.kind) ∧
    (∀ cause, value.increment = .error cause ↔
      value.kind = .bool ∧ cause = .invalidIncrement .bool) ∧
    (value.kind ≠ .bool →
      value.increment = BinaryOperator.add.apply value (.ofInt value.kind 1) span ∧
      BinaryOperator.subtract.apply value.negate (.ofInt value.kind 1) span =
        .ok value.complement ∧
      value.increment.map Value.negate = .ok value.complement ∧
      value.complement.complement = value ∧ value.negate.negate = value) := by
  refine ⟨value.subtract_zero_eq_negate span, value.isZero_logicalNot,
    ⟨value.kind_negate, value.kind_complement, value.kind_logicalNot, ?_⟩,
    value.increment_eq_error_iff, fun isInteger => ⟨?_, ?_, ?_, ?_, ?_⟩⟩
  · intro next incremented
    exact Value.kind_of_increment incremented
  · exact Value.increment_eq_add_one isInteger span
  · exact Value.negate_sub_one isInteger span
  · exact Value.map_negate_increment isInteger
  · exact Value.complement_complement isInteger
  · exact Value.negate_negate isInteger

/-- The complement of a truth value is not its negation less one. -/
example : BinaryOperator.subtract.apply (Value.bool true).negate (.bool true) default ≠
    .ok (Value.bool true).complement := by
  decide

namespace Sample

/-- The least character is its own negation.  Less one that is the greatest character, the
complement of the least one. -/
theorem least_character_agrees :
    (Value.character (.intMin 8)).kind ≠ .bool ∧
    (Value.character (.intMin 8)).negate = .character (.intMin 8) ∧
    BinaryOperator.subtract.apply (.character (.intMin 8)) (.character 1) default =
      .ok (.character (.intMax 8)) ∧
    (Value.character (.intMax 8)).complement = .character (.intMin 8) := by
  have isInteger : (Value.character (.intMin 8)).kind ≠ .bool := by decide
  have agrees := unary_agree_with_binary (.character (.intMin 8)) default
  obtain ⟨-, lessOne, -, twice, -⟩ := agrees.2.2.2.2 isInteger
  exact ⟨isInteger, by decide, lessOne, twice⟩

end Sample

end CppTemplates
