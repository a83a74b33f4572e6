import Mathlib
import CppTemplates.Value.Basic

/-!
# The integers of a kind

A kind of value has a width, a signedness and so a range of integers.  Reducing an integer to a kind
gives the one integer of the range that differs from it by a multiple of the power of two; for truth
values it gives zero or one, depending on the byte.  A value is determined by its kind and the
integer that it stands for, so what is said about values is said about integers.
-/

namespace CppTemplates

namespace ValueKind

/-- The number of bits that operands of the kind have; a truth value is combined as a byte. -/
def width : ValueKind → Nat
  | .signedInt | .unsignedInt => 32
  | .signedLong | .unsignedLong => 64
  | .character | .bool => 8

/-- Whether the bits of the kind are read with a sign. -/
def isSigned : ValueKind → Bool
  | .signedInt | .signedLong | .character => true
  | .unsignedInt | .unsignedLong | .bool => false

def least (kind : ValueKind) : Int :=
  if kind.isSigned then -2 ^ (kind.width - 1) else 0

def greatest (kind : ValueKind) : Int :=
  if kind = .bool then 1
  else if kind.isSigned then 2 ^ (kind.width - 1) - 1
  else 2 ^ kind.width - 1

/-- What a kind makes of an integer: the remainder modulo the power of two, read with the signedness
of the kind.  A truth value only keeps whether the byte is zero. -/
def reduce (kind : ValueKind) (n : Int) : Int :=
  if kind = .bool then if n % 2 ^ kind.width = 0 then 0 else 1
  else if kind.isSigned then n.bmod (2 ^ kind.width)
  else n % 2 ^ kind.width

theorem least_le_reduce (kind : ValueKind) (n : Int) : kind.least ≤ kind.reduce n := by
  cases kind <;> simp [least, reduce, width, isSigned, Int.bmod_def] <;> omega

theorem reduce_eq_self {kind : ValueKind} {n : Int} (above : kind.least ≤ n)
    (below : n ≤ kind.greatest) : kind.reduce n = n := by
  cases kind <;> simp [least, greatest, reduce, width, isSigned, Int.bmod_def] at * <;> omega

/-- An integer kind keeps an integer modulo the power of two. -/
theorem reduce_modEq {kind : ValueKind} (isInteger : kind ≠ .bool) (n : Int) :
    kind.reduce n ≡ n [ZMOD 2 ^ kind.width] := by
  unfold reduce
  rw [if_neg isInteger]
  split
  · exact_mod_cast (Int.bmod_emod : n.bmod (2 ^ kind.width) % (2 ^ kind.width : Nat) = _)
  · exact Int.mod_modEq n _

theorem reduce_congr {kind : ValueKind} {first second : Int}
    (congruent : first ≡ second [ZMOD 2 ^ kind.width]) :
    kind.reduce first = kind.reduce second := by
  have same : first % 2 ^ kind.width = second % 2 ^ kind.width := congruent
  have balanced : first.bmod (2 ^ kind.width) = second.bmod (2 ^ kind.width) := by
    rw [← Int.emod_bmod first, ← Int.emod_bmod second]
    push_cast
    rw [same]
  simp only [reduce, same, balanced]

end ValueKind

namespace Value

theorem least_le_toInt (value : Value) : value.kind.least ≤ value.toInt := by
  cases value with
  | signedInt bits => exact bits.le_toInt
  | unsignedInt bits => exact Int.natCast_nonneg _
  | signedLong bits => exact bits.le_toInt
  | unsignedLong bits => exact Int.natCast_nonneg _
  | character bits => exact bits.le_toInt
  | bool truth => cases truth <;> decide

theorem toInt_le_greatest (value : Value) : value.toInt ≤ value.kind.greatest := by
  cases value with
  | signedInt bits => exact Int.le_sub_one_of_lt bits.toInt_lt
  | unsignedInt bits => exact Int.le_sub_one_of_lt (Int.ofNat_lt.mpr bits.isLt)
  | signedLong bits => exact Int.le_sub_one_of_lt bits.toInt_lt
  | unsignedLong bits => exact Int.le_sub_one_of_lt (Int.ofNat_lt.mpr bits.isLt)
  | character bits => exact Int.le_sub_one_of_lt bits.toInt_lt
  | bool truth => cases truth <;> decide

theorem reduce_toInt (value : Value) : value.kind.reduce value.toInt = value.toInt :=
  ValueKind.reduce_eq_self value.least_le_toInt value.toInt_le_greatest

/-- The value of an integer kind for an integer stands for what the kind makes of it. -/
theorem toInt_ofInt {kind : ValueKind} (isInteger : kind ≠ .bool) (n : Int) :
    (ofInt kind n).toInt = kind.reduce n := by
  have nonneg : ∀ width : Nat, 0 ≤ n % 2 ^ width := fun width =>
    Int.emod_nonneg n (by positivity)
  cases kind with
  | signedInt => exact BitVec.toInt_ofInt n
  | unsignedInt => exact Int.toNat_of_nonneg (nonneg 32)
  | signedLong => exact BitVec.toInt_ofInt n
  | unsignedLong => exact Int.toNat_of_nonneg (nonneg 64)
  | character => exact BitVec.toInt_ofInt n
  | bool => exact absurd rfl isInteger

/-- A value is determined by its kind and the integer that it stands for. -/
theorem ofInt_toInt (value : Value) : ofInt value.kind value.toInt = value := by
  cases value with
  | signedInt bits => exact congrArg signedInt BitVec.ofInt_toInt
  | unsignedInt bits => simp [kind, toInt, ofInt]
  | signedLong bits => exact congrArg signedLong BitVec.ofInt_toInt
  | unsignedLong bits => simp [kind, toInt, ofInt]
  | character bits => exact congrArg character BitVec.ofInt_toInt
  | bool truth => cases truth <;> decide

theorem eq_of_toInt_eq {first second : Value} (kind : first.kind = second.kind)
    (toInt : first.toInt = second.toInt) : first = second := by
  rw [← first.ofInt_toInt, kind, toInt, ofInt_toInt]

theorem ofInt_reduce {kind : ValueKind} (isInteger : kind ≠ .bool) (n : Int) :
    ofInt kind (kind.reduce n) = ofInt kind n := by
  have itself := (ofInt kind n).ofInt_toInt
  rwa [kind_ofInt, toInt_ofInt isInteger] at itself

/-- The value of an integer kind for an integer stands for a congruent one. -/
theorem toInt_ofInt_modEq {kind : ValueKind} (isInteger : kind ≠ .bool) (n : Int) :
    (ofInt kind n).toInt ≡ n [ZMOD 2 ^ kind.width] := by
  rw [toInt_ofInt isInteger]
  exact ValueKind.reduce_modEq isInteger n

/-- An integer kind does not tell congruent integers apart. -/
theorem ofInt_congr {kind : ValueKind} (isInteger : kind ≠ .bool) {first second : Int}
    (congruent : first ≡ second [ZMOD 2 ^ kind.width]) : ofInt kind first = ofInt kind second := by
  rw [← ofInt_reduce isInteger first, ValueKind.reduce_congr congruent, ofInt_reduce isInteger]

theorem toInt_ofInt_reduce (kind : ValueKind) (n : Int) :
    (ofInt kind (kind.reduce n)).toInt = kind.reduce n := by
  by_cases isBool : kind = .bool
  · subst isBool
    simp only [ValueKind.reduce, if_true, ofInt, toInt]
    split <;> rfl
  · rw [ofInt_reduce isBool, toInt_ofInt isBool]

end Value

end CppTemplates
