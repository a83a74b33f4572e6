import Mathlib
import CppTemplates.Proofs.Value.Kinds
import CppTemplates.Value.Arithmetic

/-!
# Operators compute exactly, then reduce

What an operator makes of two words is compared with what it makes of two integers.  Words are read
with or without a sign; the outcome of an operator on words is the outcome on the integers, brought
back to the width.  So nothing depends on how a word is represented but its signedness, and all
kinds of value are instances of one statement about words.

Division truncates toward zero and the remainder takes the sign of the dividend.  The count of a
shift is taken modulo the width, also if it is negative, which is the same modulo the width for the
word as for the integer because the width divides the power of two.
-/

namespace CppTemplates

/-- What an operator makes of two integers. -/
inductive ExactResult where
  | integer (n : Int)
  | truth (holds : Bool)
deriving DecidableEq, Repr

/-- The count of a shift: the remainder modulo the width, which is not negative. -/
def shiftCount (width : Nat) (count : Int) : Nat :=
  (count % width).toNat

namespace BinaryOperator

/-- What an operator makes of two integers whose words have the given width; division by zero has no
result. -/
def exact (width : Nat) (left right : Int) : BinaryOperator → Option ExactResult
  | .logicalOr => some (.truth (left ≠ 0 ∨ right ≠ 0))
  | .logicalAnd => some (.truth (left ≠ 0 ∧ right ≠ 0))
  | .bitOr => some (.integer (left.lor right))
  | .bitXor => some (.integer (left.xor right))
  | .bitAnd => some (.integer (left.land right))
  | .notEqual => some (.truth (left ≠ right))
  | .equal => some (.truth (left = right))
  | .less => some (.truth (left < right))
  | .greater => some (.truth (left > right))
  | .greaterEqual => some (.truth (left ≥ right))
  | .lessEqual => some (.truth (left ≤ right))
  | .shiftLeft => some (.integer (left * 2 ^ shiftCount width right))
  | .shiftRight => some (.integer (left / 2 ^ shiftCount width right))
  | .add => some (.integer (left + right))
  | .subtract => some (.integer (left - right))
  | .multiply => some (.integer (left * right))
  | .remainder => if right = 0 then none else some (.integer (left.tmod right))
  | .divide => if right = 0 then none else some (.integer (left.tdiv right))

end BinaryOperator

/-- The integer that a word stands for. -/
def wordInt {width : Nat} (isSigned : Bool) (word : BitVec width) : Int :=
  if isSigned then word.toInt else word.toNat

section Words

variable {width : Nat}

/-- Two's complement: the bits of a word are those of the integer it stands for. -/
theorem ofInt_wordInt (isSigned : Bool) (word : BitVec width) :
    BitVec.ofInt width (wordInt isSigned word) = word := by
  cases isSigned with
  | true => exact BitVec.ofInt_toInt
  | false => simp [wordInt]

theorem wordInt_inj (isSigned : Bool) {left right : BitVec width} :
    wordInt isSigned left = wordInt isSigned right ↔ left = right := by
  constructor
  · intro same
    rw [← ofInt_wordInt isSigned left, same, ofInt_wordInt]
  · rintro rfl
    rfl

theorem wordInt_eq_zero_iff (isSigned : Bool) {word : BitVec width} :
    wordInt isSigned word = 0 ↔ word = 0 := by
  have zero : wordInt isSigned (0 : BitVec width) = 0 := by
    cases isSigned <;> simp [wordInt]
  rw [← zero, wordInt_inj]

theorem getLsbD_ofInt (n : Int) (index : Nat) :
    (BitVec.ofInt width n).getLsbD index = (decide (index < width) && n.testBit index) := by
  cases n with
  | ofNat magnitude => exact BitVec.getLsbD_ofNat width magnitude index
  | negSucc magnitude =>
      rw [BitVec.ofInt_negSucc_eq_not_ofNat, BitVec.getLsbD_not, BitVec.getLsbD_ofNat]
      cases decide (index < width) <;> rfl

/-- A word is what an integer with the same bits comes to. -/
theorem ofInt_eq_of_testBit {n : Int} {word : BitVec width}
    (bits : ∀ index < width, n.testBit index = word.getLsbD index) :
    BitVec.ofInt width n = word := by
  apply BitVec.eq_of_getLsbD_eq
  intro index bound
  rw [getLsbD_ofInt, bits index bound, decide_eq_true bound, Bool.true_and]

theorem ofInt_land (left right : Int) :
    BitVec.ofInt width (left.land right) = BitVec.ofInt width left &&& BitVec.ofInt width right :=
  ofInt_eq_of_testBit fun index bound => by
    simp only [Int.testBit_land, BitVec.getLsbD_and, getLsbD_ofInt, bound, decide_true,
      Bool.true_and]

theorem ofInt_lor (left right : Int) :
    BitVec.ofInt width (left.lor right) = BitVec.ofInt width left ||| BitVec.ofInt width right :=
  ofInt_eq_of_testBit fun index bound => by
    simp only [Int.testBit_lor, BitVec.getLsbD_or, getLsbD_ofInt, bound, decide_true,
      Bool.true_and]

theorem ofInt_xor (left right : Int) :
    BitVec.ofInt width (left.xor right) = BitVec.ofInt width left ^^^ BitVec.ofInt width right :=
  ofInt_eq_of_testBit fun index bound => by
    simp only [Int.testBit_lxor, BitVec.getLsbD_xor, getLsbD_ofInt, bound, decide_true,
      Bool.true_and]

theorem ofInt_sub (left right : Int) :
    BitVec.ofInt width (left - right) = BitVec.ofInt width left - BitVec.ofInt width right := by
  rw [Int.sub_eq_add_neg, BitVec.ofInt_add, BitVec.ofInt_neg, BitVec.sub_eq_add_neg]

theorem ofInt_mul_two_pow (n : Int) (count : Nat) :
    BitVec.ofInt width (n * 2 ^ count) = BitVec.ofInt width n <<< count := by
  have power : BitVec.ofInt width (2 ^ count) = BitVec.twoPow width count := by
    apply BitVec.eq_of_toNat_eq
    rw [BitVec.toNat_twoPow]
    norm_cast
  rw [BitVec.ofInt_mul, power, BitVec.shiftLeft_eq_mul_twoPow]

theorem ofInt_div_two_pow (isSigned : Bool) (word : BitVec width) (count : Nat) :
    BitVec.ofInt width (wordInt isSigned word / 2 ^ count) =
      if isSigned then word.sshiftRight count else word >>> count := by
  cases isSigned with
  | true =>
      simp only [wordInt, if_true, BitVec.sshiftRight, Int.shiftRight_eq_div_pow]
      norm_cast
  | false =>
      have exact : wordInt false word / 2 ^ count = wordInt false (word >>> count) := by
        simp only [wordInt, Bool.false_eq_true, if_false, BitVec.toNat_ushiftRight,
          Nat.shiftRight_eq_div_pow]
        norm_cast
      rw [exact, ofInt_wordInt]
      rfl

theorem ofInt_tdiv (isSigned : Bool) (left right : BitVec width) :
    BitVec.ofInt width ((wordInt isSigned left).tdiv (wordInt isSigned right)) =
      if isSigned then left.sdiv right else left / right := by
  cases isSigned with
  | true =>
      apply BitVec.eq_of_toInt_eq
      rw [BitVec.toInt_ofInt]
      exact (BitVec.toInt_sdiv left right).symm
  | false =>
      have exact : (wordInt false left).tdiv (wordInt false right) =
          wordInt false (left / right) := by
        simp only [wordInt, Bool.false_eq_true, if_false, BitVec.toNat_udiv]
        norm_cast
      rw [exact, ofInt_wordInt]
      rfl

theorem ofInt_tmod (isSigned : Bool) (left right : BitVec width) :
    BitVec.ofInt width ((wordInt isSigned left).tmod (wordInt isSigned right)) =
      if isSigned then left.srem right else left % right := by
  have exact : (wordInt isSigned left).tmod (wordInt isSigned right) =
      wordInt isSigned (if isSigned then left.srem right else left % right) := by
    cases isSigned with
    | true => exact (BitVec.toInt_srem left right).symm
    | false =>
        simp only [wordInt, Bool.false_eq_true, if_false, BitVec.toNat_umod]
        norm_cast
  rw [exact, ofInt_wordInt]

/-- A count taken modulo the width does not depend on how the word is read. -/
theorem shiftCount_wordInt (divides : width ∣ 2 ^ width) (isSigned : Bool)
    (word : BitVec width) : shiftCount width (wordInt isSigned word) = word.toNat % width := by
  have dividesInt : (width : Int) ∣ (2 ^ width : Nat) := Int.natCast_dvd_natCast.mpr divides
  have congruent : wordInt isSigned word % width = (word.toNat : Int) % width := by
    cases isSigned with
    | true =>
        calc word.toInt % width
          _ = (word.toNat : Int).bmod (2 ^ width) % (2 ^ width : Nat) % width := by
              rw [Int.emod_emod_of_dvd _ dividesInt, BitVec.toInt_eq_toNat_bmod]
          _ = (word.toNat : Int) % width := by
              rw [Int.bmod_emod, Int.emod_emod_of_dvd _ dividesInt]
    | false => rfl
  rw [shiftCount, congruent]
  norm_cast

/-- What an exact result is on words. -/
def Folded.ofExact : ExactResult → Folded width
  | .integer n => .word (.ofInt width n)
  | .truth holds => .truth holds

/-- On words an operator does what it does on the integers that they stand for, brought back to the
width. -/
theorem BinaryOperator.fold_eq_exact (operator : BinaryOperator) (divides : width ∣ 2 ^ width)
    (isSigned : Bool) (left right : BitVec width) :
    operator.fold isSigned left right =
      (operator.exact width (wordInt isSigned left) (wordInt isSigned right)).map
        Folded.ofExact := by
  simp only [fold, exact]
  cases operator with
  | logicalOr => simp [Folded.ofExact, wordInt_eq_zero_iff, bne, beq_eq_decide]
  | logicalAnd => simp [Folded.ofExact, wordInt_eq_zero_iff, bne, beq_eq_decide]
  | bitOr => simp [Folded.ofExact, ofInt_lor, ofInt_wordInt]
  | bitXor => simp [Folded.ofExact, ofInt_xor, ofInt_wordInt]
  | bitAnd => simp [Folded.ofExact, ofInt_land, ofInt_wordInt]
  | notEqual => simp [Folded.ofExact, wordInt_inj, bne, beq_eq_decide]
  | equal => simp [Folded.ofExact, wordInt_inj, beq_eq_decide]
  | less => cases isSigned <;> simp [Folded.ofExact, wordInt, BitVec.slt, BitVec.ult]
  | greater => cases isSigned <;> simp [Folded.ofExact, wordInt, BitVec.slt, BitVec.ult]
  | greaterEqual => cases isSigned <;> simp [Folded.ofExact, wordInt, BitVec.sle, BitVec.ule]
  | lessEqual => cases isSigned <;> simp [Folded.ofExact, wordInt, BitVec.sle, BitVec.ule]
  | shiftLeft =>
      simp [Folded.ofExact, shiftCount_wordInt divides, ofInt_mul_two_pow, ofInt_wordInt]
  | shiftRight => simp [Folded.ofExact, shiftCount_wordInt divides, ofInt_div_two_pow]
  | add => simp [Folded.ofExact, BitVec.ofInt_add, ofInt_wordInt]
  | subtract => simp [Folded.ofExact, ofInt_sub, ofInt_wordInt]
  | multiply => simp [Folded.ofExact, BitVec.ofInt_mul, ofInt_wordInt]
  | remainder =>
      by_cases zero : right = BitVec.ofNat width 0
      · simp [wordInt_eq_zero_iff, zero]
      · simp [Folded.ofExact, wordInt_eq_zero_iff, zero, ofInt_tmod]
  | divide =>
      by_cases zero : right = BitVec.ofNat width 0
      · simp [wordInt_eq_zero_iff, zero]
      · simp [Folded.ofExact, wordInt_eq_zero_iff, zero, ofInt_tdiv]

end Words

/-- What an exact result is as a value, for operands of a kind. -/
def ExactResult.toValue (kind : ValueKind) : ExactResult → Value
  | .integer n => .ofInt kind (kind.reduce n)
  | .truth holds => .bool holds

/-- What becomes of an exact result for operands of a kind; without one, the division is by zero. -/
def ExactResult.outcome (kind : ValueKind) (span : FileSpan) :
    Option ExactResult → Except EvaluationError Value
  | some result => .ok (result.toValue kind)
  | none => .error (.divisionByZero span)

namespace BinaryOperator

theorem foldTo_eq_exact (operator : BinaryOperator) {width : Nat} (divides : width ∣ 2 ^ width)
    (isSigned : Bool) (ofWord : BitVec width → Value) (kind : ValueKind)
    (reduces : ∀ n, ofWord (.ofInt width n) = .ofInt kind (kind.reduce n))
    (left right : BitVec width) (span : FileSpan) :
    operator.foldTo isSigned ofWord left right span =
      ExactResult.outcome kind span
        (operator.exact width (wordInt isSigned left) (wordInt isSigned right)) := by
  unfold foldTo
  rw [fold_eq_exact operator divides]
  cases operator.exact width (wordInt isSigned left) (wordInt isSigned right) with
  | none => rfl
  | some result =>
      cases result with
      | integer n => exact congrArg Except.ok (reduces n)
      | truth holds => rfl

/-- A byte that is taken for a truth value only keeps whether it is zero. -/
theorem bool_ofInt (n : Int) :
    Value.bool (BitVec.ofInt 8 n != 0) = .ofInt .bool (ValueKind.bool.reduce n) := by
  have zero : BitVec.ofInt 8 n = 0 ↔ n % 2 ^ 8 = 0 := by
    rw [← BitVec.toNat_inj, BitVec.toNat_ofInt]
    simp
    omega
  change _ = Value.ofInt .bool (if n % 2 ^ 8 = 0 then 0 else 1)
  by_cases isZero : n % 2 ^ 8 = 0
  · rw [if_pos isZero, zero.mpr isZero]
    rfl
  · rw [if_neg isZero, bne_iff_ne.mpr (zero.not.mpr isZero)]
    rfl

theorem wordInt_truthByte (truth : Bool) :
    wordInt false (truthByte truth) = (Value.bool truth).toInt := by
  cases truth <;> rfl

/-- Operands of one kind are combined as the integers that they stand for, and the result is reduced
to the kind. -/
theorem apply_eq_exact (operator : BinaryOperator) {left right : Value}
    (same : left.kind = right.kind) (span : FileSpan) :
    operator.apply left right span =
      ExactResult.outcome left.kind span
        (operator.exact left.kind.width left.toInt right.toInt) := by
  have reduces (kind : ValueKind) (isInteger : kind ≠ .bool) (n : Int) :
      Value.ofInt kind n = .ofInt kind (kind.reduce n) :=
    (Value.ofInt_reduce isInteger n).symm
  cases left with
  | signedInt left =>
      cases right with
      | signedInt right =>
          exact foldTo_eq_exact operator (by decide) true .signedInt .signedInt
            (reduces .signedInt (by decide)) left right span
      | _ => cases same
  | unsignedInt left =>
      cases right with
      | unsignedInt right =>
          exact foldTo_eq_exact operator (by decide) false .unsignedInt .unsignedInt
            (reduces .unsignedInt (by decide)) left right span
      | _ => cases same
  | signedLong left =>
      cases right with
      | signedLong right =>
          exact foldTo_eq_exact operator (by decide) true .signedLong .signedLong
            (reduces .signedLong (by decide)) left right span
      | _ => cases same
  | unsignedLong left =>
      cases right with
      | unsignedLong right =>
          exact foldTo_eq_exact operator (by decide) false .unsignedLong .unsignedLong
            (reduces .unsignedLong (by decide)) left right span
      | _ => cases same
  | character left =>
      cases right with
      | character right =>
          exact foldTo_eq_exact operator (by decide) true .character .character
            (reduces .character (by decide)) left right span
      | _ => cases same
  | bool left =>
      cases right with
      | bool right =>
          have folded := foldTo_eq_exact operator (by decide) false (fun bits => .bool (bits != 0))
            .bool bool_ofInt (truthByte left) (truthByte right) span
          rwa [wordInt_truthByte, wordInt_truthByte] at folded
      | _ => cases same

theorem exists_apply_eq_ok (operator : BinaryOperator) {left right : Value} {n : Int}
    (same : left.kind = right.kind)
    (result : operator.exact left.kind.width left.toInt right.toInt = some (.integer n))
    (span : FileSpan) :
    ∃ value, operator.apply left right span = .ok value ∧ value.kind = left.kind ∧
      value.toInt = left.kind.reduce n := by
  refine ⟨.ofInt left.kind (left.kind.reduce n), ?_, Value.kind_ofInt _ _,
    Value.toInt_ofInt_reduce _ _⟩
  rw [apply_eq_exact operator same, result]
  rfl

theorem apply_of_kind_ne (operator : BinaryOperator) {left right : Value}
    (differ : left.kind ≠ right.kind) (span : FileSpan) :
    operator.apply left right span = .error (.kindMismatch left.kind right.kind span) := by
  unfold apply
  split
  case h_7 => rfl
  all_goals exact absurd rfl differ

/-- Only a division by zero has no exact result. -/
theorem exact_eq_none_iff (operator : BinaryOperator) (width : Nat) (left right : Int) :
    operator.exact width left right = none ↔
      (operator = .divide ∨ operator = .remainder) ∧ right = 0 := by
  cases operator <;> simp [exact]

theorem apply_eq_error_iff (operator : BinaryOperator) (left right : Value) (span : FileSpan)
    (cause : EvaluationError) :
    operator.apply left right span = .error cause ↔
      left.kind ≠ right.kind ∧ cause = .kindMismatch left.kind right.kind span ∨
      left.kind = right.kind ∧ (operator = .divide ∨ operator = .remainder) ∧ right.toInt = 0 ∧
        cause = .divisionByZero span := by
  by_cases same : left.kind = right.kind
  · have byZero := exact_eq_none_iff operator left.kind.width left.toInt right.toInt
    rw [apply_eq_exact operator same]
    cases result : operator.exact left.kind.width left.toInt right.toInt with
    | none =>
        rw [result] at byZero
        have isDivision := byZero.mp rfl
        simp [ExactResult.outcome, same, isDivision, eq_comm]
    | some result =>
        rw [result] at byZero
        have isNoDivision : ¬ ((operator = .divide ∨ operator = .remainder) ∧ right.toInt = 0) :=
          byZero.not.mp (Option.some_ne_none _)
        simp only [ExactResult.outcome, same]
        tauto
  · rw [apply_of_kind_ne operator same]
    simp [same, eq_comm]

/-- The least integer divided by minus one is out of range, so the quotient comes back to it. -/
theorem divide_least_by_minusOne {left right : Value} (same : left.kind = right.kind)
    (signed : left.kind.isSigned) (isLeast : left.toInt = left.kind.least)
    (isMinusOne : right.toInt = -1) (span : FileSpan) :
    divide.apply left right span = .ok left := by
  have wraps : left.kind.reduce (-left.kind.least) = left.kind.least := by
    revert signed
    cases left.kind <;> decide
  have result : divide.exact left.kind.width left.toInt right.toInt =
      some (.integer (-left.kind.least)) := by
    simp [exact, isMinusOne, isLeast]
  obtain ⟨value, applied, kind, toInt⟩ := exists_apply_eq_ok divide same result span
  rw [applied, Value.eq_of_toInt_eq kind (by rw [toInt, wraps, isLeast])]

theorem remainder_by_minusOne {left right : Value} (same : left.kind = right.kind)
    (isMinusOne : right.toInt = -1) (span : FileSpan) :
    ∃ rest, remainder.apply left right span = .ok rest ∧ rest.kind = left.kind ∧
      rest.toInt = 0 := by
  have zero : left.kind.reduce 0 = 0 := by
    cases left.kind <;> decide
  have result : remainder.exact left.kind.width left.toInt right.toInt = some (.integer 0) := by
    simp [exact, isMinusOne]
  obtain ⟨rest, applied, kind, toInt⟩ := exists_apply_eq_ok remainder same result span
  exact ⟨rest, applied, kind, toInt.trans zero⟩

/-- Reducing every step of `(left / right) * right + left % right` still gives `left`. -/
theorem reduce_quotient_mul_add_remainder {left right : Value} (same : left.kind = right.kind)
    (notZero : right.toInt ≠ 0) :
    left.kind.reduce (left.kind.reduce (left.kind.reduce (left.toInt.tdiv right.toInt) *
      right.toInt) + left.kind.reduce (left.toInt.tmod right.toInt)) = left.toInt := by
  by_cases isBool : left.kind = .bool
  · cases left with
    | bool dividend =>
        cases right with
        | bool divisor =>
            cases divisor with
            | false => exact absurd rfl notZero
            | true => cases dividend <;> decide
        | _ => cases same
    | _ => cases isBool
  · have quotient := ValueKind.reduce_modEq isBool (left.toInt.tdiv right.toInt)
    have product := (ValueKind.reduce_modEq isBool _).trans (quotient.mul_right right.toInt)
    have rest := ValueKind.reduce_modEq isBool (left.toInt.tmod right.toInt)
    have sum := product.add rest
    rw [Int.tdiv_mul_add_tmod] at sum
    rw [ValueKind.reduce_congr sum, Value.reduce_toInt]

theorem quotient_mul_add_remainder {left right : Value} (same : left.kind = right.kind)
    (notZero : right.toInt ≠ 0) (span : FileSpan) :
    ∃ quotient product rest, divide.apply left right span = .ok quotient ∧
      multiply.apply quotient right span = .ok product ∧
      remainder.apply left right span = .ok rest ∧
      add.apply product rest span = .ok left := by
  have quotientResult : divide.exact left.kind.width left.toInt right.toInt =
      some (.integer (left.toInt.tdiv right.toInt)) := if_neg notZero
  have restResult : remainder.exact left.kind.width left.toInt right.toInt =
      some (.integer (left.toInt.tmod right.toInt)) := if_neg notZero
  obtain ⟨quotient, divided, quotientKind, quotientInt⟩ :=
    exists_apply_eq_ok divide same quotientResult span
  obtain ⟨product, multiplied, productKind, productInt⟩ :=
    exists_apply_eq_ok multiply (quotientKind.trans same) rfl span
  obtain ⟨rest, remains, restKind, restInt⟩ := exists_apply_eq_ok remainder same restResult span
  rw [quotientKind] at productKind productInt
  obtain ⟨sum, added, sumKind, sumInt⟩ :=
    exists_apply_eq_ok add (productKind.trans restKind.symm) rfl span
  rw [productKind] at sumKind sumInt
  refine ⟨quotient, product, rest, divided, multiplied, remains, ?_⟩
  have isDividend : sum = left := by
    apply Value.eq_of_toInt_eq sumKind
    rw [sumInt, productInt, quotientInt, restInt, reduce_quotient_mul_add_remainder same notZero]
  rw [added, isDividend]

end BinaryOperator

theorem shiftCount_lt {width : Nat} (positive : 0 < width) (count : Int) :
    shiftCount width count < width := by
  have below := Int.emod_lt_of_pos count (Int.natCast_pos.mpr positive)
  unfold shiftCount
  omega

example : shiftCount 32 (-1) = 31 := by decide

/-- Operators compute exactly.  Operands of different kinds are refused, and so are divisions by
zero; nothing else fails.  Operands of one kind are combined as the integers they stand for: an
operator that makes an integer yields the value of the operands' kind that this integer reduces to,
and an operator that makes a truth value yields that.  The count of a shift is below the width.  The
least integer divided by minus one is itself, with remainder zero, and the quotient times the
divisor plus the remainder is the dividend again. -/
theorem operators_compute_exactly (operator : BinaryOperator) (left right : Value)
    (span : FileSpan) :
    (∀ cause, operator.apply left right span = .error cause ↔
      left.kind ≠ right.kind ∧ cause = .kindMismatch left.kind right.kind span ∨
      left.kind = right.kind ∧ (operator = .divide ∨ operator = .remainder) ∧ right.toInt = 0 ∧
        cause = .divisionByZero span) ∧
    (left.kind = right.kind →
      (∀ n, operator.exact left.kind.width left.toInt right.toInt = some (.integer n) →
        ∃ value, operator.apply left right span = .ok value ∧ value.kind = left.kind ∧
          value.toInt = left.kind.reduce n) ∧
      (∀ holds, operator.exact left.kind.width left.toInt right.toInt = some (.truth holds) →
        operator.apply left right span = .ok (.bool holds)) ∧
      shiftCount left.kind.width right.toInt < left.kind.width ∧
      (left.kind.isSigned → left.toInt = left.kind.least → right.toInt = -1 →
        BinaryOperator.divide.apply left right span = .ok left ∧
        ∃ rest, BinaryOperator.remainder.apply left right span = .ok rest ∧
          rest.kind = left.kind ∧ rest.toInt = 0) ∧
      (right.toInt ≠ 0 → ∃ quotient product rest,
        BinaryOperator.divide.apply left right span = .ok quotient ∧
        BinaryOperator.multiply.apply quotient right span = .ok product ∧
        BinaryOperator.remainder.apply left right span = .ok rest ∧
        BinaryOperator.add.apply product rest span = .ok left)) := by
  refine ⟨operator.apply_eq_error_iff left right span, fun same => ⟨?_, ?_, ?_, ?_, ?_⟩⟩
  · intro n result
    exact operator.exists_apply_eq_ok same result span
  · intro holds result
    rw [operator.apply_eq_exact same, result]
    rfl
  · exact shiftCount_lt (by cases left.kind <;> decide) right.toInt
  · intro signed isLeast isMinusOne
    exact ⟨BinaryOperator.divide_least_by_minusOne same signed isLeast isMinusOne span,
      BinaryOperator.remainder_by_minusOne same isMinusOne span⟩
  · intro notZero
    exact BinaryOperator.quotient_mul_add_remainder same notZero span

end CppTemplates
