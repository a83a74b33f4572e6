import CppTemplates.Evaluation.Error
import CppTemplates.Value.Promotion

/-!
# Operators on values

Binary operators combine two values of one kind. Comparisons and the logical operators give truth
values; every other operator keeps the kind and wraps around at its width. A shift takes its count
modulo the width. Truth values are combined as bytes, and the outcome is true unless it is zero.
-/

namespace CppTemplates

/-- When the right operand of a binary operator is evaluated. -/
inductive Strictness where
  /-- Always. -/
  | strict
  /-- Only after a left operand that is not zero. -/
  | ifLeftNonZero
  /-- Only after a left operand that is zero. -/
  | ifLeftZero
deriving DecidableEq, Repr, Inhabited

namespace Strictness

def evaluatesRight (strictness : Strictness) (left : Value) : Bool :=
  match strictness with
  | .strict => true
  | .ifLeftNonZero => !left.isZero
  | .ifLeftZero => left.isZero

end Strictness

/-- What an operator makes of two words. -/
inductive Folded (width : Nat) where
  | word (bits : BitVec width)
  | truth (holds : Bool)
deriving DecidableEq, Repr

namespace Folded

def toValue {width : Nat} (ofWord : BitVec width → Value) : Folded width → Value
  | .word bits => ofWord bits
  | .truth holds => .bool holds

end Folded

namespace BinaryOperator

def strictness : BinaryOperator → Strictness
  | .logicalAnd => .ifLeftNonZero
  | .logicalOr => .ifLeftZero
  | _ => .strict

/-- Combines two words of one width and signedness; division by zero has no outcome. -/
def fold {width : Nat} (isSigned : Bool) (left right : BitVec width) :
    BinaryOperator → Option (Folded width)
  | .logicalOr => some (.truth (left != 0 || right != 0))
  | .logicalAnd => some (.truth (left != 0 && right != 0))
  | .bitOr => some (.word (left ||| right))
  | .bitXor => some (.word (left ^^^ right))
  | .bitAnd => some (.word (left &&& right))
  | .notEqual => some (.truth (left != right))
  | .equal => some (.truth (left == right))
  | .less => some (.truth (if isSigned then left.slt right else left.ult right))
  | .greater => some (.truth (if isSigned then right.slt left else right.ult left))
  | .greaterEqual => some (.truth (if isSigned then right.sle left else right.ule left))
  | .lessEqual => some (.truth (if isSigned then left.sle right else left.ule right))
  | .shiftLeft => some (.word (left <<< (right.toNat % width)))
  | .shiftRight =>
      let count := right.toNat % width
      some (.word (if isSigned then left.sshiftRight count else left >>> count))
  | .add => some (.word (left + right))
  | .subtract => some (.word (left - right))
  | .multiply => some (.word (left * right))
  | .remainder =>
      if right = 0 then none
      else some (.word (if isSigned then left.srem right else left % right))
  | .divide =>
      if right = 0 then none
      else some (.word (if isSigned then left.sdiv right else left / right))

/-- Combines two words into a value whose words are of the kind that `ofWord` makes. -/
def foldTo {width : Nat} (operator : BinaryOperator) (isSigned : Bool)
    (ofWord : BitVec width → Value) (left right : BitVec width) (span : FileSpan) :
    Except EvaluationError Value :=
  match operator.fold isSigned left right with
  | some folded => .ok (folded.toValue ofWord)
  | none => .error (.divisionByZero span)

/-- The byte that a truth value is combined as. -/
def truthByte (truth : Bool) : BitVec 8 :=
  if truth then 1 else 0

/-- Combines two operands of one kind. -/
def apply (operator : BinaryOperator) (left right : Value) (span : FileSpan) :
    Except EvaluationError Value :=
  match left, right with
  | .signedInt left, .signedInt right => operator.foldTo true .signedInt left right span
  | .unsignedInt left, .unsignedInt right => operator.foldTo false .unsignedInt left right span
  | .signedLong left, .signedLong right => operator.foldTo true .signedLong left right span
  | .unsignedLong left, .unsignedLong right =>
      operator.foldTo false .unsignedLong left right span
  | .character left, .character right => operator.foldTo true .character left right span
  | .bool left, .bool right =>
      operator.foldTo false (fun bits => .bool (bits != 0)) (truthByte left) (truthByte right) span
  | left, right => .error (.kindMismatch left.kind right.kind span)

end BinaryOperator

namespace Value

/-- The value plus one, in its own kind. Truth values cannot be incremented. -/
def increment : Value → Except EvaluationError Value
  | .signedInt bits => .ok (.signedInt (bits + 1))
  | .unsignedInt bits => .ok (.unsignedInt (bits + 1))
  | .signedLong bits => .ok (.signedLong (bits + 1))
  | .unsignedLong bits => .ok (.unsignedLong (bits + 1))
  | .character bits => .ok (.character (bits + 1))
  | .bool _ => .error (.invalidIncrement .bool)

end Value

end CppTemplates
