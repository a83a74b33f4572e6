import CppTemplates.Value.Basic

/-!
# The usual arithmetic conversions

Two operands of different kinds are brought to a common kind before they are combined. Characters
and truth values first become `signed int`; then the longer and, at equal length, the unsigned
kind wins. A `signed long` holds every `unsigned int`, so their common kind is `signed long`.
-/

namespace CppTemplates

/-- If exactly one operand has the kind, converts both. -/
def convertTo (kind : ValueKind) (convert : Value → Value) (operands : Value × Value) :
    Value × Value :=
  if (operands.1.kind == kind) != (operands.2.kind == kind) then
    (convert operands.1, convert operands.2)
  else
    operands

/-- If one operand has the lesser kind and the other one the greater, converts the lesser one. -/
def raise (lesser greater : ValueKind) (convert : Value → Value) (operands : Value × Value) :
    Value × Value :=
  if operands.1.kind = greater ∧ operands.2.kind = lesser then
    (operands.1, convert operands.2)
  else if operands.1.kind = lesser ∧ operands.2.kind = greater then
    (convert operands.1, operands.2)
  else
    operands

/-- Brings two integers to their common kind: each step works on the outcome of the one before. -/
def toCommonKind (operands : Value × Value) : Value × Value :=
  let operands := convertTo .unsignedLong .toUnsignedLong operands
  let operands := raise .unsignedInt .signedLong .toSignedLong operands
  let operands := convertTo .signedLong .toSignedLong operands
  let operands := raise .signedLong .unsignedLong .toUnsignedLong operands
  raise .signedInt .unsignedInt .toUnsignedInt operands

/-- Brings two operands to one kind. -/
def promote (left right : Value) : Value × Value :=
  if left.kind = right.kind then
    (left, right)
  else
    toCommonKind (left.integralPromotion, right.integralPromotion)

end CppTemplates
