/-!
# Constant values

A folded constant is an integer of one of five kinds or a truth value. An integer is kept as the
bits of its kind's width; `toInt` reads them with the kind's signedness. Conversions between kinds
reinterpret bits: they sign-extend or truncate a signed source and zero-extend or truncate an
unsigned one.
-/

namespace CppTemplates

inductive ValueKind where
  | signedInt
  | unsignedInt
  | signedLong
  | unsignedLong
  | character
  | bool
deriving DecidableEq, Repr, Inhabited

namespace ValueKind

def all : List ValueKind :=
  [.signedInt, .unsignedInt, .signedLong, .unsignedLong, .character, .bool]

def name : ValueKind → String
  | .signedInt => "signed int"
  | .unsignedInt => "unsigned int"
  | .signedLong => "signed long"
  | .unsignedLong => "unsigned long"
  | .character => "character"
  | .bool => "bool"

def ofName? (name : String) : Option ValueKind :=
  all.find? (·.name == name)

end ValueKind

/-- A folded integer, character or truth value. -/
inductive Value where
  | signedInt (bits : BitVec 32)
  | unsignedInt (bits : BitVec 32)
  | signedLong (bits : BitVec 64)
  | unsignedLong (bits : BitVec 64)
  | character (bits : BitVec 8)
  | bool (truth : Bool)
deriving DecidableEq, Repr, Inhabited

namespace Value

def zero : Value :=
  .signedInt 0

def minusOne : Value :=
  .signedInt (-1)

def kind : Value → ValueKind
  | .signedInt _ => .signedInt
  | .unsignedInt _ => .unsignedInt
  | .signedLong _ => .signedLong
  | .unsignedLong _ => .unsignedLong
  | .character _ => .character
  | .bool _ => .bool

/-- The integer that a value stands for; the truth values stand for zero and one. -/
def toInt : Value → Int
  | .signedInt bits => bits.toInt
  | .unsignedInt bits => bits.toNat
  | .signedLong bits => bits.toInt
  | .unsignedLong bits => bits.toNat
  | .character bits => bits.toInt
  | .bool truth => truth.toInt

/-- The value of a kind that an integer reduces to; every non-zero integer is true. -/
def ofInt (kind : ValueKind) (n : Int) : Value :=
  match kind with
  | .signedInt => .signedInt (.ofInt 32 n)
  | .unsignedInt => .unsignedInt (.ofInt 32 n)
  | .signedLong => .signedLong (.ofInt 64 n)
  | .unsignedLong => .unsignedLong (.ofInt 64 n)
  | .character => .character (.ofInt 8 n)
  | .bool => .bool (n ≠ 0)

def isZero : Value → Bool
  | .signedInt bits => bits == 0
  | .unsignedInt bits => bits == 0
  | .signedLong bits => bits == 0
  | .unsignedLong bits => bits == 0
  | .character bits => bits == 0
  | .bool truth => !truth

/-- The value as a decimal number or as `true` or `false`. -/
def render : Value → String
  | .bool truth => if truth then "true" else "false"
  | value => value.toInt.repr

/-- The value with its kind, for logs. -/
def describe (value : Value) : String :=
  let tag := match value with
    | .signedInt _ => "SignedInt"
    | .unsignedInt _ => "UnsignedInt"
    | .signedLong _ => "SignedLong"
    | .unsignedLong _ => "UnsignedLong"
    | .character _ => "Character"
    | .bool _ => "Bool"
  tag ++ "(" ++ value.render ++ ")"

/-- The operator `!`: one for zero and zero for all else, in the kind of the operand. -/
def logicalNot : Value → Value
  | .signedInt bits => .signedInt (if bits = 0 then 1 else 0)
  | .unsignedInt bits => .unsignedInt (if bits = 0 then 1 else 0)
  | .signedLong bits => .signedLong (if bits = 0 then 1 else 0)
  | .unsignedLong bits => .unsignedLong (if bits = 0 then 1 else 0)
  | .character bits => .character (if bits = 0 then 1 else 0)
  | .bool truth => .bool !truth

/-- Unary minus in the kind of the operand. Minus one is not zero, so a truth value stays. -/
def negate : Value → Value
  | .signedInt bits => .signedInt (-bits)
  | .unsignedInt bits => .unsignedInt (-bits)
  | .signedLong bits => .signedLong (-bits)
  | .unsignedLong bits => .unsignedLong (-bits)
  | .character bits => .character (-bits)
  | .bool truth => .bool truth

/-- The operator `~` in the kind of the operand. The complements of zero and one are not zero, so
it is true of every truth value. -/
def complement : Value → Value
  | .signedInt bits => .signedInt (~~~bits)
  | .unsignedInt bits => .unsignedInt (~~~bits)
  | .signedLong bits => .signedLong (~~~bits)
  | .unsignedLong bits => .unsignedLong (~~~bits)
  | .character bits => .character (~~~bits)
  | .bool _ => .bool true

/-- Characters and truth values become `signed int`. -/
def integralPromotion : Value → Value
  | .character bits => .signedInt (bits.signExtend 32)
  | .bool truth => .signedInt (if truth then 1 else 0)
  | value => value

def toUnsignedLong : Value → Value
  | .signedInt bits => .unsignedLong (bits.signExtend 64)
  | .unsignedInt bits => .unsignedLong (bits.setWidth 64)
  | .signedLong bits => .unsignedLong bits
  | .unsignedLong bits => .unsignedLong bits
  | .character bits => .unsignedLong (bits.signExtend 64)
  | .bool truth => .unsignedLong (if truth then 1 else 0)

def toSignedLong : Value → Value
  | .signedInt bits => .signedLong (bits.signExtend 64)
  | .unsignedInt bits => .signedLong (bits.setWidth 64)
  | .signedLong bits => .signedLong bits
  | .unsignedLong bits => .signedLong bits
  | .character bits => .signedLong (bits.signExtend 64)
  | .bool truth => .signedLong (if truth then 1 else 0)

def toUnsignedInt : Value → Value
  | .signedInt bits => .unsignedInt bits
  | .unsignedInt bits => .unsignedInt bits
  | .signedLong bits => .unsignedInt (bits.setWidth 32)
  | .unsignedLong bits => .unsignedInt (bits.setWidth 32)
  | .character bits => .unsignedInt (bits.signExtend 32)
  | .bool truth => .unsignedInt (if truth then 1 else 0)

@[simp]
theorem kind_ofInt (kind : ValueKind) (n : Int) : (ofInt kind n).kind = kind := by
  cases kind <;> rfl

theorem isZero_iff_toInt_eq_zero (value : Value) : value.isZero ↔ value.toInt = 0 := by
  cases value with
  | signedInt bits => simp [isZero, toInt, ← BitVec.toInt_inj]
  | unsignedInt bits => simp [isZero, toInt, ← BitVec.toNat_inj]
  | signedLong bits => simp [isZero, toInt, ← BitVec.toInt_inj]
  | unsignedLong bits => simp [isZero, toInt, ← BitVec.toNat_inj]
  | character bits => simp [isZero, toInt, ← BitVec.toInt_inj]
  | bool truth => cases truth <;> simp [isZero, toInt]

end Value

end CppTemplates
