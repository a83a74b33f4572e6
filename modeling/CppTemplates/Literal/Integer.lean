import CppTemplates.Evaluation.Error

/-!
# Integer literals

An integer literal is an optional minus sign, digits whose base the first characters announce, and
up to three suffix characters that choose the kind. Digits that spell more than 64 bits stand for
the greatest 64-bit number. The minus sign, which C++ itself does not have here, lets every value
of a signed kind be written as a literal.
-/

namespace CppTemplates

namespace IntegerLiteral

def isLongSuffix (c : Char) : Bool :=
  c = 'l' || c = 'L'

def isUnsignedSuffix (c : Char) : Bool :=
  c = 'u' || c = 'U'

/-- Whether a character may stand in a suffix. -/
def isSuffix (c : Char) : Bool :=
  isLongSuffix c || isUnsignedSuffix c

/-- Splits a reversed text into at most the given number of suffix characters and what they
follow. -/
def splitSuffix : Nat → List Char → List Char × List Char
  | budget + 1, c :: rest =>
      if isSuffix c then
        let (suffix, body) := splitSuffix budget rest
        (c :: suffix, body)
      else
        ([], c :: rest)
  | _, text => ([], text)

def digitValue? (c : Char) : Option Nat :=
  if '0' ≤ c ∧ c ≤ '9' then some (c.toNat - '0'.toNat)
  else if 'a' ≤ c ∧ c ≤ 'f' then some (c.toNat - 'a'.toNat + 10)
  else if 'A' ≤ c ∧ c ≤ 'F' then some (c.toNat - 'A'.toNat + 10)
  else none

/-- The value of a digit in the given base. -/
def digit? (base : Nat) (c : Char) : Option Nat :=
  (digitValue? c).filter (· < base)

/-- The base that the first characters announce and the digits that follow them. -/
def splitBase : List Char → Nat × List Char
  | '0' :: 'x' :: digits => (16, digits)
  | '0' :: 'X' :: digits => (16, digits)
  | '0' :: digit :: digits => (8, digit :: digits)
  | digits => (10, digits)

def maxMagnitude : Nat :=
  (BitVec.allOnes 64).toNat

/-- Reads digits onto a number read so far, never beyond the greatest number. -/
def readDigits (base : Nat) : Nat → List Char → Option Nat
  | magnitude, [] => some magnitude
  | magnitude, c :: rest => do
      let digit ← digit? base c
      readDigits base (min maxMagnitude (magnitude * base + digit)) rest

/-- The number that one or more digits spell. -/
def magnitude? (base : Nat) (digits : List Char) : Option Nat :=
  if digits.isEmpty then none else readDigits base 0 digits

/-- The value of the kind that the suffix chooses. -/
def ofBits (isLong isUnsigned : Bool) (bits : BitVec 64) : Value :=
  match isLong, isUnsigned with
  | true, true => .unsignedLong bits
  | true, false => .signedLong bits
  | false, true => .unsignedInt (bits.setWidth 32)
  | false, false => .signedInt (bits.setWidth 32)

/-- The value that a text spells, if it is an integer literal. -/
def read? (text : List Char) : Option Value := do
  let (suffix, reversedBody) := splitSuffix 3 text.reverse
  let body := reversedBody.reverse
  let isNegative := body.head? = some '-'
  let (base, digits) := splitBase (if isNegative then body.tail else body)
  let magnitude ← magnitude? base digits
  let bits := BitVec.ofNat 64 magnitude
  return ofBits (suffix.any isLongSuffix) (suffix.any isUnsignedSuffix)
    (if isNegative then -bits else bits)

end IntegerLiteral

/-- The value of an integer literal at a place in the source. -/
def parseIntegerLiteral (text : String) (span : FileSpan) : Except EvaluationError Value :=
  match IntegerLiteral.read? text.toList with
  | some value => .ok value
  | none => .error (.malformedLiteral text span)

end CppTemplates
