import CppTemplates.Toml.Item
import CppTemplates.Toml.Reader

/-!
# TOML numbers

Integers have 64 bits. A floating point number must not round to positive infinity in double
precision; a negative one may be as large as it likes.
-/

namespace CppTemplates.Toml

open Reader

def isDecimal (c : Char) : Bool :=
  '0' ≤ c && c ≤ '9'

/-- A hexadecimal digit of either case. -/
def isHexadecimal (c : Char) : Bool :=
  isDecimal c || ('a' ≤ c && c ≤ 'f') || ('A' ≤ c && c ≤ 'F')

def isOctal (c : Char) : Bool :=
  '0' ≤ c && c ≤ '7'

def isBinary (c : Char) : Bool :=
  c == '0' || c == '1'

def digitValue (c : Char) : Nat :=
  if isDecimal c then c.toNat - '0'.toNat
  else if 'a' ≤ c then c.toNat - 'a'.toNat + 10
  else c.toNat - 'A'.toNat + 10

/-- The number that digits spell in a base. -/
def digitsValue (base : Nat) (digits : List Char) : Nat :=
  digits.foldl (fun value digit => value * base + digitValue digit) 0

/-- One or more digits; single underscores may stand between digits. -/
def digits (isDigit : Char → Bool) : Reader (List Char) := do
  let first ← satisfying isDigit
  let others ← many (satisfying isDigit <|> (do char '_'; satisfying isDigit))
  return first :: others

/-- Decimal digits without a superfluous zero in front. -/
def plainDigits : Reader (List Char) := do
  let read ← digits isDecimal
  guard (read.length = 1 ∨ read.head? ≠ some '0')
  return read

/-- An optional sign; the result tells whether it is a minus. -/
def sign : Reader Bool :=
  (do char '-'; return true) <|> (do char '+'; return false) <|> return false

/-- An integer with a marked base and no sign. -/
def basedInteger : Reader Nat :=
  (do word "0x"; return digitsValue 16 (← digits isHexadecimal)) <|>
  (do word "0o"; return digitsValue 8 (← digits isOctal)) <|>
  (do word "0b"; return digitsValue 2 (← digits isBinary))

def decimalInteger : Reader Int := do
  let negative ← sign
  let magnitude := digitsValue 10 (← plainDigits)
  return if negative then -(magnitude : Int) else magnitude

/-- An integer of 64 bits. -/
def integer : Reader Int := do
  let value ← (do return ((← basedInteger) : Int)) <|> decimalInteger
  guard (Int64.minValue.toInt ≤ value ∧ value ≤ Int64.maxValue.toInt)
  return value

/-- Whether a mantissa times a power of ten rounds to infinity in double precision. The bound lies
halfway between the largest finite number and the next power of two. Only numbers of about the
bound's length are written out. -/
def exceedsDouble (mantissa : Nat) (exponent : Int) : Bool :=
  let bound := Nat.pow 2 1024 - Nat.pow 2 970
  let length := ((Nat.toDigits 10 mantissa).length : Int) + exponent
  if mantissa = 0 ∨ length < 300 then false
  else if length > 320 then true
  else if 0 ≤ exponent then decide (bound ≤ mantissa * Nat.pow 10 exponent.toNat)
  else decide (bound * Nat.pow 10 (-exponent).toNat ≤ mantissa)

/-- The exponent of a floating point number. -/
def exponent : Reader Int := do
  let _ ← satisfying fun c => c == 'e' || c == 'E'
  let negative ← sign
  let magnitude := digitsValue 10 (← digits isDecimal)
  return if negative then -(magnitude : Int) else magnitude

/-- A floating point number. It has a fraction or an exponent unless it is special. -/
def float : Reader Float := do
  let negative ← sign
  (do word "inf"; return .infinity negative) <|>
  (do word "nan"; return .notANumber) <|> do
    let whole ← plainDigits
    let fraction ← optional (do char '.'; digits isDecimal)
    let power ← optional exponent
    guard (fraction.isSome || power.isSome)
    let decimals := fraction.getD []
    let mantissa := digitsValue 10 (whole ++ decimals)
    let scale := power.getD 0 - decimals.length
    guard (negative || !exceedsDouble mantissa scale)
    return .decimal negative mantissa scale

end CppTemplates.Toml
