/-!
# Operators and literals of constant expressions

The operators and the kinds of literal that the constant-expression grammar of C++ knows, with
their spelling in source text and the names under which diagnostics mention their nodes.
-/

namespace CppTemplates

inductive BinaryOperator where
  | logicalOr
  | logicalAnd
  | bitOr
  | bitXor
  | bitAnd
  | notEqual
  | equal
  | less
  | greater
  | greaterEqual
  | lessEqual
  | shiftLeft
  | shiftRight
  | add
  | subtract
  | multiply
  | remainder
  | divide
deriving DecidableEq, Repr, Inhabited

namespace BinaryOperator

/-- Every binary operator, from the loosest binding to the tightest. -/
def all : List BinaryOperator :=
  [.logicalOr, .logicalAnd, .bitOr, .bitXor, .bitAnd, .notEqual, .equal, .less, .greater,
    .greaterEqual, .lessEqual, .shiftLeft, .shiftRight, .add, .subtract, .multiply, .remainder,
    .divide]

def spelling : BinaryOperator → String
  | .logicalOr => "||"
  | .logicalAnd => "&&"
  | .bitOr => "|"
  | .bitXor => "^"
  | .bitAnd => "&"
  | .notEqual => "!="
  | .equal => "=="
  | .less => "<"
  | .greater => ">"
  | .greaterEqual => ">="
  | .lessEqual => "<="
  | .shiftLeft => "<<"
  | .shiftRight => ">>"
  | .add => "+"
  | .subtract => "-"
  | .multiply => "*"
  | .remainder => "%"
  | .divide => "/"

def ofSpelling? (spelling : String) : Option BinaryOperator :=
  all.find? (·.spelling == spelling)

def name : BinaryOperator → String
  | .logicalOr => "logical-or"
  | .logicalAnd => "logical-and"
  | .bitOr => "bitwise-or"
  | .bitXor => "bitwise-xor"
  | .bitAnd => "bitwise-and"
  | .notEqual => "different-op"
  | .equal => "equal-op"
  | .less => "lower-than"
  | .greater => "greater-than"
  | .greaterEqual => "greater-or-equal-than"
  | .lessEqual => "lower-or-equal-than"
  | .shiftLeft => "shl-op"
  | .shiftRight => "shr-op"
  | .add => "add-op"
  | .subtract => "minus-op"
  | .multiply => "mult-op"
  | .remainder => "mod-op"
  | .divide => "div-op"

end BinaryOperator

inductive UnaryOperator where
  | plus
  | not
  | negate
  | complement
deriving DecidableEq, Repr, Inhabited

namespace UnaryOperator

def all : List UnaryOperator :=
  [.plus, .not, .negate, .complement]

def spelling : UnaryOperator → String
  | .plus => "+"
  | .not => "!"
  | .negate => "-"
  | .complement => "~"

def name : UnaryOperator → String
  | .plus => "plus-op"
  | .not => "not-op"
  | .negate => "neg-op"
  | .complement => "complement-op"

end UnaryOperator

inductive LiteralKind where
  | decimal
  | octal
  | hexadecimal
  | character
  | boolean
  | floating
  | string
deriving DecidableEq, Repr, Inhabited

namespace LiteralKind

def all : List LiteralKind :=
  [.decimal, .octal, .hexadecimal, .character, .boolean, .floating, .string]

def name : LiteralKind → String
  | .decimal => "decimal-literal"
  | .octal => "octal-literal"
  | .hexadecimal => "hexadecimal-literal"
  | .character => "character-literal"
  | .boolean => "boolean-literal"
  | .floating => "floating-literal"
  | .string => "string-literal"

end LiteralKind

end CppTemplates
