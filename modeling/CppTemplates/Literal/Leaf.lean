import CppTemplates.Literal.Integer
import CppTemplates.Literal.Character

/-!
# Values as literal leaves

A literal leaf of a syntax tree spells a value, and every value can be spelt as a leaf. The kind of
an integer goes into its suffix. A backslash is written as an octal escape, which reads well in
diagnostics but has no value; every other spelling reads back as the value.
-/

namespace CppTemplates

namespace Node

/-- The value that a literal leaf spells. -/
def literalValue (node : Node) : Except EvaluationError Value :=
  match node.text with
  | none => .error (.malformedTree node.kind node.span)
  | some text =>
      match node.kind with
      | .literal .decimal | .literal .octal | .literal .hexadecimal =>
          parseIntegerLiteral text node.span
      | .literal .boolean => .ok (.bool (text != "false"))
      | .literal .character => parseCharacterLiteral text node.span
      | .literal .floating => .error (.unsupportedFloatingLiteral text node.span)
      | kind => .error (.unsupportedNode kind node.span)

end Node

namespace Value

/-- The kind of literal that spells the value. -/
def literalKind : Value → LiteralKind
  | .character _ => .character
  | .bool _ => .boolean
  | _ => .decimal

def literalText : Value → String
  | .signedInt bits => bits.toInt.repr
  | .unsignedInt bits => bits.toNat.repr ++ "U"
  | .signedLong bits => bits.toInt.repr ++ "L"
  | .unsignedLong bits => bits.toNat.repr ++ "LU"
  | .character bits =>
      if bits.toNat = '\\'.toNat then "'\\134'"
      else String.ofList ['\'', Char.ofNat bits.toNat, '\'']
  | .bool truth => if truth then "true" else "false"

/-- The literal leaf that spells the value. -/
def literalLeaf (value : Value) : Node where
  kind := .literal value.literalKind
  text := some value.literalText

end Value

namespace SyntaxTree

def addLiteral (tree : SyntaxTree) (value : Value) : NodeId × SyntaxTree :=
  tree.add value.literalLeaf

end SyntaxTree

end CppTemplates
