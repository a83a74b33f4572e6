import CppTemplates.Tree.Basic

/-!
# Printing syntax trees

Diagnostics show a subtree as C++ text with normalised spacing. `layout` says how the text of a
node is put together from the texts of its children; `display` applies it from the leaves up. A
node without the children that its kind calls for prints as its text or, failing that, as its
kind's name and its children in angle brackets.
-/

namespace CppTemplates

namespace NodeKind

/-- The components of a qualified id joined by `::`, with one `::` for a leading global scope. -/
def joinQualified : Bool → List (NodeKind × String) → String
  | _, [] => ""
  | isFirst, (.globalScope, _) :: rest => "::" ++ joinQualified isFirst rest
  | isFirst, (_, text) :: rest => (if isFirst then "" else "::") ++ text ++ joinQualified false rest

/-- A name followed by its bracketed arguments. -/
def joinApplied (opening closing : String) : List String → String
  | [] => ""
  | head :: arguments => head ++ opening ++ ", ".intercalate arguments ++ closing

/-- The text of a node that has no layout of its own. -/
def plainLayout (kind : NodeKind) (text : Option String) (parts : List String) : String :=
  match text with
  | some text => text
  | none => "<" ++ kind.name ++ String.join (parts.map (" " ++ ·)) ++ ">"

/-- The text of a node, given its own text and the kinds and texts of its children. -/
def layout (kind : NodeKind) (text : Option String) (children : List (NodeKind × String)) :
    String :=
  let parts := children.map (·.2)
  match kind with
  | .binary operator =>
      match parts with
      | left :: right :: _ => left ++ " " ++ operator.spelling ++ " " ++ right
      | _ => kind.plainLayout text parts
  | .unary operator =>
      match parts with
      | operand :: _ => operator.spelling ++ operand
      | [] => kind.plainLayout text parts
  | .constantExpression => String.join parts
  | .parenthesizedExpression => "(" ++ String.join parts ++ ")"
  | .globalScope => ""
  | .qualifiedId => joinQualified true children
  | .templateId => joinApplied "<" ">" parts
  | .functionCall => joinApplied "(" ")" parts
  | .castExpression => "(" ++ parts.headD "" ++ ")" ++ String.join parts.tail
  | .conditionalExpression =>
      match parts with
      | [condition, ifTrue, ifFalse] => condition ++ " ? " ++ ifTrue ++ " : " ++ ifFalse
      | _ => kind.plainLayout text parts
  | .memberSpecification => " ".intercalate parts
  | .memberDeclaration => " ".intercalate parts ++ ";"
  | .baseClause => ": " ++ ", ".intercalate parts
  | .functionDefinition => " ".intercalate parts
  | .compoundStatement =>
      if parts.isEmpty then "\x7b \x7d" else "\x7b " ++ " ".intercalate parts ++ " \x7d"
  | .returnStatement =>
      if parts.isEmpty then "return;" else "return " ++ String.join parts ++ ";"
  | .expressionStatement => String.join parts ++ ";"
  | _ => kind.plainLayout text parts

end NodeKind

namespace SyntaxTree

/-- The C++ text of a subtree. -/
def display (tree : SyntaxTree) (id : NodeId) : String :=
  (tree.node id).kind.layout (tree.node id).text <|
    (tree.node id).children.attach.map fun ⟨child, _⟩ =>
      ((tree.node child).kind, tree.display child)
termination_by id.index
decreasing_by exact lt_of_mem_children ‹_›

/-- A node's text is laid out from the kinds and texts of its children. -/
theorem display_eq_layout (tree : SyntaxTree) (id : NodeId) :
    tree.display id = (tree.node id).kind.layout (tree.node id).text
      ((tree.node id).children.map fun child => ((tree.node child).kind, tree.display child)) := by
  rw [display]
  simp

end SyntaxTree

end CppTemplates
