import CppTemplates.Tree.Operator

/-!
# Kinds of syntax tree nodes

What a node stands for decides the layout of its children:

* a binary operator has its two operands, a unary operator, a constant expression and a
  parenthesized expression their one operand;
* a cast has the type and the operand, a conditional the condition and its two branches;
* a qualified id has its components, led by a global scope node if it starts with `::`;
* a call and a template id have the name and then the arguments;
* a member declaration has its type and declarator, a function definition also the body;
* literals, symbols, type names, declarators and base specifiers are leaves with a text.
-/

namespace CppTemplates

/-- What a syntax tree node stands for. -/
inductive NodeKind where
  | constantExpression
  | parenthesizedExpression
  | symbol
  | qualifiedId
  | globalScope
  | templateId
  | binary (operator : BinaryOperator)
  | castExpression
  | conditionalExpression
  | functionCall
  | literal (kind : LiteralKind)
  | unary (operator : UnaryOperator)
  | typeId
  | simpleTypeSpecifier
  | declarator
  | memberSpecification
  | memberDeclaration
  | baseClause
  | baseSpecifier
  | functionDefinition
  | compoundStatement
  | returnStatement
  | expressionStatement
deriving DecidableEq, Repr, Inhabited

namespace NodeKind

def all : List NodeKind :=
  [.constantExpression, .parenthesizedExpression, .symbol, .qualifiedId, .globalScope, .templateId]
    ++ BinaryOperator.all.map .binary
    ++ [.castExpression, .conditionalExpression, .functionCall]
    ++ LiteralKind.all.map .literal
    ++ UnaryOperator.all.map .unary
    ++ [.typeId, .simpleTypeSpecifier, .declarator, .memberSpecification, .memberDeclaration,
      .baseClause, .baseSpecifier, .functionDefinition, .compoundStatement, .returnStatement,
      .expressionStatement]

def name : NodeKind → String
  | .constantExpression => "constant-expression"
  | .parenthesizedExpression => "parenthesized-expression"
  | .symbol => "symbol"
  | .qualifiedId => "qualified-id"
  | .globalScope => "global-scope"
  | .templateId => "template-id"
  | .binary operator => operator.name
  | .castExpression => "cast-expression"
  | .conditionalExpression => "conditional-expression"
  | .functionCall => "function-call"
  | .literal kind => kind.name
  | .unary operator => operator.name
  | .typeId => "type-id"
  | .simpleTypeSpecifier => "simple-type-specifier"
  | .declarator => "declarator"
  | .memberSpecification => "member-specification"
  | .memberDeclaration => "member-declaration"
  | .baseClause => "base-clause"
  | .baseSpecifier => "base-specifier"
  | .functionDefinition => "function-definition"
  | .compoundStatement => "compound-statement"
  | .returnStatement => "return-statement"
  | .expressionStatement => "expression-statement"

def ofName? (name : String) : Option NodeKind :=
  all.find? (·.name == name)

def isBinaryOperator : NodeKind → Bool
  | .binary _ => true
  | _ => false

def isUnaryOperator : NodeKind → Bool
  | .unary _ => true
  | _ => false

def isLiteral : NodeKind → Bool
  | .literal _ => true
  | _ => false

def binaryOperator? : NodeKind → Option BinaryOperator
  | .binary operator => some operator
  | _ => none

/-- The source spelling of an operator node's operator. -/
def operatorSpelling? : NodeKind → Option String
  | .binary operator => some operator.spelling
  | .unary operator => some operator.spelling
  | _ => none

end NodeKind

end CppTemplates
