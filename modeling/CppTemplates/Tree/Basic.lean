import CppTemplates.Source
import CppTemplates.Tree.Kind

/-!
# Syntax trees

All nodes of a translation unit stand in one array and refer to each other by position. A node is
added after its children, so every child has a smaller position than its parent. The tree carries
that fact, and every walk down a tree ends because of it. Subtrees may be shared.
-/

namespace CppTemplates

/-- The position of a node in its tree. -/
structure NodeId where
  /-- The number of nodes before this one. -/
  index : Nat
deriving DecidableEq, Repr, Inhabited

/-- A node of a syntax tree. -/
structure Node where
  kind : NodeKind
  /-- The lexeme of a leaf. -/
  text : Option String := none
  /-- The children, in the order that the kind lays down. -/
  children : List NodeId := []
  span : FileSpan := {}
  /-- The node that this one was copied from for an instantiation. -/
  origin : Option NodeId := none
deriving DecidableEq, Repr, Inhabited

/-- The nodes of a translation unit, children before their parents. -/
structure SyntaxTree where
  /-- The nodes in order of allocation. -/
  nodes : Array Node := #[]
  /-- Every child is older than its parent. -/
  child_lt : ∀ (index : Nat) (node : Node), nodes[index]? = some node →
      ∀ child ∈ node.children, child.index < index := by
    intro index node found
    simp at found

namespace SyntaxTree

def empty : SyntaxTree := {}

instance : Inhabited SyntaxTree := ⟨empty⟩

variable (tree : SyntaxTree)

def size : Nat :=
  tree.nodes.size

def isEmpty : Bool :=
  tree.nodes.isEmpty

/-- The node at a position; past the end stands a node without text and children. -/
def node (id : NodeId) : Node :=
  tree.nodes[id.index]?.getD default

/-- The child of a node with the given index. -/
def child? (id : NodeId) (index : Nat) : Option NodeId :=
  (tree.node id).children[index]?

/-- Adds a node after all others. Only nodes of the tree can be its children. -/
def push (node : Node) : SyntaxTree where
  nodes := tree.nodes.push
    { node with children := node.children.filter (·.index < tree.nodes.size) }
  child_lt := by
    intro index found foundAt child member
    rw [Array.getElem?_push] at foundAt
    split at foundAt
    case isTrue isLast =>
      cases foundAt
      simp only [List.mem_filter, decide_eq_true_eq] at member
      omega
    case isFalse => exact tree.child_lt index found foundAt child member

/-- Adds a node and returns its position. -/
def add (node : Node) : NodeId × SyntaxTree :=
  (⟨tree.size⟩, tree.push node)

def addLeaf (kind : NodeKind) (text : String) (span : FileSpan := {}) : NodeId × SyntaxTree :=
  tree.add { kind, text := some text, span }

/-- Adds a node over children that are already in the tree. -/
def addInterior (kind : NodeKind) (children : List NodeId) (span : FileSpan := {}) :
    NodeId × SyntaxTree :=
  tree.add { kind, children, span }

def addIdentifier (name : String) : NodeId × SyntaxTree :=
  tree.addLeaf .symbol name

/-- The kind of integer literal that a lexeme's first characters announce. -/
def integerLiteralKind (lexeme : String) : LiteralKind :=
  match lexeme.toList with
  | '0' :: 'x' :: _ | '0' :: 'X' :: _ => .hexadecimal
  | '0' :: _ :: _ => .octal
  | _ => .decimal

/-- Adds an integer literal of the kind that its lexeme announces. -/
def addIntegerLiteral (lexeme : String) : NodeId × SyntaxTree :=
  tree.addLeaf (.literal (integerLiteralKind lexeme)) lexeme

variable {tree}

theorem lt_of_mem_children {id child : NodeId} (member : child ∈ (tree.node id).children) :
    child.index < id.index := by
  unfold node at member
  cases found : tree.nodes[id.index]? with
  | none =>
      rw [found] at member
      exact absurd member List.not_mem_nil
  | some node =>
      rw [found] at member
      exact tree.child_lt id.index node found child member

theorem lt_of_child?_eq_some {id child : NodeId} {index : Nat}
    (found : tree.child? id index = some child) : child.index < id.index :=
  lt_of_mem_children (List.mem_of_getElem? found)

theorem lt_size_of_child?_eq_some {id child : NodeId} {index : Nat}
    (found : tree.child? id index = some child) : id.index < tree.size := by
  apply Nat.lt_of_not_le
  intro outside
  simp only [child?, node, Array.getElem?_eq_none outside, Option.getD_none] at found
  exact absurd found (by simp [show (default : Node).children = [] from rfl])

@[simp]
theorem size_push (node : Node) : (tree.push node).size = tree.size + 1 := by
  simp [size, push]

theorem node_push_of_lt {id : NodeId} (bound : id.index < tree.size) (node : Node) :
    (tree.push node).node id = tree.node id := by
  have notLast : id.index ≠ tree.nodes.size := Nat.ne_of_lt bound
  simp [SyntaxTree.node, push, Array.getElem?_push, notLast]

end SyntaxTree

end CppTemplates
