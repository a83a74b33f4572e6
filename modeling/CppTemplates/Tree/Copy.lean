import CppTemplates.Tree.Basic

/-!
# Copying subtrees for instantiation

A template's body is analysed once per instantiation, each time on a copy of its own. A copy
shares no node with its source, and each of its nodes remembers the node it was copied from.
-/

namespace CppTemplates

namespace SyntaxTree

/-- Appends a copy of the subtree of `source` at `id`: first the copies of the children, from left
to right, then the node over them. -/
def appendCopy (source : SyntaxTree) (id : NodeId) : StateM SyntaxTree NodeId := do
  let children ← (source.node id).children.attach.mapM fun ⟨child, _⟩ =>
    appendCopy source child
  modifyGet (·.add { source.node id with children, origin := some id })
termination_by id.index
decreasing_by exact lt_of_mem_children ‹_›

/-- Adds a copy of the subtree at `id` to the tree that holds it. -/
def copyForInstantiation (tree : SyntaxTree) (id : NodeId) : NodeId × SyntaxTree :=
  (tree.appendCopy id).run tree

end SyntaxTree

end CppTemplates
