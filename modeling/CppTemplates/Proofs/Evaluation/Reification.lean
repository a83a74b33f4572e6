import CppTemplates.Proofs.Evaluation.Growth
import CppTemplates.Proofs.Literal.RoundTrip

/-!
# Values that go back into the tree

A value that was folded can stand in the tree again, as the literal leaf that spells it.  Evaluating
the leaf gives the value, from whatever context, so that nothing is lost between folding an
expression and folding what stands for it.  A backslash is the exception: it is written as an octal
escape, which has no value.
-/

namespace CppTemplates

/-- The leaf that spells a backslash is an escape sequence. -/
theorem Value.literalValue_backslash :
    (Value.character 92).literalLeaf.literalValue =
      .error (.unsupportedEscapeSequence "'\\134'" {}) := by
  rfl

theorem Value.literalValue_literalLeaf_eq (value : Value) :
    value.literalLeaf.literalValue =
      if value = .character 92 then .error (.unsupportedEscapeSequence "'\\134'" {})
      else .ok value := by
  split
  · next isBackslash =>
    rw [isBackslash, literalValue_backslash]
  · next notBackslash => exact literalValue_literalLeaf notBackslash rfl rfl

/-- The leaf that spells a value is read as a literal wherever it stands. -/
theorem eval_of_literalLeaf {tree : SyntaxTree} {id : NodeId} {value : Value}
    (spelt : tree.node id = value.literalLeaf) (program : Program) (context : DeclContext)
    (busy : List SymbolId) :
    eval tree program context busy id = value.literalLeaf.literalValue := by
  rw [eval_eq_evalStep, spelt]
  unfold Node.evalStep
  cases value <;> exact ofExcept_eq _

/-- So it has the value that it spells, a backslash excepted. -/
theorem eval_eq_ok_of_literalLeaf {tree : SyntaxTree} {id : NodeId} {value : Value}
    (spelt : tree.node id = value.literalLeaf) (notBackslash : value ≠ .character 92)
    (program : Program) (context : DeclContext) (busy : List SymbolId) :
    eval tree program context busy id = .ok value :=
  (eval_of_literalLeaf spelt program context busy).trans
    (Value.literalValue_literalLeaf notBackslash rfl rfl)

theorem index_lt_of_literalLeaf {tree : SyntaxTree} {id : NodeId} {value : Value}
    (spelt : tree.node id = value.literalLeaf) : id.index < tree.size := by
  apply SyntaxTree.index_lt_of_node_ne_default
  rw [spelt]
  intro isDefault
  cases congrArg Node.kind isDefault

/-- Reified values read back.  The leaf that is added for a value reads as the value and, from every
context and with every program, evaluates to it; for a backslash both report an unsupported escape
sequence.  So if an expression evaluates to another value than a backslash, the leaf added for that
value evaluates to it again, in the tree in which the expression still has it. -/
theorem reified_values_read_back (tree : SyntaxTree) (program : Program) (context : DeclContext)
    (value : Value) :
    let leaf := (tree.addLiteral value).1
    let grown := (tree.addLiteral value).2
    (value ≠ .character 92 →
      (grown.node leaf).literalValue = .ok value ∧
        evaluate grown program context leaf = .ok value) ∧
    (value = .character 92 →
      (grown.node leaf).literalValue = .error (.unsupportedEscapeSequence "'\\134'" {}) ∧
        evaluate grown program context leaf =
          .error (.unsupportedEscapeSequence "'\\134'" {})) ∧
    ∀ elsewhere expression, evaluate tree program elsewhere expression = .ok value →
      value ≠ .character 92 →
        evaluate grown program elsewhere expression = .ok value ∧
          evaluate grown program context leaf = .ok value := by
  intro leaf grown
  have spelt : grown.node leaf = value.literalLeaf := tree.node_addLiteral value
  have reads : evaluate grown program context leaf = value.literalLeaf.literalValue :=
    eval_of_literalLeaf spelt program context []
  have grows : tree.Extends grown := tree.extends_push value.literalLeaf
  refine ⟨fun notBackslash => ?_, fun isBackslash => ?_,
    fun elsewhere expression folds notBackslash => ?_⟩
  · rw [reads, spelt, value.literalValue_literalLeaf_eq, if_neg notBackslash]
    exact ⟨rfl, rfl⟩
  · rw [reads, spelt, value.literalValue_literalLeaf_eq, if_pos isBackslash]
    exact ⟨rfl, rfl⟩
  · refine ⟨evaluate_eq_ok_of_preserves grows (.refl program) folds, ?_⟩
    rw [reads, value.literalValue_literalLeaf_eq, if_neg notBackslash]

namespace Sample

def hexadecimalLeaf : SyntaxTree :=
  (SyntaxTree.empty.addIntegerLiteral "0x80000000").2

theorem hexadecimalLeaf_evaluates (program : Program) (context : DeclContext) :
    evaluate hexadecimalLeaf program context ⟨0⟩ = .ok (.signedInt (.intMin 32)) := by
  rw [evaluate, eval_eq_evalStep]
  cbv

/-- The leaf `0x80000000` has the least value of `int`.  The leaf that is added for it is
`-2147483648` and has that value again. -/
theorem least_int_reads_back :
    evaluate hexadecimalLeaf {} ScopeTree.globalContext ⟨0⟩ = .ok (.signedInt (.intMin 32)) ∧
    Value.signedInt (.intMin 32) ≠ .character 92 ∧
    (Value.signedInt (.intMin 32)).literalText = "-2147483648" ∧
    evaluate (hexadecimalLeaf.addLiteral (.signedInt (.intMin 32))).2 {}
      ScopeTree.globalContext ⟨1⟩ = .ok (.signedInt (.intMin 32)) := by
  have folds := hexadecimalLeaf_evaluates {} ScopeTree.globalContext
  have notBackslash : Value.signedInt (.intMin 32) ≠ .character 92 := by decide
  have again := reified_values_read_back hexadecimalLeaf {} ScopeTree.globalContext
    (.signedInt (.intMin 32))
  exact ⟨folds, notBackslash, by decide, (again.2.2 _ _ folds notBackslash).2⟩

end Sample

end CppTemplates
