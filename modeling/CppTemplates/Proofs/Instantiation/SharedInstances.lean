import CppTemplates.Proofs.Evaluation.Viewpoint
import CppTemplates.Proofs.Instantiation.Memoisation

/-!
# Sharing an instance

Requests that get one instance have arguments that match, and an instance binds the parameters to
the arguments of whoever requested it first.  Types and templates that match are the same.  A
non-type argument is an expression with the context that it is evaluated in, and arguments match
however far apart their contexts are.  Sharing is sound as far as the contexts agree about the names
of the expression.
-/

namespace CppTemplates

namespace Program

variable {program between after : Program} {tree : SyntaxTree}

/-- Two arguments denote the same: the same type, the same template, or a value that both
expressions have, each in its own context. -/
inductive DenotesAlike (program : Program) (tree : SyntaxTree) :
    TemplateArgument → TemplateArgument → Prop
  | type {left right : TypeId} (same : program.sameType left right = true) :
      DenotesAlike program tree (.type left) (.type right)
  | template {left right : TypeId} (same : program.sameType left right = true) :
      DenotesAlike program tree (.template left) (.template right)
  | nonType {leftType rightType : TypeId} {left right : NodeId}
      {leftContext rightContext : DeclContext}
      (same : evaluate tree program leftContext left = evaluate tree program rightContext right) :
      DenotesAlike program tree (.nonType leftType left leftContext)
        (.nonType rightType right rightContext)

/-- The contexts of two non-type arguments give one value to every name of the expression. -/
def ArgumentsSeeAlike (program : Program) (tree : SyntaxTree) :
    TemplateArgument → TemplateArgument → Prop
  | .nonType _ expression leftContext, .nonType _ _ rightContext =>
      SeesAlike tree program leftContext rightContext expression
  | _, _ => True

/-- The contexts of two non-type arguments have the same current and the same global scope. -/
def ArgumentsShareScopes : TemplateArgument → TemplateArgument → Prop
  | .nonType _ _ leftContext, .nonType _ _ rightContext =>
      leftContext.currentScope = rightContext.currentScope ∧
        leftContext.globalScope = rightContext.globalScope
  | _, _ => True

namespace Matches

variable {left right : TemplateArgument}

theorem denotesAlike (matching : program.Matches left right)
    (alike : program.ArgumentsSeeAlike tree left right) : program.DenotesAlike tree left right := by
  cases matching with
  | type same => exact .type same
  | template same => exact .template same
  | nonType => exact .nonType (evaluate_eq_of_seesAlike alike)

theorem seeAlike (matching : program.Matches left right)
    (scopes : ArgumentsShareScopes left right) : program.ArgumentsSeeAlike tree left right := by
  cases matching with
  | nonType => exact seesAlike_of_scopes scopes.1 scopes.2 _
  | _ => trivial

end Matches

/-- An instance that was the answer to a request has arguments of its own that match the requested
ones. They are the requested ones if the instance is new. -/
theorem exists_own_of_instanceOf? {kind : RequestKind} {symbol answer : SymbolId}
    {arguments : List TemplateArgument}
    (answers : program.instanceOf? kind symbol arguments = some (answer, after)) :
    ∃ own, after.argumentsOf? answer = some own ∧ after.MatchAll own arguments ∧
      ((answer.index < program.symbols.size ∧ after = program) ∨
        (program.symbols.size ≤ answer.index ∧ own = arguments)) := by
  obtain ⟨ofType, data, -, -, ⟨rfl, -, own, ofAnswer, matching⟩ | ⟨parameters, adds⟩⟩ :=
    exists_template_of_instanceOf? answers
  · refine ⟨own, ofAnswer, matching, .inl ⟨?_, rfl⟩⟩
    obtain ⟨type, typed, -⟩ := Option.bind_eq_some_iff.mp ofAnswer
    exact index_lt_of_entryType typed
  · refine ⟨arguments, adds.specializes.argumentsOf?_eq, .refl arguments, .inr ⟨?_, rfl⟩⟩
    rw [adds.isNew]

/-- Whenever two requests get one instance, the later one changes nothing, and the arguments of both
match those that the instance binds its parameters to, which are the arguments of the first request
if it created the instance.  So types and templates are the same, and non-type arguments are one
expression, which has one value if its names have one value in both contexts, as they have in
contexts with the same scopes. -/
theorem shared_instance_denotes_alike {kind otherKind : RequestKind}
    {template other symbol : SymbolId} {first second : List TemplateArgument}
    (requests : program.instanceOf? kind template first = some (symbol, between))
    (again : between.instanceOf? otherKind other second = some (symbol, after)) :
    after = between ∧
    (∃ own, between.argumentsOf? symbol = some own ∧
      (program.symbols.size ≤ symbol.index → own = first) ∧
      between.MatchAll own first ∧ between.MatchAll own second) ∧
    List.Forall₂ (fun left right => between.Matches left right ∧ ∀ tree,
      (between.ArgumentsSeeAlike tree left right → between.DenotesAlike tree left right) ∧
      (ArgumentsShareScopes left right → between.DenotesAlike tree left right)) first second := by
  obtain ⟨own, ofSymbol, matching, fate⟩ := exists_own_of_instanceOf? requests
  obtain ⟨ownAgain, ofSymbolAgain, matchingAgain, fateAgain⟩ := exists_own_of_instanceOf? again
  have bound : symbol.index < between.symbols.size := by
    obtain ⟨type, typed, -⟩ := Option.bind_eq_some_iff.mp ofSymbol
    exact index_lt_of_entryType typed
  obtain rfl : after = between := by
    rcases fateAgain with ⟨-, same⟩ | ⟨isNew, -⟩
    · exact same
    · exact absurd bound (Nat.not_lt_of_le isNew)
  cases ofSymbol.symm.trans ofSymbolAgain
  refine ⟨rfl, ⟨own, ofSymbol, fun isNew => ?_, matching, matchingAgain⟩, ?_⟩
  · rcases fate with ⟨old, -⟩ | ⟨-, same⟩
    · exact absurd old (Nat.not_lt_of_le isNew)
    · exact same
  · refine (matching.symm.trans matchingAgain).imp fun left right same => ⟨same, fun tree => ?_⟩
    exact ⟨same.denotesAlike, fun scopes => same.denotesAlike (same.seeAlike scopes)⟩

end Program

namespace Sample

def spelledN : SyntaxTree :=
  (((SyntaxTree.empty.addIntegerLiteral "1").2.addIntegerLiteral "2").2.addIdentifier "N").2

def globalN : SymbolId × Program :=
  start.declareVariable ScopeTree.globalContext "N" int (some ⟨0⟩)

def namespaceN : (SymbolId × DeclContext) × Program :=
  globalN.2.declareNamespace ScopeTree.globalContext "n"

/-- `N` is `1` at the top and `2` in the namespace `n`. -/
def memberN : SymbolId × Program :=
  namespaceN.2.declareVariable namespaceN.1.2 "N" int (some ⟨1⟩)

def numberTemplate : SymbolId × Program :=
  memberN.2.declareClassTemplate ScopeTree.globalContext "A" [.nonType "M" int] {}

/-- The expression `N` as an argument. -/
def argumentN (context : DeclContext) : TemplateArgument := .nonType int ⟨2⟩ context

def ofGlobalN : SymbolId × Program :=
  (numberTemplate.2.classInstance? numberTemplate.1 [argumentN ScopeTree.globalContext]).getD
    default

def nestedContext : DeclContext := { ScopeTree.globalContext with templateNesting := 1 }

/-- Contexts that differ in nothing but their nesting share an instance rightly. -/
theorem nesting_shares_rightly :
    numberTemplate.2.instanceOf? .classTemplate numberTemplate.1
      [argumentN ScopeTree.globalContext] = some ofGlobalN ∧
    ofGlobalN.2.instanceOf? .classTemplate numberTemplate.1 [argumentN nestedContext] =
      some ofGlobalN ∧
    ofGlobalN.2.DenotesAlike spelledN (argumentN ScopeTree.globalContext)
      (argumentN nestedContext) := by
  have requests : numberTemplate.2.instanceOf? .classTemplate numberTemplate.1
      [argumentN ScopeTree.globalContext] = some ofGlobalN := by cbv
  have again : ofGlobalN.2.instanceOf? .classTemplate numberTemplate.1
      [argumentN nestedContext] = some ofGlobalN := by cbv
  obtain ⟨-, -, pairs⟩ := Program.shared_instance_denotes_alike requests again
  cases pairs with
  | cons pair _ => exact ⟨requests, again, (pair.2 spelledN).2 ⟨rfl, rfl⟩⟩

set_option maxRecDepth 100000 in
/-- `A<N>` names the instance for `1` inside the namespace, too, where `N` is `2`. -/
theorem namespace_shares_wrongly :
    numberTemplate.2.classInstance? numberTemplate.1 [argumentN ScopeTree.globalContext] =
      some ofGlobalN ∧
    ofGlobalN.2.classInstance? numberTemplate.1 [argumentN namespaceN.1.2] = some ofGlobalN ∧
    evaluate spelledN ofGlobalN.2 ScopeTree.globalContext ⟨2⟩ = .ok (.signedInt 1) ∧
    evaluate spelledN ofGlobalN.2 namespaceN.1.2 ⟨2⟩ = .ok (.signedInt 2) ∧
    ¬ofGlobalN.2.DenotesAlike spelledN (argumentN ScopeTree.globalContext)
      (argumentN namespaceN.1.2) := by
  have atTop : evaluate spelledN ofGlobalN.2 ScopeTree.globalContext ⟨2⟩ = .ok (.signedInt 1) := by
    rw [evaluate, eval_eq_evalStep]
    cbv
  have inside : evaluate spelledN ofGlobalN.2 namespaceN.1.2 ⟨2⟩ = .ok (.signedInt 2) := by
    rw [evaluate, eval_eq_evalStep]
    cbv
  refine ⟨by cbv, by cbv, atTop, inside, fun alike => ?_⟩
  cases alike with
  | nonType same =>
      rw [atTop, inside] at same
      exact absurd same (by decide)

end Sample

end CppTemplates
