import CppTemplates.Proofs.Evaluation.SkippedOperands
import CppTemplates.Proofs.Program.Extension

/-!
# Values and errors survive conservative extension

Declaring more cannot change what an expression means as long as every old scope declares the same
names.  A name that was found is found first again, and a name that nothing declared is declared by
nothing that the expression can see.  So an expression has the same value or the same error after
any sequence of such declarations.
-/

namespace CppTemplates

namespace SyntaxTree.Extends

variable {tree later : SyntaxTree}

theorem componentName_eq_of_lt (grows : tree.Extends later) {id : NodeId}
    (bound : id.index < tree.size) : later.componentName id = tree.componentName id := by
  rw [componentName, grows.node_eq id bound, componentName]

theorem child?_eq_of_lt (grows : tree.Extends later) {id : NodeId} (bound : id.index < tree.size)
    (index : Nat) : later.child? id index = tree.child? id index := by
  rw [child?, grows.node_eq id bound, child?]

end SyntaxTree.Extends

namespace Program

theorem IsClosed.index_lt_of_query {program : Program} {tree : SyntaxTree}
    (closed : program.IsClosed tree) {source : SyntaxTree} {context : DeclContext} {id : NodeId}
    {first : SymbolId} {rest : List SymbolId}
    (answers : program.queryIdExpression source context id = .ok (first :: rest)) :
    first.index < program.symbols.size := by
  obtain ⟨scope, name, declares⟩ :=
    exists_lookupLocal_eq_of_query answers (List.cons_ne_nil first rest)
  exact closed.listed scope name first (declares ▸ List.mem_cons_self)

theorem IsClosed.index_lt_of_candidates {program : Program} {tree : SyntaxTree}
    (closed : program.IsClosed tree) {context : DeclContext} {qualifier : Option ScopeId}
    {name : String} {first : SymbolId} {rest : List SymbolId}
    (found : program.candidates context qualifier name = first :: rest) :
    first.index < program.symbols.size := by
  have isFound : program.candidates context qualifier name ≠ [] := by simp [found]
  obtain ⟨scope, declares⟩ := exists_lookupLocal_eq_candidates isFound
  exact closed.listed scope name first (by simp [declares, found])

namespace ConservativelyExtends

variable {before after : Program} {tree later : SyntaxTree}
variable {context : DeclContext}

theorem candidates (grown : after.ConservativelyExtends before)
    (hosted : before.scopes.Hosts context) {qualifier : Option ScopeId}
    (inProgram : ∀ scope, qualifier = some scope → scope.index < before.scopes.scopes.size)
    (name : String) :
    GrownFrom (before.candidates context qualifier name)
      (after.candidates context qualifier name) :=
  match qualifier with
  | some scope => grown.lookupLocal scope name (inProgram scope rfl)
  | none => grown.lookup hosted.currentScope name

variable (grown : after.ConservativelyExtends before) (closed : before.IsClosed tree)
variable (grows : tree.Extends later)
include grown closed grows

theorem resolvePath (hosted : before.scopes.Hosts context) {qualifier : Option ScopeId}
    (inProgram : ∀ scope, qualifier = some scope → scope.index < before.scopes.scopes.size)
    {components : List NodeId} (inTree : ∀ component ∈ components, component.index < tree.size) :
    GrownAnswer (before.resolvePath tree context qualifier components)
      (after.resolvePath later context qualifier components) := by
  induction components generalizing qualifier with
  | nil => exact .error _
  | cons component others ih =>
      have sameName := grows.componentName_eq_of_lt (inTree component List.mem_cons_self)
      have sameCandidates := fun name => grown.candidates hosted inProgram name
      cases atName : tree.componentName component with
      | error cause =>
          rw [atName] at sameName
          cases others <;> simp only [Program.resolvePath, atName, sameName] <;> exact .error cause
      | ok name =>
          rw [atName] at sameName
          have longer := sameCandidates name
          cases others with
          | nil =>
              simp only [Program.resolvePath, atName, sameName]
              exact .ok longer
          | cons next others =>
              simp only [Program.resolvePath, atName, sameName, bind, Except.bind]
              cases found : before.candidates context qualifier name with
              | nil =>
                  rw [found] at longer
                  rw [longer.eq_nil]
                  exact .ok (.refl [])
              | cons first rest =>
                  have firstBound : first.index < before.symbols.size :=
                    closed.index_lt_of_candidates found
                  rw [found] at longer
                  obtain ⟨more, foundLater⟩ := longer.exists_cons
                  simp only [foundLater, grown.openedScope?_eq closed firstBound]
                  cases opens : before.openedScope? first with
                  | none => exact .error _
                  | some scope =>
                      refine ih ?_ fun other member => inTree other (List.mem_cons_of_mem _ member)
                      rintro _ ⟨⟩
                      exact closed.index_lt_of_openedScope? opens

theorem queryIdExpression (hosted : before.scopes.Hosts context) {id : NodeId}
    (bound : id.index < tree.size) :
    GrownAnswer (before.queryIdExpression tree context id)
      (after.queryIdExpression later context id) := by
  have noQualifier : ∀ scope, (none : Option ScopeId) = some scope →
      scope.index < before.scopes.scopes.size := by
    intro scope impossible
    cases impossible
  have inTree : ∀ component ∈ (tree.node id).children, component.index < tree.size :=
    fun component member => Nat.lt_trans (SyntaxTree.lt_of_mem_children member) bound
  unfold Program.queryIdExpression
  rw [grows.node_eq id bound]
  split
  · rw [grows.componentName_eq_of_lt bound]
    cases tree.componentName id with
    | error cause => exact .error cause
    | ok name => exact .ok (grown.candidates hosted noQualifier name)
  · unfold Program.resolveQualified
    generalize (tree.node id).children = components at inTree
    cases components with
    | nil => exact .error _
    | cons first rest =>
        simp only [grows.node_eq first (inTree first List.mem_cons_self)]
        split
        · refine grown.resolvePath closed grows hosted ?_ fun component member =>
            inTree component (List.mem_cons_of_mem first member)
          rintro _ ⟨⟩
          exact hosted.globalScope
        · exact grown.resolvePath closed grows hosted noQualifier inTree
  · exact .error _

/-- A name stands for the same constant, or fails to do so for the same reason. -/
theorem namedConstant_eq (hosted : before.scopes.Hosts context) {id : NodeId}
    (bound : id.index < tree.size) :
    after.namedConstant later context id = before.namedConstant tree context id := by
  have answers := grown.queryIdExpression closed grows hosted bound
  unfold namedConstant
  rw [grows.display_eq bound, grows.node_eq id bound]
  cases atBefore : before.queryIdExpression tree context id with
  | error cause =>
      rw [atBefore] at answers
      generalize after.queryIdExpression later context id = answer at answers
      cases answers
      rfl
  | ok found =>
      rw [atBefore] at answers
      generalize after.queryIdExpression later context id = answer at answers
      cases answers with
      | ok longer =>
          cases found with
          | nil => rw [longer.eq_nil]
          | cons first rest =>
              obtain ⟨more, rfl⟩ := longer.exists_cons
              have firstBound : first.index < before.symbols.size :=
                closed.index_lt_of_query atBefore
              simp only [grown.entry first firstBound]

end ConservativelyExtends

end Program

/-- Whatever constants are busy, an expression of a closed program has the outcome that it has in
every conservative extension. -/
theorem eval_eq_of_conservativelyExtends {tree later : SyntaxTree} {before after : Program}
    (grown : after.ConservativelyExtends before) (closed : before.IsClosed tree)
    (grows : tree.Extends later) {context : DeclContext} (hosted : before.scopes.Hosts context)
    {busy : List SymbolId} {id : NodeId} (bound : id.index < tree.size) :
    eval later after context busy id = eval tree before context busy id := by
  induction context, busy, id using eval_induction tree before with
  | step context busy id children constant =>
      rw [eval_eq_evalStep, eval_eq_evalStep, grows.node_eq id bound,
        grown.namedConstant_eq closed grows hosted bound, grows.display_eq bound]
      congr 1
      · funext index
        rw [grows.child?_eq_of_lt bound]
        cases found : tree.child? id index with
        | none => rfl
        | some child =>
            have older := SyntaxTree.lt_of_child?_eq_some found
            exact children index child found hosted (Nat.lt_trans older bound)
      · funext _
        cases found : before.namedConstant tree context id with
        | error cause => rfl
        | ok pair =>
            obtain ⟨symbol, expression⟩ := pair
            have symbolBound := Program.index_lt_of_namedConstant found
            have hasValue := Program.value_of_namedConstant found
            simp only [grown.entry symbol symbolBound]
            by_cases isBusy : symbol ∈ busy
            · simp only [if_pos isBusy]
            · simp only [if_neg isBusy]
              exact constant symbol expression found isBusy (closed.declContext symbol symbolBound)
                (closed.value symbol expression hasValue)

/-- Evaluation is stable under conservative extension: every expression has the same value or error
afterwards.  Where a name was declared, its candidates stay the first ones, and a name that could
not be seen from a scope still cannot. -/
theorem evaluate_stable_under_extension {tree later : SyntaxTree} {before after : Program}
    (closed : before.IsClosed tree)
    (steps : Relation.ReflTransGen before.ExtensionStep (tree, before) (later, after)) :
    (∀ context id, before.scopes.Hosts context → id.index < tree.size →
      evaluate later after context id = evaluate tree before context id) ∧
    ∀ (scope : ScopeId) (name : String), scope.index < before.scopes.scopes.size →
      GrownFrom (before.scopes.lookupLocal scope name) (after.scopes.lookupLocal scope name) ∧
        GrownFrom (before.scopes.lookup scope name) (after.scopes.lookup scope name) := by
  obtain ⟨grows, grown⟩ := Program.extends_of_steps steps
  constructor
  · intro context id hosted bound
    exact eval_eq_of_conservativelyExtends grown closed grows hosted bound
  · intro scope name bound
    exact ⟨grown.lookupLocal scope name bound, grown.lookup bound name⟩

namespace Sample

def oneAndN : SyntaxTree :=
  ((SyntaxTree.empty.addIntegerLiteral "1").2.addIdentifier "N").2

def withTwo : SyntaxTree :=
  (oneAndN.addIntegerLiteral "2").2

/-- Declares `N` once more, now with the initializer `2`. -/
def declaredTwice : Program :=
  ((constantN ⟨0⟩).declareVariable ScopeTree.globalContext "N" ⟨0⟩ (some ⟨2⟩)).2

theorem constantN_isClosed : (constantN ⟨0⟩).IsClosed oneAndN where
  listed := by
    rintro ⟨_ | index⟩ name symbol member
    · change symbol ∈ ScopeEntries.candidates [("N", [⟨0⟩])] name at member
      rw [ScopeEntries.candidates_cons] at member
      split at member
      · cases List.mem_singleton.mp member
        decide
      · cases member
    · cases member
  declContext := by
    rintro ⟨_ | index⟩ bound
    · exact ⟨by decide, by decide⟩
    · exact absurd bound (by simp [constantN, Program.declareVariable, Program.newSymbol,
        Program.addEntry, Program.signIn, Program.newType])
  relatedScope := by
    rintro ⟨_ | index⟩ scope related <;> cases related
  entryType := by
    rintro ⟨_ | index⟩ type hasType <;> cases hasType
    decide
  value := by
    rintro ⟨_ | index⟩ expression hasValue <;> cases hasValue
    decide
  named := by
    rintro ⟨_ | index⟩ symbol isName <;> cases isName
  typedefOf := by
    rintro ⟨_ | index⟩ inner isTypedef <;> cases isTypedef
  innerContext := by
    rintro ⟨_ | index⟩ data inner isClass <;> cases isClass

theorem declaredTwice_steps : Relation.ReflTransGen (constantN ⟨0⟩).ExtensionStep
    (oneAndN, constantN ⟨0⟩) (withTwo, declaredTwice) := by
  have declared : (constantN ⟨0⟩).scopes.lookupLocal ScopeTree.global "N" ≠ [] := by decide
  exact .head (.node _ _ _)
    (Program.extensionSteps_declareVariable (Nat.le_refl _) (.inr declared) _ _)

/-- A second declaration of `N` does not change its value. -/
theorem first_declaration_decides :
    evaluate withTwo declaredTwice ScopeTree.globalContext ⟨1⟩ =
      evaluate oneAndN (constantN ⟨0⟩) ScopeTree.globalContext ⟨1⟩ := by
  have stable := evaluate_stable_under_extension constantN_isClosed declaredTwice_steps
  exact stable.1 ScopeTree.globalContext ⟨1⟩ ⟨by decide, by decide⟩ (by decide)

end Sample

end CppTemplates
