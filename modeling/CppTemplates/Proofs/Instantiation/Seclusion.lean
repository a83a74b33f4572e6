import CppTemplates.Proofs.Evaluation.Seclusion
import CppTemplates.Proofs.Instantiation.Sparing

/-!
# Instances that are filled in out of sight

Filling in an instance opens its class, declares the arguments in a scope around the members and
then the name of the class among them.  A path through the class leads to the members and never to
the arguments, so all of this is out of sight of the expressions and types that were there before.
Whether an argument can be injected does not depend on which instances have been filled in.
-/

namespace CppTemplates

namespace Program.Secludes

variable {before after next : Program} {classType : TypeId} {entry : SymbolId}

theorem of_others (secludes : before.Secludes after) {scope : ScopeId}
    (isNew : before.scopes.scopes.size ≤ scope.index)
    (outside : ¬OpenedSince before after scope) (keeps : after.KeepsEntities next)
    (leaves : ∀ type, Leaves type after next)
    (others : ∀ other : ScopeId, other ≠ scope →
      next.scopes.scope other = after.scopes.scope other) :
    before.Secludes next ∧ ¬OpenedSince before next scope := by
  have size_le := (leaves default).lists.size_le
  have earlier : ∀ other, OpenedSince before next other → OpenedSince before after other :=
    fun other opened => opened.of_leaves secludes.toKeepsEntities leaves
  refine ⟨secludes.step (secludes.toPreserves.of_others keeps size_le isNew others) keeps size_le
    fun other opened => .inl ⟨earlier other opened, others other ?_⟩, outside ∘ earlier scope⟩
  rintro rfl
  exact outside (earlier other opened)

/-- A class is opened by an empty inside, and not by the scope of its arguments. -/
theorem openInstance (secludes : before.Secludes after) (entry : SymbolId)
    (unfilled : after.IsUnfilled classType) :
    before.Secludes (after.openInstance entry classType).2 ∧
      ¬OpenedSince before (after.openInstance entry classType).2
        ⟨after.scopes.scopes.size⟩ := by
  have opens := opened_openInstance entry unfilled
  obtain ⟨data, isClass, -⟩ := unfilled
  obtain ⟨-, leaves, recorded, -⟩ := openInstance_spec entry isClass
  let members : ScopeId := ⟨after.scopes.scopes.size + 1⟩
  have fate : ∀ scope, OpenedSince before (after.openInstance entry classType).2 scope →
      OpenedSince before after scope ∨ scope = members := by
    intro scope opened
    refine (opened.earlier secludes.toKeepsEntities leaves).imp_right ?_
    rintro ⟨inner, hasInner, rfl⟩
    rw [innerContext?_eq recorded] at hasInner
    cases hasInner
    exact opens.innerCurrent
  refine ⟨secludes.step (secludes.toPreserves.trans opens.preserves)
    opens.preserves.toKeepsEntities opens.preserves.scopes.size_le fun scope opened => ?_, ?_⟩
  · rcases fate scope opened with wasOpen | rfl
    · exact .inl ⟨wasOpen, opens.preserves.scopes.scope scope (secludes.inTree scope wasOpen)⟩
    · refine .inr ⟨Nat.le_succ_of_le secludes.scopes.size_le, opens.inTree, ?_⟩
      intro name symbol listed
      rw [ScopeTree.lookupLocal, opens.noMembers] at listed
      cases listed
  · intro opened
    rcases fate _ opened with wasOpen | same
    · exact Nat.lt_irrefl _ (secludes.inTree _ wasOpen)
    · exact absurd (congrArg ScopeId.index same) (Nat.ne_of_lt (Nat.lt_succ_self _))

theorem completeInstance (secludes : before.Secludes after)
    (ofKind : (after.entry entry).kind = .className)
    (typed : (after.entry entry).type = some classType) (unopened : before.IsUnopened classType)
    {inner : DeclContext} (hasInner : after.innerContext? classType = some inner) :
    before.Secludes (after.completeInstance entry classType inner) := by
  have inside : OpenedSince before after inner.currentScope :=
    ⟨classType, inner, unopened, hasInner, rfl⟩
  have inTree := secludes.inTree _ inside
  obtain ⟨data, isClass⟩ :=
    (Retains.of_keepsEntities secludes.toKeepsEntities).isClass unopened.1
  obtain ⟨-, leaves, completed, -⟩ := completeInstance_completes entry isClass inner
  obtain ⟨keeps, sameSize, others, declared⟩ := completeInstance_spec after entry classType inTree
  refine secludes.step (secludes.toPreserves.of_others keeps (Nat.le_of_eq sameSize.symm)
    (secludes.isNew _ inside) others) keeps (Nat.le_of_eq sameSize.symm) fun scope opened => ?_
  -- Inside of the class its own name is added, and all other insides are left alone.
  by_cases same : scope = inner.currentScope
  · subst same
    refine .inr ⟨secludes.isNew _ inside, Nat.lt_of_lt_of_eq inTree sameSize.symm, ?_⟩
    intro name symbol listed
    have old : ∀ symbol ∈ after.scopes.lookupLocal inner.currentScope name,
        NamesUnopened before (after.completeInstance entry classType inner) symbol :=
      fun symbol member => (secludes.listed _ inside name symbol member).later keeps
    rw [ScopeTree.lookupLocal, declared, ScopeEntries.candidates_insert] at listed
    split at listed
    · next isName =>
      rcases List.mem_append.mp listed with member | member
      · exact old symbol (isName ▸ member)
      · cases List.mem_singleton.mp member
        have copied := entry_completeInstance after entry classType inner
        exact ⟨by rw [copied]; exact ofKind, classType, by rw [copied]; exact typed, unopened⟩
    · exact old symbol listed
  · refine .inl ⟨?_, others scope same⟩
    rcases opened.earlier secludes.toKeepsEntities leaves with wasOpen | ⟨other, hasOther, current⟩
    · exact wasOpen
    · rw [innerContext?_eq completed, ← innerContext?_eq isClass, hasInner] at hasOther
      cases hasOther
      exact absurd current.symm same

theorem define (secludes : before.Secludes after) (entry : SymbolId) :
    before.Secludes (after.modifyEntry entry fun symbol => { symbol with defined := true }) := by
  have keeps := (KeepsEntities.refl after).modifyEntry_defined entry
  refine secludes.step ⟨secludes.toKeepsEntities.trans keeps, secludes.scopes⟩ keeps
    (Nat.le_refl _) fun scope opened => .inl ⟨?_, rfl⟩
  exact opened.of_leaves secludes.toKeepsEntities
    fun _ => leaves_modifyEntry entry (fun _ => rfl) fun _ => rfl

end Program.Secludes

namespace Session

variable {base session after : Session} {context : DeclContext} {scope : ScopeId}

/-- A session has been added to, with classes opened out of sight. -/
structure Secludes (base session : Session) : Prop where
  program : base.program.Secludes session.program
  tree : base.tree.Extends session.tree

/-- What an argument refers to is there. -/
def Hosts (session : Session) : TemplateArgument → Prop
  | .type type | .template type => type.index < session.program.types.size
  | .nonType _ expression context =>
      expression.index < session.tree.size ∧ session.program.scopes.Hosts context

namespace Secludes

theorem refl (session : Session) : session.Secludes session :=
  ⟨.refl _, .refl _⟩

theorem grows (secludes : base.Secludes session) : base.Grows session :=
  ⟨secludes.program.toPreserves, secludes.tree⟩

theorem of_same (secludes : base.Secludes session) (sameProgram : after.program = session.program)
    (sameTree : after.tree = session.tree) : base.Secludes after :=
  ⟨sameProgram ▸ secludes.program, sameTree ▸ secludes.tree⟩

theorem openClass (secludes : base.Secludes session) (trees : InstantiationTrees)
    (entry : SymbolId) {classType : TypeId} (unfilled : session.program.IsUnfilled classType) :
    base.Secludes (session.openClass trees entry classType) ∧
      ¬Program.OpenedSince base.program (session.openClass trees entry classType).program
        ⟨session.program.scopes.scopes.size⟩ := by
  obtain ⟨program, outside⟩ := secludes.program.openInstance entry unfilled
  exact ⟨⟨program, secludes.tree.trans (SyntaxTree.extends_copyTrees _ _)⟩, outside⟩

theorem finishClass (secludes : base.Secludes session) {name : String}
    {arguments : List TemplateArgument} {templateType classType : TypeId} {entry : SymbolId}
    (isInstance : session.program.IsInstance name arguments templateType entry classType)
    (unopened : base.program.IsUnopened classType) {inner : DeclContext}
    (hasInner : session.program.innerContext? classType = some inner) :
    base.Secludes (session.finishClass entry classType inner) :=
  ⟨(secludes.program.completeInstance isInstance.kind isInstance.typed unopened hasInner).define
    entry, secludes.tree⟩

theorem injects (secludes : base.Secludes session)
    (isNew : base.program.scopes.scopes.size ≤ scope.index)
    (outside : ¬Program.OpenedSince base.program session.program scope)
    (injects : session.Injects scope after) :
    base.Secludes after ∧ ¬Program.OpenedSince base.program after.program scope := by
  obtain ⟨program, outside⟩ :=
    secludes.program.of_others isNew outside injects.keeps injects.leaves injects.others
  exact ⟨⟨program, secludes.tree.trans injects.works.tree⟩, outside⟩

variable (closed : base.program.IsClosed base.tree)
include closed

/-- An argument can be injected exactly if it could be before classes were opened out of sight. -/
theorem isInjectable_iff (secludes : base.Secludes session) {binding : Binding}
    (hosted : base.Hosts binding.argument) :
    session.IsInjectable binding ↔ base.IsInjectable binding := by
  refine ⟨fun injectable => ?_, fun injectable => injectable.grows secludes.grows⟩
  obtain ⟨name, kind, argument⟩ := binding
  refine ⟨injectable.1, ?_⟩
  cases argument with
  | type type => exact trivial
  | template type =>
      obtain ⟨template, named⟩ := injectable.2
      exact ⟨template, secludes.program.namedTemplate?_eq_some_of_lt closed hosted named⟩
  | nonType type expression expressionContext =>
      obtain ⟨value, folded⟩ := injectable.2
      exact ⟨value, (evaluate_eq_ok_iff_of_secludes secludes.program closed secludes.tree hosted.2
        hosted.1).mp folded⟩

/-- Arguments can be injected one after the other exactly if each could be at first. -/
theorem exists_injectAll_iff (inScope : context.templateScope = some scope)
    (secludes : base.Secludes session) (isNew : base.program.scopes.scopes.size ≤ scope.index)
    (outside : ¬Program.OpenedSince base.program session.program scope) {bindings : List Binding}
    (hosted : ∀ binding ∈ bindings, base.Hosts binding.argument) :
    (∃ filled, session.injectAll context bindings = .ok filled) ↔
      ∀ binding ∈ bindings, base.IsInjectable binding := by
  refine ⟨?_, fun injectable => exists_injectAll inScope secludes.grows isNew injectable⟩
  rintro ⟨filled, injected⟩
  induction bindings generalizing session with
  | nil => exact fun binding member => absurd member List.not_mem_nil
  | cons first rest ih =>
      unfold injectAll at injected
      cases injectsFirst : session.injectArgument context first.name first.kind first.argument with
      | error cause =>
          rw [injectsFirst] at injected
          cases injected
      | ok result =>
          obtain ⟨symbol, middle⟩ := result
          rw [injectsFirst] at injected
          obtain ⟨secludesMiddle, outsideMiddle⟩ :=
            secludes.injects isNew outside (injects_injectArgument inScope injectsFirst)
          intro binding member
          rcases List.mem_cons.mp member with rfl | inRest
          · exact (secludes.isInjectable_iff closed (hosted binding member)).mp
              (isInjectable_of_injectArgument injectsFirst)
          · exact ih secludesMiddle outsideMiddle
              (fun other inRest => hosted other (List.mem_cons_of_mem _ inRest)) injected binding
              inRest

end Secludes

end Session

end CppTemplates
