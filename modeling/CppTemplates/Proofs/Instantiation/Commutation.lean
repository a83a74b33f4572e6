import CppTemplates.Proofs.Instantiation.ParameterResults
import CppTemplates.Proofs.Instantiation.Watching
import CppTemplates.Proofs.Program.SymbolTable

/-!
# Class instantiations commute

The arguments of one instance may refer to another one, and whether that one is filled in changes
what a path through it leads to.  Ids, scopes and literals come out differently if two instances
are filled in in the other order.  Yet neither instantiation decides how the other one ends, and
what the parameters of both evaluate to is the same in both orders.
-/

namespace CppTemplates

/-- A request is for an instance of a class template that is not filled in yet. -/
structure Request.AsksFor (request : Request) (program : Program) (name : String)
    (declarations : List ParameterDeclaration) (arguments : List TemplateArgument)
    (trees : InstantiationTrees) (classType : TypeId) : Prop where
  isClass : request.kind = .classTemplate
  instantiates : ∃ templateType primary parameters,
    program.IsClassTemplate declarations trees templateType primary parameters ∧
      program.IsInstance name arguments templateType request.entry classType
  unfilled : program.IsUnfilled classType

namespace Request.AsksFor

variable {request : Request} {program next : Program} {name : String}
variable {declarations : List ParameterDeclaration} {arguments : List TemplateArgument}
variable {trees : InstantiationTrees} {classType : TypeId}

theorem of_fresh (isClass : request.kind = .classTemplate)
    (fresh : Program.FreshInstance name declarations arguments program request.entry) :
    ∃ trees classType,
      request.AsksFor program name declarations arguments trees classType := by
  obtain ⟨templateType, primary, parameters, trees, classType, isTemplate, isInstance, unfilled⟩ :=
    fresh.facts
  exact ⟨trees, classType, isClass, ⟨_, _, _, isTemplate, isInstance⟩, unfilled⟩

variable (asks : request.AsksFor program name declarations arguments trees classType)
include asks

theorem typed : (program.entry request.entry).type = some classType := by
  obtain ⟨_, _, _, _, isInstance⟩ := asks.instantiates
  exact isInstance.typed

theorem later (keeps : program.KeepsEntities next)
    (leaves : Program.Leaves classType program next) :
    request.AsksFor next name declarations arguments trees classType := by
  obtain ⟨templateType, primary, parameters, isTemplate, isInstance⟩ := asks.instantiates
  have retains := Program.Retains.of_keepsEntities keeps
  obtain ⟨data, isClass, incomplete, noInner⟩ := asks.unfilled
  exact ⟨asks.isClass,
    ⟨_, _, _, isTemplate.retained retains, isInstance.retained retains⟩,
    data, leaves.classType data isClass, incomplete, noInner⟩

end Request.AsksFor

namespace Activity

variable {σ : Type} {analyzer : Analyzer σ}

/-- An activity that is carried out succeeds. -/
def Succeeds (activity : Activity σ Unit) (before : Compilation σ) : Prop :=
  ∃ after, activity before = .ok () after

section Attempted

variable {base : Session} {request : Request} {before : Compilation σ} {name : String}
variable {declarations : List ParameterDeclaration} {arguments : List TemplateArgument}
variable {trees : InstantiationTrees} {classType : TypeId}
variable (passive : analyzer.IsPassive)
variable (asks :
  request.AsksFor before.session.program name declarations arguments trees classType)
include passive asks

/-- Carrying out the request is an attempt to fill in the instance. -/
theorem exists_attempt : ∃ outcome,
    before.session.Attempt request trees classType declarations arguments outcome
        ((perform analyzer request).final before).session ∧
      (outcome = .ok () ↔ (perform analyzer request).Succeeds before) := by
  obtain ⟨templateType, primary, parameters, isTemplate, isInstance⟩ := asks.instantiates
  have attempted := isAttempt_perform passive asks.isClass isTemplate isInstance asks.unfilled
  unfold IsAttempt Satisfies at attempted
  unfold final Succeeds
  cases atRun : perform analyzer request before with
  | ok result after =>
      rw [atRun] at attempted
      exact ⟨_, attempted, by simp⟩
  | error cause after =>
      rw [atRun] at attempted
      exact ⟨_, attempted, by simp⟩

/-- An instance is filled in out of sight, and whatever comes of it, as many instantiations are in
progress as before. -/
theorem secludes_final (secludes : base.Secludes before.session)
    (level : base.SameLevel before.session) (unopened : base.program.IsUnopened classType) :
    base.Secludes ((perform analyzer request).final before).session ∧
      base.SameLevel ((perform analyzer request).final before).session := by
  obtain ⟨outcome, attempt, -⟩ := exists_attempt passive asks
  obtain ⟨_, _, _, _, isInstance⟩ := asks.instantiates
  exact ⟨attempt.secludes asks.unfilled isInstance secludes unopened,
    level.trans attempt.sameBooks.toSameLevel⟩

theorem secludes_final_self :
    before.session.Secludes ((perform analyzer request).final before).session ∧
      before.session.SameLevel ((perform analyzer request).final before).session :=
  secludes_final passive asks (.refl _) (.refl _) asks.unfilled.isUnopened

/-- A request for another instance asks for the same afterwards. -/
theorem asksFor_final {other : Request} {otherName : String}
    {otherDeclarations : List ParameterDeclaration} {otherArguments : List TemplateArgument}
    {otherTrees : InstantiationTrees} {otherType : TypeId}
    (otherAsks : other.AsksFor before.session.program otherName otherDeclarations otherArguments
      otherTrees otherType)
    (different : otherType ≠ classType) :
    other.AsksFor ((perform analyzer request).final before).session.program otherName
      otherDeclarations otherArguments otherTrees otherType := by
  obtain ⟨outcome, attempt, -⟩ := exists_attempt passive asks
  obtain ⟨secludes, -⟩ := secludes_final_self passive asks
  exact otherAsks.later secludes.program.toKeepsEntities (attempt.leaves asks.unfilled different)

/-- Whether an instance can be filled in was settled before classes were opened out of sight. -/
theorem succeeds_iff (closed : base.program.IsClosed base.tree)
    (secludes : base.Secludes before.session) (level : base.SameLevel before.session)
    (hosted : ∀ argument ∈ arguments, base.Hosts argument) :
    (perform analyzer request).Succeeds before ↔ base.CanFillIn declarations arguments := by
  obtain ⟨outcome, attempt, succeeds⟩ := exists_attempt passive asks
  exact succeeds.symm.trans (attempt.eq_ok_iff asks.unfilled closed secludes level hosted)

theorem bears_final (grown : base.Grows before.session)
    (succeeds : (perform analyzer request).Succeeds before) :
    ∃ inner, base.Bears ((perform analyzer request).final before).session request.entry name
      (bindingsFor declarations arguments) inner := by
  obtain ⟨outcome, attempt, isOk⟩ := exists_attempt passive asks
  obtain ⟨_, _, _, _, isInstance⟩ := asks.instantiates
  cases isOk.mpr succeeds
  exact attempt.bears isInstance asks.unfilled grown

end Attempted

section Pair

variable {before : Compilation σ} {first second : Request} {firstName secondName : String}
variable {firstDeclarations secondDeclarations : List ParameterDeclaration}
variable {firstArguments secondArguments : List TemplateArgument}
variable {firstTrees secondTrees : InstantiationTrees} {firstType secondType : TypeId}

/-- An instance has the same parameters whether it is filled in before another one or after it. -/
theorem sameParameters_of_succeeds (passive : analyzer.IsPassive)
    (firstAsks : first.AsksFor before.session.program firstName firstDeclarations firstArguments
      firstTrees firstType)
    (secondAsks : second.AsksFor before.session.program secondName secondDeclarations
      secondArguments secondTrees secondType)
    (apart : firstType ≠ secondType)
    (closed : before.session.program.IsClosed before.session.tree)
    (hosted : ∀ argument ∈ firstArguments, before.session.Hosts argument)
    (succeeds : (perform analyzer first).Succeeds before) :
    Session.SameParameters firstDeclarations first.entry
      ((perform analyzer second).final ((perform analyzer first).final before)).session
      ((perform analyzer first).final ((perform analyzer second).final before)).session := by
  have secondThen := asksFor_final passive firstAsks secondAsks apart.symm
  have firstThen := asksFor_final passive secondAsks firstAsks apart
  obtain ⟨afterFirst, firstLevel⟩ := secludes_final_self passive firstAsks
  obtain ⟨afterSecond, secondLevel⟩ := secludes_final_self passive secondAsks
  obtain ⟨firstSecond, -⟩ :=
    secludes_final passive secondThen afterFirst firstLevel secondAsks.unfilled.isUnopened
  obtain ⟨secondFirst, -⟩ :=
    secludes_final passive firstThen afterSecond secondLevel firstAsks.unfilled.isUnopened
  have canFillIn :=
    (succeeds_iff passive firstAsks closed (.refl _) (.refl _) hosted).mp succeeds
  have stillSucceeds :=
    (succeeds_iff passive firstThen closed afterSecond secondLevel hosted).mpr canFillIn
  -- In one order the arguments are injected right away, in the other one after the other instance
  -- was filled in.  Both times they stand for what they were at first.
  obtain ⟨earlyInner, early⟩ := bears_final passive firstAsks (.refl _) succeeds
  obtain ⟨lateInner, late⟩ := bears_final passive firstThen afterSecond.grows stillSucceeds
  obtain ⟨meanwhile, -⟩ := secludes_final_self passive secondThen
  obtain ⟨-, sameLength, injectable⟩ := canFillIn
  exact (early.later meanwhile.grows).sameParameters firstSecond.grows late secondFirst.grows
    (map_name_bindingsFor sameLength) injectable

/-- Two instances can be filled in in either order.  If the analyzer leaves the session alone and
nothing refers to what is not there, each instantiation succeeds in one order exactly if it succeeds
in the other one, and if both succeed, every parameter name of both evaluates to the same from among
the members of its instance. -/
theorem class_instantiations_commute (passive : analyzer.IsPassive)
    (firstIsClass : first.kind = .classTemplate) (secondIsClass : second.kind = .classTemplate)
    (firstFresh : Program.FreshInstance firstName firstDeclarations firstArguments
      before.session.program first.entry)
    (secondFresh : Program.FreshInstance secondName secondDeclarations secondArguments
      before.session.program second.entry)
    (apart : (before.session.program.entry first.entry).type ≠
      (before.session.program.entry second.entry).type)
    (closed : before.session.program.IsClosed before.session.tree)
    (firstHosted : ∀ argument ∈ firstArguments, before.session.Hosts argument)
    (secondHosted : ∀ argument ∈ secondArguments, before.session.Hosts argument) :
    ((perform analyzer first).Succeeds before ↔
        (perform analyzer first).Succeeds ((perform analyzer second).final before)) ∧
      ((perform analyzer second).Succeeds ((perform analyzer first).final before) ↔
        (perform analyzer second).Succeeds before) ∧
      ((perform analyzer first).Succeeds before →
        (perform analyzer second).Succeeds ((perform analyzer first).final before) →
        Session.SameParameters firstDeclarations first.entry
            ((perform analyzer second).final ((perform analyzer first).final before)).session
            ((perform analyzer first).final ((perform analyzer second).final before)).session ∧
          Session.SameParameters secondDeclarations second.entry
            ((perform analyzer second).final ((perform analyzer first).final before)).session
            ((perform analyzer first).final ((perform analyzer second).final before)).session) := by
  obtain ⟨firstTrees, firstType, firstAsks⟩ := Request.AsksFor.of_fresh firstIsClass firstFresh
  obtain ⟨secondTrees, secondType, secondAsks⟩ := Request.AsksFor.of_fresh secondIsClass secondFresh
  have typesApart : firstType ≠ secondType := by
    rintro rfl
    exact apart (firstAsks.typed.trans secondAsks.typed.symm)
  obtain ⟨afterFirst, firstLevel⟩ := secludes_final_self passive firstAsks
  obtain ⟨afterSecond, secondLevel⟩ := secludes_final_self passive secondAsks
  have secondThen := asksFor_final passive firstAsks secondAsks typesApart.symm
  have firstThen := asksFor_final passive secondAsks firstAsks typesApart
  have firstSame : (perform analyzer first).Succeeds before ↔
      (perform analyzer first).Succeeds ((perform analyzer second).final before) :=
    (succeeds_iff passive firstAsks closed (.refl _) (.refl _) firstHosted).trans
      (succeeds_iff passive firstThen closed afterSecond secondLevel firstHosted).symm
  have secondSame : (perform analyzer second).Succeeds ((perform analyzer first).final before) ↔
      (perform analyzer second).Succeeds before :=
    (succeeds_iff passive secondThen closed afterFirst firstLevel secondHosted).trans
      (succeeds_iff passive secondAsks closed (.refl _) (.refl _) secondHosted).symm
  refine ⟨firstSame, secondSame, fun firstSucceeds secondSucceeds => ⟨?_, ?_⟩⟩
  · exact sameParameters_of_succeeds passive firstAsks secondAsks typesApart closed firstHosted
      firstSucceeds
  · exact (sameParameters_of_succeeds passive secondAsks firstAsks typesApart.symm closed
      secondHosted (secondSame.mp secondSucceeds)).symm

end Pair

end Activity

namespace Sample

def seven : NodeId × SyntaxTree := literal.2.addIntegerLiteral "7"

/-- A second instance of `A` has the first one as its type argument. -/
def outerArguments : List TemplateArgument :=
  [.type ((requested.2.entry requested.1).type.getD default), .template named.1,
    .nonType int seven.1 ScopeTree.globalContext]

def outerRequested : SymbolId × Program :=
  (requested.2.classInstance? declared.1 outerArguments).getD default

def bothRequested : Compilation Unit where
  session := { program := outerRequested.2, tree := seven.2 }
  analyzerState := ()

def outerRequest : Request where
  kind := .classTemplate
  entry := outerRequested.1
  context := ScopeTree.globalContext
  location := .builtin

theorem declares_template : start.declareClassTemplate ScopeTree.globalContext "A" parameters {} =
    (declared.1, declared.2) := rfl

theorem creates_inner :
    named.2.classInstance? declared.1 arguments = some (requested.1, requested.2) := rfl

theorem creates_outer : requested.2.classInstance? declared.1 outerArguments =
    some (outerRequested.1, outerRequested.2) := rfl

theorem retains_named : declared.2.Retains named.2 :=
  .of_keepsEntities ((Program.KeepsEntities.refl declared.2).newType _)

theorem inner_fresh : Program.FreshInstance "A" parameters arguments bothRequested.session.program
    request.entry := by
  refine .intro declares_template retains_named rfl rfl creates_inner (by decide)
    (Program.retains_of_templateInstance? creates_outer) ?_
  intro type typed
  cases typed
  exact ⟨_, rfl, rfl, rfl⟩

theorem outer_fresh : Program.FreshInstance "A" parameters outerArguments
    bothRequested.session.program outerRequest.entry :=
  .of_created declares_template
    (retains_named.trans (Program.retains_of_templateInstance? creates_inner)) rfl rfl
    creates_outer (by decide)

theorem bothRequested_isClosed :
    bothRequested.session.program.IsClosed bothRequested.session.tree where
  listed := by
    have checked : ∀ index < 2, ∀ entry ∈ (outerRequested.2.scopes.scope ⟨index⟩).entries,
        ∀ symbol ∈ entry.2, symbol.index < 7 := by decide
    rintro ⟨_ | _ | index⟩ name symbol listed
    · exact checked 0 (by decide) _ (ScopeEntries.mem_of_mem_candidates listed) symbol listed
    · exact checked 1 (by decide) _ (ScopeEntries.mem_of_mem_candidates listed) symbol listed
    · cases listed
  declContext := by
    have checked : ∀ index < 7,
        (outerRequested.2.entry ⟨index⟩).declContext.globalScope.index < 2 ∧
          (outerRequested.2.entry ⟨index⟩).declContext.currentScope.index < 2 := by decide
    intro symbol bound
    obtain ⟨globalBound, currentBound⟩ := checked symbol.index bound
    exact ⟨globalBound, currentBound⟩
  relatedScope := by
    rintro ⟨_ | _ | _ | _ | _ | _ | _ | index⟩ scope related <;> cases related
  entryType := by
    rintro ⟨_ | _ | _ | _ | _ | _ | _ | index⟩ type hasType <;> cases hasType <;> decide
  value := by
    rintro ⟨_ | _ | _ | _ | _ | _ | _ | index⟩ expression hasValue <;> cases hasValue
  named := by
    rintro ⟨_ | _ | _ | _ | _ | _ | index⟩ symbol isName <;> cases isName
    decide
  typedefOf := by
    rintro ⟨_ | _ | _ | _ | _ | _ | index⟩ inner isTypedef <;> cases isTypedef
  innerContext := by
    rintro ⟨_ | _ | _ | _ | _ | _ | index⟩ data inner isClass hasInner <;> cases isClass <;>
      cases hasInner

theorem bothRequested_hosts {type : TypeId} {expression : NodeId} (typeBound : type.index < 6)
    (bound : expression.index < 2) :
    ∀ argument ∈ [TemplateArgument.type type, .template named.1,
        .nonType int expression ScopeTree.globalContext],
      bothRequested.session.Hosts argument := by
  intro argument given
  simp only [List.mem_cons, List.not_mem_nil, or_false] at given
  rcases given with rfl | rfl | rfl
  · exact typeBound
  · exact (by decide : 3 < 6)
  · exact ⟨bound, by decide, by decide⟩

theorem bothRequested_injects (type : TypeId) {expression : NodeId} {value : Value}
    (folds : evaluate seven.2 outerRequested.2 ScopeTree.globalContext expression = .ok value) :
    ∀ binding ∈ bindingsFor parameters [.type type, .template named.1,
        .nonType int expression ScopeTree.globalContext],
      bothRequested.session.IsInjectable binding := by
  intro binding given
  simp only [bindingsFor, parameters, List.zipWith, List.mem_cons, List.not_mem_nil,
    or_false] at given
  rcases given with rfl | rfl | rfl
  · exact ⟨rfl, trivial⟩
  · exact ⟨rfl, _, rfl⟩
  · exact ⟨rfl, value, folds⟩

theorem evaluate_both : evaluate seven.2 outerRequested.2 ScopeTree.globalContext literal.1 =
      .ok (.signedInt 42) ∧
    evaluate seven.2 outerRequested.2 ScopeTree.globalContext seven.1 = .ok (.signedInt 7) := by
  rw [evaluate, eval_eq_evalStep, evaluate, eval_eq_evalStep]
  exact ⟨rfl, rfl⟩

def fillInner : Activity Unit Unit := Activity.perform (Analyzer.idle Unit) request

def fillOuter : Activity Unit Unit := Activity.perform (Analyzer.idle Unit) outerRequest

/-- Both instances can be filled in in both orders, and `T`, `C` and `N` evaluate to the same. -/
theorem instances_commute :
    (fillInner.Succeeds bothRequested ∧ fillOuter.Succeeds (fillInner.final bothRequested)) ∧
      (fillOuter.Succeeds bothRequested ∧ fillInner.Succeeds (fillOuter.final bothRequested)) ∧
      Session.SameParameters parameters request.entry
        (fillOuter.final (fillInner.final bothRequested)).session
        (fillInner.final (fillOuter.final bothRequested)).session ∧
      Session.SameParameters parameters outerRequest.entry
        (fillOuter.final (fillInner.final bothRequested)).session
        (fillInner.final (fillOuter.final bothRequested)).session := by
  have passive := Analyzer.idle_isPassive Unit
  have innerSucceeds : fillInner.Succeeds bothRequested :=
    Activity.exists_perform_ok passive rfl inner_fresh rfl
      (bothRequested_injects _ evaluate_both.1) (by decide)
  have outerSucceeds : fillOuter.Succeeds bothRequested :=
    Activity.exists_perform_ok passive rfl outer_fresh rfl
      (bothRequested_injects _ evaluate_both.2) (by decide)
  obtain ⟨innerSame, outerSame, sameParameters⟩ :=
    Activity.class_instantiations_commute passive rfl rfl inner_fresh outer_fresh (by decide)
      bothRequested_isClosed (bothRequested_hosts (by decide) (by decide))
      (bothRequested_hosts (by decide) (by decide))
  have outerThen := outerSame.mpr outerSucceeds
  exact ⟨⟨innerSucceeds, outerThen⟩, ⟨outerSucceeds, innerSame.mp innerSucceeds⟩,
    sameParameters innerSucceeds outerThen⟩

end Sample

end CppTemplates
