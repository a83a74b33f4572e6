import CppTemplates.Proofs.Instantiation.FunctionBuilds
import CppTemplates.Proofs.Instantiation.Maturity

/-!
# The record is truthful

Three marks tell how far an instance has come: its symbol is defined, its class is complete, and it
stands in the record of completed instantiations.  They are set at different moments, with callbacks
in between that may set the marks of other instances or fail.  Still they agree at every moment: a
class is complete before it is defined and defined before it is recorded, and a function is defined
and recorded in one turn.
-/

namespace CppTemplates

namespace Session

variable {session before middle after : Session} {entry symbol : SymbolId}

/-- The marks of all instances agree with the record of completed instantiations. -/
structure IsTruthful (session : Session) : Prop where
  /-- An instance of a function template is defined exactly if it is recorded. -/
  functions : ∀ symbol, session.program.HasInstance symbol →
    (session.program.entry symbol).kind = .function →
      ((session.program.entry symbol).defined = true ↔ symbol ∈ session.instantiated.map (·.1))
  /-- What is recorded is a function, or a class that is defined and filled in. -/
  recorded : ∀ symbol ∈ session.instantiated.map (·.1),
    (session.program.entry symbol).kind = .function ∧ session.program.IsFunction symbol ∨
      (session.program.entry symbol).defined = true ∧ session.program.IsFilledIn symbol
  /-- An instance of a class template is filled in once it is defined. -/
  classes : ∀ symbol, session.program.HasInstance symbol →
    (session.program.entry symbol).kind = .className →
      (session.program.entry symbol).defined = true → session.program.IsFilledIn symbol

/-- Moreover every instance is a symbol of the program, and a function if it looks like one. -/
structure Truthful (session : Session) : Prop extends session.IsTruthful where
  instances : ∀ symbol, session.program.HasInstance symbol →
    symbol.index < session.program.symbols.size ∧
      ((session.program.entry symbol).kind = .function → session.program.IsFunction symbol)

/-- The engine goes on by itself without recording anything.  What it defines is filled in. -/
structure Furthers (before after : Session) : Prop where
  matures : before.program.Matures after.program
  templates : before.program.KeepsTemplates after.program
  instantiated : after.instantiated = before.instantiated
  defines : ∀ symbol : SymbolId, symbol.index < before.program.symbols.size →
    (after.program.entry symbol).defined = true →
      (before.program.entry symbol).defined = true ∨ after.program.IsFilledIn symbol

namespace Furthers

theorem of_same (sameProgram : after.program = before.program)
    (sameRecord : after.instantiated = before.instantiated) : before.Furthers after := by
  refine ⟨sameProgram ▸ .refl _, sameProgram ▸ .refl _, sameRecord, fun symbol _ isDefined => ?_⟩
  rw [sameProgram] at isDefined
  exact .inl isDefined

theorem refl (session : Session) : session.Furthers session := .of_same rfl rfl

theorem trans {first second third : Session} (earlier : first.Furthers second)
    (later : second.Furthers third) : first.Furthers third where
  matures := earlier.matures.trans later.matures
  templates := earlier.templates.trans later.templates
  instantiated := later.instantiated.trans earlier.instantiated
  defines symbol bound isDefined := by
    have boundLater := Nat.lt_of_lt_of_le bound earlier.matures.symbols_le
    rcases later.defines symbol boundLater isDefined with inSecond | isFilledIn
    · exact (earlier.defines symbol bound inSecond).imp_right later.matures.isFilledIn
    · exact .inr isFilledIn

theorem of_works (works : before.Works after) (matures : before.program.Matures after.program)
    (templates : before.program.KeepsTemplates after.program) : before.Furthers after where
  matures := matures
  templates := templates
  instantiated := works.instantiated_eq
  defines symbol bound isDefined := by
    rw [works.symbols.entry symbol bound] at isDefined
    exact .inl isDefined

end Furthers

theorem furthers_injectArgument {context : DeclContext} {name : String} {kind : ParameterKind}
    {argument : TemplateArgument}
    (injects : session.injectArgument context name kind argument = .ok (symbol, after)) :
    session.Furthers after := by
  have works := works_injectArgument injects
  exact .of_works works
    (.of_leaves works.retains works.symbols.defined (Activity.leaves_injectArgument injects))
    (fillsIn_of_injectArgument injects).toKeepsTemplates

variable (session)

theorem furthers_injectDeductions (context : DeclContext) (parameters : List TemplateParameter)
    (deductions : List Deduction) :
    session.Furthers (injectDeductions context parameters deductions session).2 :=
  related_injectDeductions Furthers.refl (fun _ _ _ => Furthers.trans) furthers_injectArgument
    parameters deductions session

theorem furthers_openFunction (entry : SymbolId) :
    session.Furthers (session.openFunction entry).2 := by
  unfold openFunction
  split
  · exact .refl session
  · split
    · refine Furthers.trans ?_ (related_injectArguments Furthers.refl (fun _ _ _ => Furthers.trans)
        furthers_injectArgument _ _)
      exact .of_works
        (.of_program ((Program.Retains.refl _).withScopes _)
          ((Program.KeepsSymbols.refl _).withScopes _))
        (.of_leaves ((Program.Retains.refl _).withScopes _) (fun _ isDefined => isDefined)
          fun _ => Program.leaves_withScopes (.createChild _ _ _ _))
        (.createChild _ _ _ _)
    · exact .refl session

variable {session} {target : ClassTarget}

theorem furthers_openClass (isClass : session.program.IsClass target.type)
    (trees : InstantiationTrees) :
    session.Furthers (session.openClass trees target.entry target.type) ∧
      (session.openClass trees target.entry target.type).program.HasInner target.type := by
  have works : session.Works (session.openClass trees target.entry target.type) :=
    works_openClass trees target.entry target.type
  obtain ⟨data, isClass⟩ := isClass
  obtain ⟨-, others, opened, -⟩ := Program.openInstance_spec target.entry isClass
  refine ⟨.of_works works (.of_classes works.retains works.symbols.defined ?_)
    (Program.FillsIn.openInstance _ _ _).toKeepsTemplates, _, opened, by simp⟩
  intro type own isOwn
  by_cases same : type = target.type
  · rw [same] at isOwn ⊢
    obtain rfl := Ty.classType.inj (isClass.symm.trans isOwn)
    exact ⟨_, opened, id, fun _ => Option.some_ne_none _⟩
  · exact ⟨own, (others type same).classType own isOwn, id, id⟩

theorem furthers_completeClass (isClass : session.program.IsClass target.type)
    (inner : DeclContext) : session.Furthers (session.completeClass target inner) ∧
      (session.completeClass target inner).program.IsComplete target.type := by
  have works : session.Works (session.completeClass target inner) :=
    works_completeClass target inner
  obtain ⟨data, isClass⟩ := isClass
  obtain ⟨-, others, completed, -⟩ := Program.completeInstance_completes target.entry isClass inner
  refine ⟨.of_works works (.of_classes works.retains works.symbols.defined ?_)
    (Program.FillsIn.completeInstance _ _ _ _).toKeepsTemplates, _, completed, rfl⟩
  intro type own isOwn
  by_cases same : type = target.type
  · rw [same] at isOwn ⊢
    obtain rfl := Ty.classType.inj (isClass.symm.trans isOwn)
    exact ⟨_, completed, fun _ => rfl, id⟩
  · exact ⟨own, (others type same).classType own isOwn, id, id⟩

theorem matures_define (session : Session) (entry : SymbolId) :
    session.program.Matures (session.define entry).program := by
  refine .of_leaves (retains_define session entry) (fun symbol isDefined => ?_) fun type =>
    Program.leaves_modifyEntry entry (fun _ => rfl) fun _ => rfl
  by_cases same : symbol = entry
  · subst same
    exact defined_define (Program.index_lt_of_defined isDefined)
  · rw [entry_define_of_ne same]
    exact isDefined

theorem furthers_define (isFilledIn : session.program.IsFilledIn entry) :
    session.Furthers (session.define entry) where
  matures := matures_define session entry
  templates := (Program.FillsIn.define session entry).toKeepsTemplates
  instantiated := rfl
  defines := by
    intro symbol _ isDefined
    by_cases same : symbol = entry
    · rw [same]
      exact .inr ((matures_define session entry).isFilledIn isFilledIn)
    · rw [entry_define_of_ne same] at isDefined
      exact .inl isDefined

/-- Nothing is taken back, and the record stays truthful. -/
structure Upholds (before after : Session) : Prop where
  matures : before.program.Matures after.program
  truthful : before.Truthful → after.Truthful

theorem Upholds.refl (session : Session) : session.Upholds session := ⟨.refl _, id⟩

theorem Upholds.trans {first second third : Session} (earlier : first.Upholds second)
    (later : second.Upholds third) : first.Upholds third :=
  ⟨earlier.matures.trans later.matures, later.truthful ∘ earlier.truthful⟩

theorem Furthers.truthful (furthers : before.Furthers after) (truthful : before.Truthful) :
    after.Truthful := by
  obtain ⟨matures, templates, sameRecord, defines⟩ := furthers
  have instances : ∀ symbol, after.program.HasInstance symbol →
      symbol.index < before.program.symbols.size ∧
        (after.program.entry symbol).kind = (before.program.entry symbol).kind := by
    intro symbol isInstance
    obtain ⟨bound, -⟩ := truthful.instances symbol (templates.hasInstance isInstance)
    exact ⟨bound, (matures.entry symbol bound).kind⟩
  refine ⟨⟨?_, ?_, ?_⟩, ?_⟩
  · intro symbol isInstance ofKind
    obtain ⟨bound, sameKind⟩ := instances symbol isInstance
    rw [sameKind] at ofKind
    have isOld := templates.hasInstance isInstance
    have isFunction := (truthful.instances symbol isOld).2 ofKind
    rw [sameRecord, ← truthful.functions symbol isOld ofKind]
    refine ⟨fun isDefined => (defines symbol bound isDefined).resolve_right fun isFilledIn => ?_,
      matures.defined symbol⟩
    exact (isFunction.retained matures.toRetains).not_namesClass isFilledIn.namesClass
  · intro symbol isRecorded
    rw [sameRecord] at isRecorded
    rcases truthful.recorded symbol isRecorded with ⟨ofKind, isFunction⟩ | ⟨isDefined, isFilledIn⟩
    · exact .inl ⟨(matures.entry symbol isFunction.index_lt).kind.trans ofKind,
        isFunction.retained matures.toRetains⟩
    · exact .inr ⟨matures.defined symbol isDefined, matures.isFilledIn isFilledIn⟩
  · intro symbol isInstance ofKind isDefined
    obtain ⟨bound, sameKind⟩ := instances symbol isInstance
    rcases defines symbol bound isDefined with wasDefined | isFilledIn
    · exact matures.isFilledIn (truthful.classes symbol (templates.hasInstance isInstance)
        (sameKind ▸ ofKind) wasDefined)
    · exact isFilledIn
  · intro symbol isInstance
    obtain ⟨bound, sameKind⟩ := instances symbol isInstance
    refine ⟨Nat.lt_of_lt_of_le bound matures.symbols_le, fun ofKind => ?_⟩
    exact ((truthful.instances symbol (templates.hasInstance isInstance)).2
      (sameKind ▸ ofKind)).retained matures.toRetains

theorem Furthers.upholds (furthers : before.Furthers after) : before.Upholds after :=
  ⟨furthers.matures, furthers.truthful⟩

theorem Upholds.of_same (sameProgram : after.program = before.program)
    (sameRecord : after.instantiated = before.instantiated) : before.Upholds after :=
  (Furthers.of_same sameProgram sameRecord).upholds

theorem mem_record (session : Session) (entry : SymbolId) (location : Location) :
    symbol ∈ (session.record entry location).instantiated.map (·.1) ↔
      symbol ∈ session.instantiated.map (·.1) ∨ symbol = entry := by
  unfold record
  split
  · next isRecorded =>
    have sameSymbols : (session.instantiated.map fun completed =>
        if completed.1 = entry then (entry, location) else completed).map (·.1) =
          session.instantiated.map (·.1) := by
      rw [List.map_map]
      apply List.map_congr_left
      intro completed _
      simp only [Function.comp_apply]
      split
      · next same => exact same.symm
      · rfl
    rw [sameSymbols]
    refine ⟨.inl, fun recorded => recorded.elim id ?_⟩
    rintro rfl
    obtain ⟨completed, member, same⟩ := List.any_eq_true.mp isRecorded
    exact List.mem_map.mpr ⟨completed, member, of_decide_eq_true same⟩
  · simp

/-- Recording a class that is defined and filled in. -/
theorem upholds_record (isDefined : (session.program.entry entry).defined = true)
    (isFilledIn : session.program.IsFilledIn entry) (location : Location) :
    session.Upholds (session.record entry location) := by
  have sameProgram := (program_record session entry location).1
  refine ⟨sameProgram ▸ .refl _, fun truthful => ⟨⟨?_, ?_, ?_⟩, ?_⟩⟩
  · intro symbol isInstance ofKind
    rw [sameProgram] at isInstance ofKind ⊢
    have other : symbol ≠ entry := by
      rintro rfl
      exact ((truthful.instances symbol isInstance).2 ofKind).not_namesClass isFilledIn.namesClass
    rw [mem_record, truthful.functions symbol isInstance ofKind, or_iff_left other]
  · intro symbol isRecorded
    rw [sameProgram]
    rcases (mem_record session entry location).mp isRecorded with wasRecorded | rfl
    · exact truthful.recorded symbol wasRecorded
    · exact .inr ⟨isDefined, isFilledIn⟩
  · rw [sameProgram]
    exact truthful.classes
  · rw [sameProgram]
    exact truthful.instances

theorem upholds_define_record (ofKind : (session.program.entry entry).kind = .function)
    (isFunction : session.program.IsFunction entry) (location : Location) :
    session.Upholds ((session.define entry).record entry location) := by
  have matures := matures_define session entry
  have templates := (Program.FillsIn.define session entry).toKeepsTemplates
  have sameProgram := (program_record (session.define entry) entry location).1
  have isEntryDefined := defined_define isFunction.index_lt
  refine ⟨sameProgram ▸ matures, fun truthful => ?_⟩
  have sameKind : ∀ symbol, ((session.define entry).program.entry symbol).kind =
      (session.program.entry symbol).kind := by
    intro symbol
    by_cases same : symbol = entry
    · rw [same]
      exact (matures.entry entry isFunction.index_lt).kind
    · rw [entry_define_of_ne same]
  refine ⟨⟨?_, ?_, ?_⟩, ?_⟩
  · intro symbol isInstance isOfKind
    rw [sameProgram] at isInstance isOfKind ⊢
    rw [sameKind] at isOfKind
    rw [mem_record]
    by_cases same : symbol = entry
    · rw [same]
      exact ⟨fun _ => .inr rfl, fun _ => isEntryDefined⟩
    · rw [entry_define_of_ne same, or_iff_left same]
      exact truthful.functions symbol (templates.hasInstance isInstance) isOfKind
  · intro symbol isRecorded
    rw [sameProgram, sameKind]
    rcases (mem_record _ _ _).mp isRecorded with wasRecorded | rfl
    · exact (truthful.recorded symbol wasRecorded).imp
        (fun isBuilt => ⟨isBuilt.1, isBuilt.2.retained matures.toRetains⟩)
        fun isBuilt => ⟨matures.defined symbol isBuilt.1, matures.isFilledIn isBuilt.2⟩
    · exact .inl ⟨ofKind, isFunction.retained matures.toRetains⟩
  · intro symbol isInstance isOfKind isDefined
    rw [sameProgram] at isInstance isOfKind isDefined ⊢
    rw [sameKind] at isOfKind
    -- What has just been defined is a function, so the class is another one.
    have other : symbol ≠ entry := by
      rintro rfl
      rw [ofKind] at isOfKind
      cases isOfKind
    rw [entry_define_of_ne other] at isDefined
    exact matures.isFilledIn
      (truthful.classes symbol (templates.hasInstance isInstance) isOfKind isDefined)
  · intro symbol isInstance
    rw [sameProgram] at isInstance ⊢
    obtain ⟨bound, wasFunction⟩ := truthful.instances symbol (templates.hasInstance isInstance)
    refine ⟨Nat.lt_of_lt_of_le bound matures.symbols_le, fun isOfKind => ?_⟩
    rw [sameKind] at isOfKind
    exact (wasFunction isOfKind).retained matures.toRetains

theorem upholds_introduces {program : Program} {tree : SyntaxTree}
    (introduces : session.program.Introduces program) :
    session.Upholds { session with program, tree } := by
  refine ⟨introduces.toMatures, fun truthful => ?_⟩
  have notRecorded : ∀ symbol, symbol ∈ session.instantiated.map (·.1) →
      symbol.index < session.program.symbols.size := by
    intro symbol isRecorded
    rcases truthful.recorded symbol isRecorded with ⟨-, isFunction⟩ | ⟨-, isFilledIn⟩
    · exact isFunction.index_lt
    · exact isFilledIn.namesClass.index_lt
  refine ⟨⟨?_, ?_, ?_⟩, ?_⟩
  · intro symbol isInstance ofKind
    change (program.entry symbol).defined = true ↔ symbol ∈ session.instantiated.map (·.1)
    -- A new instance is undefined, and so new that no record can be of it.
    rcases introduces.instances symbol isInstance with isOld | ⟨isNew, -, undefined, -⟩
    · obtain ⟨bound, -⟩ := truthful.instances symbol isOld
      have sameKind := (introduces.entry symbol bound).kind
      rw [← truthful.functions symbol isOld (sameKind ▸ ofKind)]
      refine ⟨fun isDefined => ?_, introduces.defined symbol⟩
      cases wasDefined : (session.program.entry symbol).defined with
      | true => rfl
      | false =>
          rw [introduces.undefined symbol bound wasDefined] at isDefined
          cases isDefined
    · refine ⟨fun isDefined => ?_, fun isRecorded => ?_⟩
      · rw [undefined] at isDefined
        cases isDefined
      · exact absurd (notRecorded symbol isRecorded) (Nat.not_lt.mpr isNew)
  · intro symbol isRecorded
    rcases truthful.recorded symbol isRecorded with ⟨ofKind, isFunction⟩ | ⟨isDefined, isFilledIn⟩
    · exact .inl ⟨(introduces.entry symbol isFunction.index_lt).kind.trans ofKind,
        isFunction.retained introduces.toRetains⟩
    · exact .inr ⟨introduces.defined symbol isDefined, introduces.isFilledIn isFilledIn⟩
  · intro symbol isInstance ofKind isDefined
    rcases introduces.instances symbol isInstance with isOld | ⟨isNew, -, undefined, -⟩
    · obtain ⟨bound, -⟩ := truthful.instances symbol isOld
      have sameKind := (introduces.entry symbol bound).kind
      cases wasDefined : (session.program.entry symbol).defined with
      | true =>
          exact introduces.isFilledIn
            (truthful.classes symbol isOld (sameKind ▸ ofKind) wasDefined)
      | false =>
          change (program.entry symbol).defined = true at isDefined
          rw [introduces.undefined symbol bound wasDefined] at isDefined
          cases isDefined
    · change (program.entry symbol).defined = true at isDefined
      rw [undefined] at isDefined
      cases isDefined
  · intro symbol isInstance
    rcases introduces.instances symbol isInstance with isOld | ⟨-, bound, -, isFunction⟩
    · obtain ⟨bound, wasFunction⟩ := truthful.instances symbol isOld
      have sameKind := (introduces.entry symbol bound).kind
      exact ⟨Nat.lt_of_lt_of_le bound introduces.symbols_le, fun ofKind =>
        (wasFunction (sameKind ▸ ofKind)).retained introduces.toRetains⟩
    · exact ⟨bound, isFunction⟩

end Session

/-- What has been achieved with an instance at a stage. -/
def Stage.Stands (program : Program) : Stage → Prop
  | .solving target => program.classOf? target.entry = some target.type
  | .basing target _ =>
      program.classOf? target.entry = some target.type ∧ program.HasInner target.type
  | .building target _ =>
      program.classOf? target.entry = some target.type ∧ program.IsComplete target.type ∧
        program.HasInner target.type
  | .finishing target =>
      (program.entry target.entry).defined = true ∧ program.IsFilledIn target.entry
  | .defining entry _ => (program.entry entry).kind = .function ∧ program.IsFunction entry

theorem Stage.Stands.matured {stage : Stage} {before after : Program}
    (stands : stage.Stands before) (matures : before.Matures after) : stage.Stands after := by
  cases stage with
  | solving target => exact matures.toRetains.classOf?_eq_some stands
  | basing target prepared =>
      exact ⟨matures.toRetains.classOf?_eq_some stands.1, matures.inner _ stands.2⟩
  | building target prepared =>
      exact ⟨matures.toRetains.classOf?_eq_some stands.1, matures.complete _ stands.2.1,
        matures.inner _ stands.2.2⟩
  | finishing target => exact ⟨matures.defined _ stands.1, matures.isFilledIn stands.2⟩
  | defining entry untested =>
      exact ⟨(matures.entry entry stands.2.index_lt).kind.trans stands.1,
        stands.2.retained matures.toRetains⟩

/-- After a turn the record is still truthful, and an instance stands where its stage says. -/
def Turn.Upholds (start : Session) : Turn → Prop
  | .call _ called stage => start.Upholds called ∧ stage.Stands called.program
  | .answer _ after => start.Upholds after

theorem Turn.Upholds.since {start middle : Session} {turn : Turn} (upholds : turn.Upholds middle)
    (earlier : start.Upholds middle) : turn.Upholds start := by
  cases turn with
  | call callback called stage => exact ⟨earlier.trans upholds.1, upholds.2⟩
  | answer outcome after => exact earlier.trans upholds

namespace Session

variable {session : Session} (request : Request) {target : ClassTarget}

theorem upholds_enter {entered : Session} {entity : SymbolId} {location : Location}
    (enters : session.enter entity location = .ok entered) : session.Upholds entered := by
  obtain ⟨-, rfl⟩ := enter_eq_ok enters
  exact .of_same rfl rfl

theorem upholds_leave (session : Session) (entity : SymbolId) :
    session.Upholds (session.leave entity) :=
  .of_same rfl rfl

theorem upholds_finishTurn (isClass : session.program.classOf? target.entry = some target.type)
    (isComplete : session.program.IsComplete target.type)
    (hasInner : session.program.HasInner target.type) (prepared : PreparedClass) :
    (session.finishTurn request target prepared).Upholds session := by
  have isFilledIn : session.program.IsFilledIn target.entry :=
    ⟨target.type, isClass, isComplete, hasInner⟩
  have furthers := furthers_define isFilledIn
  exact ⟨furthers.upholds, defined_define isFilledIn.namesClass.index_lt,
    furthers.matures.isFilledIn isFilledIn⟩

theorem upholds_membersTurn (isClass : session.program.classOf? target.entry = some target.type)
    (isComplete : session.program.IsComplete target.type)
    (hasInner : session.program.HasInner target.type) (prepared : PreparedClass) :
    (session.membersTurn request target prepared).Upholds session := by
  unfold membersTurn
  split
  · exact ⟨.refl session, isClass, isComplete, hasInner⟩
  · exact upholds_finishTurn request isClass isComplete hasInner prepared

theorem upholds_completeTurn (isClass : session.program.classOf? target.entry = some target.type)
    (hasInner : session.program.HasInner target.type) (prepared : PreparedClass) :
    (session.completeTurn request target prepared).Upholds session := by
  obtain ⟨furthers, isComplete⟩ :=
    furthers_completeClass (Program.isClass_of_classOf? isClass) prepared.inner
  have members := upholds_membersTurn request
    (furthers.matures.toRetains.classOf?_eq_some isClass) isComplete
    (furthers.matures.inner _ hasInner) prepared
  exact members.since furthers.upholds

theorem upholds_basesTurn (isClass : session.program.classOf? target.entry = some target.type)
    (hasInner : session.program.HasInner target.type) (clause : Option NodeId)
    (prepared : PreparedClass) :
    (session.basesTurn request target clause prepared).Upholds session := by
  unfold basesTurn
  split
  · exact ⟨.refl session, isClass, hasInner⟩
  · exact upholds_completeTurn request isClass hasInner prepared

theorem upholds_prepareTurn (isClass : session.program.classOf? target.entry = some target.type)
    (solution : Solution) : (session.prepareTurn request target solution).Upholds session := by
  unfold prepareTurn
  split
  · exact upholds_leave session target.entry
  · next trees parameters _ =>
    obtain ⟨opens, hasInner⟩ :=
      furthers_openClass (Program.isClass_of_classOf? isClass) trees
    have injects := furthers_injectDeductions (session.openClass trees target.entry target.type)
      (session.program.openInstance target.entry target.type).1.1 parameters solution.deductions
    have furthers := opens.trans injects
    split
    · next injected =>
      rw [injected] at furthers
      exact furthers.upholds.trans (upholds_leave _ target.entry)
    · next injected =>
      rw [injected] at furthers injects
      have bases := upholds_basesTurn request
        (furthers.matures.toRetains.classOf?_eq_some isClass) (injects.matures.inner _ hasInner)
        (session.tree.copyTrees trees).1.bases (session.preparedClass trees target)
      exact bases.since furthers.upholds

theorem upholds_defineTurn {entry : SymbolId}
    (ofKind : (session.program.entry entry).kind = .function)
    (isFunction : session.program.IsFunction entry) (definition : Option NodeId) :
    (session.defineTurn entry definition).Upholds session := by
  have opens := furthers_openFunction session entry
  unfold defineTurn
  split
  · next opened =>
    rw [opened] at opens
    exact opens.upholds.trans (upholds_leave _ entry)
  · next context after opened =>
    rw [opened] at opens
    split
    · exact opens.upholds.trans (upholds_leave _ entry)
    · next definition =>
      have stands : (Stage.defining entry session).Stands session.program := ⟨ofKind, isFunction⟩
      have begins : after.Furthers
          ({ after with tree := (after.tree.copyForInstantiation definition).2 }.turn
            .testExpression) := .of_same rfl rfl
      exact ⟨(opens.trans begins).upholds, stands.matured opens.matures⟩

theorem upholds_firstTurn (session : Session) (request : Request) :
    (session.firstTurn request).Upholds session := by
  unfold firstTurn
  split
  · split
    · exact .refl session
    · next target resolves =>
      unfold enterClass
      split
      · exact .refl session
      · next entered enters =>
        have eligible := eligibleClass?_of_classTarget resolves
        refine ⟨upholds_enter enters, ?_⟩
        rw [(Activity.program_of_enter enters).1]
        exact (eligibleClass?_eq_some eligible).1
  · split
    · exact .refl session
    · exact .refl session
    · next primary resolves =>
      unfold enterFunction
      split
      · exact .refl session
      · next entered enters =>
        obtain ⟨-, ofKind, isPrimary, -⟩ := functionTarget_eq_some_iff.mp resolves
        have isFunction := (primaryFunction?_eq_some_iff.mp isPrimary).isFunction
        have sameProgram := (Activity.program_of_enter enters).1
        rw [← sameProgram] at ofKind isFunction
        exact (upholds_defineTurn ofKind isFunction _).since (upholds_enter enters)

end Session

/-- After a callback the engine upholds the record, if the instance stands where it should. -/
theorem Stage.upholds_nextTurn {stage : Stage} {ended : Session}
    (stands : stage.Stands ended.program) (request : Request) (reply : Reply) :
    (stage.nextTurn request reply ended).Upholds ended := by
  cases reply with
  | error cause =>
      have settled : ended.Upholds (stage.settle ended) := by
        cases stage <;> exact .of_same rfl rfl
      exact settled.trans (Session.upholds_leave _ _)
  | ok solution =>
      cases stage with
      | solving target =>
          cases solution with
          | none => exact Session.upholds_leave ended target.entry
          | some solution => exact Session.upholds_prepareTurn request stands solution
      | basing target prepared =>
          exact Session.upholds_completeTurn request stands.1 stands.2 prepared
      | building target prepared =>
          exact Session.upholds_finishTurn request stands.1 stands.2.1 stands.2.2 prepared
      | finishing target =>
          have recorded := Session.upholds_record stands.1 stands.2 request.location
          exact recorded.trans (Session.upholds_leave _ _)
      | defining entry untested =>
          have settled : ended.Upholds (ended.putBack untested .testExpression) := .of_same rfl rfl
          have recorded := @Session.upholds_define_record (ended.putBack untested .testExpression)
            entry stands.1 stands.2 request.location
          exact (settled.trans recorded).trans (Session.upholds_leave _ _)

/-- In the course of a request, every turn upholds the record, if no callback has taken anything
back. -/
theorem Dialogue.upholds {request : Request} {asked : Session} {calls : List Call} {turn : Turn}
    (dialogue : Dialogue request asked calls turn)
    (matured : ∀ call ∈ calls, call.called.program.Matures call.ended.program) :
    turn.Upholds ({ request, asked, calls : Pending }.latest) := by
  induction dialogue with
  | first => exact asked.upholds_firstTurn request
  | @next calls callback called stage earlier reply ended ih =>
      obtain ⟨-, stands⟩ := ih fun call member => matured call (List.mem_append_left _ member)
      have matures := matured ⟨callback, called, reply, ended⟩ (by simp)
      rw [Pending.latest_of_calls _ rfl]
      exact Stage.upholds_nextTurn (stands.matured matures) request reply

/-- No callback of a request takes anything back. -/
structure Pending.HasMatured (now : Program) (pending : Pending) : Prop where
  calls : ∀ call ∈ pending.calls, call.called.program.Matures call.ended.program
  current : ∀ callback called, pending.current = some (callback, called) →
    called.program.Matures now

def Frame.HasMatured (now : Program) : Frame → Prop
  | .request pending => pending.HasMatured now
  | .switch _ _ => True

theorem Frame.HasMatured.later {frame : Frame} {now after : Program}
    (hasMatured : frame.HasMatured now) (matures : now.Matures after) :
    frame.HasMatured after := by
  cases frame with
  | switch turned saved => trivial
  | request pending =>
      exact ⟨hasMatured.calls, fun callback called isBusy =>
        (hasMatured.current callback called isBusy).trans matures⟩

section Steps

variable {stack later : List Frame} {before after : Session} {event : Event}

theorem Step.upholds
    (step : Step (Relation.ReflTransGen Program.Introduction) stack before event later after)
    (frames : ∀ frame ∈ stack, frame.HasMatured before.program) :
    before.Upholds after ∧ ∀ frame ∈ later, frame.HasMatured after.program := by
  cases step with
  | @updated _ _ program tree isAllowed =>
      have upholds : before.Upholds { before with program, tree } :=
        Session.upholds_introduces (Program.Introduces.of_introductions isAllowed)
      exact ⟨upholds, fun frame member => (frames frame member).later upholds.matures⟩
  | turned switch =>
      have upholds : before.Upholds (before.turn switch) := by
        cases switch <;> exact .of_same rfl rfl
      refine ⟨upholds, List.forall_mem_cons.mpr ⟨trivial, fun frame member => ?_⟩⟩
      exact (frames frame member).later upholds.matures
  | @restored switch saved _ _ =>
      have upholds : before.Upholds (before.putBack saved switch) := by
        cases switch <;> exact .of_same rfl rfl
      exact ⟨upholds, fun frame member =>
        ((List.forall_mem_cons.mp frames).2 frame member).later upholds.matures⟩
  | asked request =>
      have asks : Pending.HasMatured before.program { request, asked := before } :=
        ⟨by rintro _ ⟨⟩, by rintro _ _ ⟨⟩⟩
      exact ⟨.refl before, List.forall_mem_cons.mpr ⟨asks, frames⟩⟩
  | @called pending rest callback _ stage isIdle turn =>
      obtain ⟨⟨calls, -⟩, ofRest⟩ := List.forall_mem_cons.mp frames
      obtain ⟨upholds, -⟩ := turn.upholds calls
      -- From here on the callback works in the session that the turn has left.
      have busy : (pending.busy callback after).HasMatured after.program := by
        refine ⟨calls, ?_⟩
        rintro _ _ ⟨⟩
        exact .refl _
      exact ⟨upholds, List.forall_mem_cons.mpr ⟨busy, fun frame member =>
        (ofRest frame member).later upholds.matures⟩⟩
  | @replied pending rest callback inside isBusy reply _ =>
      obtain ⟨⟨calls, current⟩, ofRest⟩ := List.forall_mem_cons.mp frames
      have idle : (pending.idle ⟨callback, inside, reply, before⟩).HasMatured before.program := by
        refine ⟨List.forall_mem_append.mpr ⟨calls, ?_⟩, by rintro _ _ ⟨⟩⟩
        exact List.forall_mem_singleton.mpr (current callback inside isBusy)
      exact ⟨.refl before, List.forall_mem_cons.mpr ⟨idle, ofRest⟩⟩
  | @answered pending rest outcome _ isIdle turn =>
      obtain ⟨⟨calls, -⟩, ofRest⟩ := List.forall_mem_cons.mp frames
      have upholds : pending.latest.Upholds after := turn.upholds calls
      exact ⟨upholds, fun frame member => (ofRest frame member).later upholds.matures⟩

variable {allowed : Program → Program → Prop}

/-- Nothing is recorded but by an answer without an error. -/
theorem Step.instantiated_eq (step : Step allowed stack before event later after)
    (notDone : ∀ pending, event ≠ .answered pending (.ok ())) :
    after.instantiated = before.instantiated := by
  cases step with
  | updated isAllowed => rfl
  | turned switch => cases switch <;> rfl
  | @restored switch _ _ _ => cases switch <;> rfl
  | asked request => rfl
  | called isIdle turn => exact Pending.instantiated_eq turn
  | replied isBusy reply => rfl
  | @answered pending _ outcome _ isIdle turn =>
      rcases turn.answer_inv with
        ⟨noCalls, declines⟩ | ⟨_, ⟨_, _, reply, ended⟩, lastStage, calls, _, closes⟩
      · rw [pending.latest_of_calls_nil noCalls]
        exact declines.instantiated_eq
      · rw [pending.latest_of_calls calls]
        cases closes with
        | rejected cause => cases lastStage <;> rfl
        | unprepared solution cause works => exact works.instantiated_eq
        | finished solution => exact absurd rfl (notDone pending)
        | defined solution => exact absurd rfl (notDone pending)

/-- An answer records at most what the request is for. -/
theorem Step.mem_instantiated {symbol : SymbolId}
    (step : Step allowed stack before event later after)
    (isRecorded : symbol ∈ after.instantiated.map (·.1)) :
    symbol ∈ before.instantiated.map (·.1) ∨
      ∃ pending, event = .answered pending (.ok ()) ∧
        symbol = pending.asked.subject pending.request := by
  by_cases notDone : ∀ pending, event ≠ .answered pending (.ok ())
  · rw [step.instantiated_eq notDone] at isRecorded
    exact .inl isRecorded
  push Not at notDone
  obtain ⟨pending, rfl⟩ := notDone
  cases step with
  | answered isIdle turn =>
      rcases turn.answer_inv with
        ⟨noCalls, declines⟩ | ⟨_, ⟨_, _, reply, ended⟩, _, calls, dialogue, closes⟩
      · rw [declines.instantiated_eq] at isRecorded
        rw [pending.latest_of_calls_nil noCalls]
        exact .inl isRecorded
      · rw [pending.latest_of_calls calls]
        have subject := dialogue.covers.subject_eq
        cases closes with
        | finished solution | defined solution =>
            exact ((Session.mem_record _ _ _).mp isRecorded).imp_right fun same =>
              ⟨pending, rfl, same.trans subject.symm⟩

/-- The record at a moment, given the session right before it. -/
structure Moment.RecordsTruly (before : Session) (moment : Moment) : Prop where
  truthful : moment.session.IsTruthful
  /-- Nothing but an answer without an error adds to the record. -/
  unrecorded : (∀ pending, moment.event ≠ .answered pending (.ok ())) →
    moment.session.instantiated = before.instantiated
  /-- It adds at most what the request is for. -/
  recorded : ∀ symbol ∈ moment.session.instantiated.map (·.1),
    symbol ∈ before.instantiated.map (·.1) ∨
      ∃ pending, moment.event = .answered pending (.ok ()) ∧
        symbol = pending.asked.subject pending.request

end Steps

theorem Path.truthful {start session : Session} {moments : List Moment} {stack : List Frame}
    (path : Path (Relation.ReflTransGen Program.Introduction) start moments stack session)
    (truthful : start.Truthful) :
    session.Truthful ∧ ∀ frame ∈ stack, frame.HasMatured session.program := by
  -- by induction on the steps, with what has matured since the frames of the stack began
  induction path with
  | start => exact ⟨truthful, by rintro _ ⟨⟩⟩
  | step path step ih =>
      obtain ⟨upholds, frames⟩ := step.upholds ih.2
      exact ⟨upholds.truthful ih.1, frames⟩

/-- After nothing but declarations the empty record is truthful. -/
theorem Session.truthful_of_introductions {session : Session}
    (reached : Relation.ReflTransGen Program.Introduction {} session.program)
    (nothing : session.instantiated = []) : session.Truthful := by
  have noInstance : ∀ symbol, ¬(({} : Program).HasInstance symbol) := by
    rintro symbol ⟨type, data, isTemplate, -⟩
    exact absurd (Program.index_lt_of_templateType isTemplate) (Nat.not_lt_zero _)
  have atStart : ({ session with program := {} } : Session).Truthful := by
    refine ⟨⟨?_, ?_, ?_⟩, ?_⟩
    · exact fun symbol isInstance => absurd isInstance (noInstance symbol)
    · intro symbol isRecorded
      rw [show ({ session with program := {} } : Session).instantiated = [] from nothing]
        at isRecorded
      cases isRecorded
    · exact fun symbol isInstance => absurd isInstance (noInstance symbol)
    · exact fun symbol isInstance => absurd isInstance (noInstance symbol)
  have introduces : ({ session with program := {} } : Session).program.Introduces
      session.program := .of_introductions reached
  exact (upholds_introduces introduces).truthful atStart

namespace Activity

variable {σ α : Type} {analyzer : Analyzer σ} {action : Action σ α} {before : Compilation σ}

/-- After nothing but declarations and with an empty record, the record is truthful at every moment,
however requests are nested and wherever they fail, as long as the analyzer does nothing by itself
but declare.  A request adds at most its own class or function, and only if it ends well. -/
theorem record_is_truthful
    (analyzerUpdates : analyzer.Updates (Relation.ReflTransGen Program.Introduction))
    (actionUpdates : action.Updates (Relation.ReflTransGen Program.Introduction))
    (reached : Relation.ReflTransGen Program.Introduction {} before.session.program)
    (nothing : before.session.instantiated = []) :
    (∀ earlier moment later, history analyzer action before = earlier ++ moment :: later →
      moment.RecordsTruly (lastSession before.session earlier)) ∧
    ((act analyzer action).final before).session.IsTruthful := by
  have truthful := Session.truthful_of_introductions reached nothing
  have path := history_isPath analyzerUpdates actionUpdates before
  refine ⟨fun earlier moment later isHistory => ?_, (path.truthful truthful).1.toIsTruthful⟩
  rw [isHistory, ← List.singleton_append, ← List.append_assoc] at path
  obtain ⟨stack, session, path⟩ := path.exists_of_append
  have truthfulNow := (path.truthful truthful).1
  obtain ⟨rfl, rfl, stackBefore, sessionBefore, pathBefore, step⟩ := path.snoc_inv
  rw [← pathBefore.eq_lastSession]
  exact ⟨truthfulNow.toIsTruthful, step.instantiated_eq, fun _ => step.mem_instantiated⟩

end Activity

namespace Sample

/-- Three instantiations may be in progress. -/
def roomy : Compilation Unit where
  session := { bounded.session with limits := { maxDepth := 3 } }
  analyzerState := ()

theorem functionOfChar_reached :
    Relation.ReflTransGen Program.Introduction {} functionOfChar.2 := by
  have withBuiltin : ∀ (program : Program) (type : BuiltinType),
      program.Introduction (program.newType (.builtin type)).2 := fun program type =>
    Program.Enlarges.introduction (.ofType (.builtin type))
      (.ofType fun _ isTemplate => nomatch isTemplate)
  have withTypes : Relation.ReflTransGen Program.Introduction {} char.2 :=
    (Relation.ReflTransGen.single (withBuiltin {} .int)).tail (withBuiltin start .char)
  have withClass := withTypes.tail (Program.Enlarges.introduction (.ofTemplate _ _ _ _ _ _)
    (.ofClassTemplate ScopeTree.globalContext "A" [.type "T"] { members := some ⟨0⟩ }))
  have withFunction := withClass.tail (Program.Enlarges.introduction (.ofTemplate _ _ _ _ _ _)
    (.ofFunctionTemplate ScopeTree.globalContext "f" [.type "T"] (some ⟨1⟩)))
  have classNamed : functionTemplate.2.classInstance? classTemplate.1 [.type int] =
      some (classOfInt.1, classOfInt.2) := by rfl
  have intNamed : classOfInt.2.functionInstance? functionTemplate.1 [.type int] =
      some (functionOfInt.1, functionOfInt.2) := by rfl
  have charNamed : functionOfInt.2.functionInstance? functionTemplate.1 [.type char.1] =
      some (functionOfChar.1, functionOfChar.2) := by rfl
  have withInt := (withFunction.tail (Program.Enlarges.introduction (.ofInstance classNamed)
    (.ofClassInstance classNamed))).tail
      (Program.Enlarges.introduction (.ofInstance intNamed) (.ofFunctionInstance intNamed))
  exact withInt.tail
    (Program.Enlarges.introduction (.ofInstance charNamed) (.ofFunctionInstance charNamed))

set_option maxRecDepth 100000 in
/-- The functions for `char` and for `int` and the class are recorded in this order. -/
theorem record_is_truthful_here :
    Relation.ReflTransGen Program.Introduction {} roomy.session.program ∧
    roomy.session.instantiated = [] ∧
    (Activity.history nesting instantiating roomy).map
        (fun moment => moment.session.instantiated.map (·.1)) =
      List.replicate 15 [] ++ List.replicate 2 [functionOfChar.1] ++
        List.replicate 4 [functionOfChar.1, functionOfInt.1] ++
        [[functionOfChar.1, functionOfInt.1, classOfInt.1]] ∧
    ∀ earlier moment later, Activity.history nesting instantiating roomy =
      earlier ++ moment :: later → moment.RecordsTruly (lastSession roomy.session earlier) := by
  refine ⟨functionOfChar_reached, rfl, by cbv, ?_⟩
  exact (Activity.record_is_truthful (nesting_updates _) (instantiating_updates _)
    functionOfChar_reached rfl).1

end Sample

end CppTemplates
