import CppTemplates.Proofs.Instantiation.InstanceNames
import CppTemplates.Proofs.Instantiation.TemplateRuns
import CppTemplates.Proofs.Program.Matching

/-!
# Instances are created once

A template remembers its instances together with the arguments that they were first requested with.
Requests, declarations and instantiations may alternate in any order after the template has been
declared: as long as no typedef is turned to another type, two requests get one instance exactly if
their arguments match, and only the first request for its arguments changes the program.
-/

namespace CppTemplates

namespace RequestKind

def symbolKind : RequestKind → SymbolKind
  | .classTemplate => .className
  | .functionTemplate => .function

/-- The type of a new instance: a class without a body, or a function without a definition. -/
def instanceType (kind : RequestKind) (specialization : Specialization) : Ty :=
  match kind with
  | .classTemplate =>
      .classType
        { completeness := .incompleteIndependent, specialization := some specialization }
  | .functionTemplate =>
      .functionType { specialization := some specialization, definition := none }

theorem specialization?_instanceType (kind : RequestKind) (specialization : Specialization) :
    (kind.instanceType specialization).specialization? = some specialization := by
  cases kind <;> rfl

end RequestKind

namespace Program

variable {program before after start : Program} {templateType : TypeId}

theorem instanceOf?_eq (kind : RequestKind) (symbol : SymbolId)
    (arguments : List TemplateArgument) :
    program.instanceOf? kind symbol arguments =
      program.templateInstance? symbol arguments kind.symbolKind kind.instanceType := by
  cases kind <;> rfl

/-- A program has one symbol and one type more than another, those of a new instance of a template
that is named by a symbol.  Apart from that only the list of the instances differs. -/
structure AddsInstance (before after : Program) (kind : RequestKind) (symbol : SymbolId)
    (data : TemplateType) (specialization : Specialization) (added : SymbolId) : Prop where
  isNew : added = ⟨before.symbols.size⟩
  scopes : after.scopes = before.scopes
  symbols_size : after.symbols.size = before.symbols.size + 1
  types_size : after.types.size = before.types.size + 1
  entry : ∀ id : SymbolId, id.index < before.symbols.size → after.entry id = before.entry id
  entry_new : after.entry added =
    { name := before.symbolName symbol
      kind := kind.symbolKind
      declContext := (before.entry symbol).declContext
      scope := (before.entry symbol).declContext.currentScope
      type := some ⟨before.types.size⟩ }
  type : ∀ id : TypeId, id.index < before.types.size → id ≠ specialization.template →
    after.type id = before.type id
  type_new : after.type ⟨before.types.size⟩ = kind.instanceType specialization
  type_template : after.type specialization.template =
    .templateType { data with instances := data.instances ++ [added] }

theorem addsInstance_createInstance {data : TemplateType} {specialization : Specialization}
    (isTemplate : program.type specialization.template = .templateType data) (kind : RequestKind)
    (symbol : SymbolId) :
    program.AddsInstance
      (program.createInstance symbol kind.symbolKind specialization.template
        (kind.instanceType specialization)).2 kind symbol data specialization
      ⟨program.symbols.size⟩ := by
  let listed := program.newUnscopedSymbol (program.entry symbol).declContext
    (program.symbolName symbol) kind.symbolKind
  let typed := listed.2.newType (kind.instanceType specialization)
  obtain ⟨-, size, atNew⟩ := program.createInstance_spec symbol kind.symbolKind
    specialization.template (kind.instanceType specialization)
  have bound : specialization.template.index < program.types.size :=
    index_lt_of_templateType isTemplate
  have keeps : program.KeepsSymbols typed.2 := ((KeepsSymbols.refl program).addEntry _).newType _
  have typeBound : specialization.template.index < typed.2.types.size :=
    Nat.lt_of_lt_of_eq (Nat.lt_succ_of_lt bound) (Array.size_push _).symm
  have atTemplate : typed.2.type specialization.template = .templateType data :=
    (@type_newType_of_lt listed.2 _ bound _).trans isTemplate
  constructor
  case isNew => rfl
  case scopes => rfl
  case symbols_size => exact size
  case types_size => exact (size_modifyType _ _).trans (Array.size_push _)
  case entry => exact ((keeps.modifyEntry_new (Nat.le_refl _) _).modifyTemplate _ _).entry
  case entry_new => exact atNew
  case type =>
    intro id older other
    exact (type_modifyType_of_ne other _).trans (type_newType_of_lt older _)
  case type_new => exact type_createInstance bound symbol kind.symbolKind _
  case type_template =>
    refine (type_modifyType_self typeBound _).trans ?_
    rw [atTemplate]

theorem exists_own_of_findInstance? {data : TemplateType} {arguments : List TemplateArgument}
    {existing : SymbolId} (found : program.findInstance? data arguments = some existing) :
    existing ∈ data.instances ∧
      ∃ own, program.argumentsOf? existing = some own ∧ program.MatchAll own arguments := by
  have matching := List.find?_some found
  split at matching
  · next own ofExisting =>
    exact ⟨List.mem_of_find?_eq_some found, own, ofExisting, sameArguments_iff.mp matching⟩
  · cases matching

/-- An answered request names a template, and the answer is an instance with matching arguments that
was there before, or it is added. -/
theorem exists_template_of_instanceOf? {kind : RequestKind} {symbol answer : SymbolId}
    {arguments : List TemplateArgument}
    (answers : before.instanceOf? kind symbol arguments = some (answer, after)) :
    ∃ ofType data, (before.entry symbol).type = some ofType ∧
      before.type ofType = .templateType data ∧
      ((after = before ∧ answer ∈ data.instances ∧
        ∃ own, before.argumentsOf? answer = some own ∧ before.MatchAll own arguments) ∨
      ∃ parameters, before.AddsInstance after kind symbol data
        { template := ofType, parameters, arguments } answer) := by
  rw [instanceOf?_eq] at answers
  obtain ⟨ofType, data, typed, isTemplate⟩ := exists_template_of_templateInstance? answers
  refine ⟨ofType, data, typed, isTemplate, ?_⟩
  rw [templateInstance?_eq isTemplate typed] at answers
  split at answers
  · next existing found =>
    cases answers
    exact .inl ⟨rfl, exists_own_of_findInstance? found⟩
  · obtain ⟨parameters, -, created⟩ := Option.map_eq_some_iff.mp answers
    have adds := @addsInstance_createInstance before data
      { template := ofType, parameters, arguments } isTemplate kind symbol
    dsimp only at adds
    rw [created] at adds
    cases created
    exact .inr ⟨parameters, adds⟩

/-- A request under a name of a template finds an instance with matching arguments, or there is none
and it adds one with the parameters of the generic definition. -/
theorem instanceOf?_cases {data : TemplateType} {parameters : List TemplateParameter}
    (isTemplate : program.type templateType = .templateType data)
    (primary : program.Specializes data.primary { template := templateType, parameters })
    {symbol : SymbolId} (names : (program.entry symbol).type = some templateType)
    (kind : RequestKind) (arguments : List TemplateArgument) :
    (∃ existing ∈ data.instances, ∃ own, program.argumentsOf? existing = some own ∧
      program.MatchAll own arguments ∧
      program.instanceOf? kind symbol arguments = some (existing, program)) ∨
    (∀ existing ∈ data.instances, ∀ own, program.argumentsOf? existing = some own →
      ¬program.MatchAll own arguments) ∧
    ∃ added after, program.instanceOf? kind symbol arguments = some (added, after) ∧
      program.AddsInstance after kind symbol data
        { template := templateType, parameters, arguments } added := by
  rw [instanceOf?_eq, templateInstance?_eq isTemplate names, primary.primaryParameters?_eq]
  cases found : program.findInstance? data arguments with
  | some existing =>
      left
      obtain ⟨member, own, ofExisting, matching⟩ := exists_own_of_findInstance? found
      exact ⟨existing, member, own, ofExisting, matching, rfl⟩
  | none =>
      right
      refine ⟨fun existing member own ofExisting matching => ?_, _, _, rfl,
        addsInstance_createInstance isTemplate kind symbol⟩
      have missed := List.find?_eq_none.mp found existing member
      rw [ofExisting] at missed
      exact missed (sameArguments_iff.mpr matching)

/-- Whoever is asked for an instance takes nothing back and turns no typedef to another type. -/
theorem keepsTypedefs_of_instanceOf? {kind : RequestKind} {symbol answer : SymbolId}
    {arguments : List TemplateArgument}
    (answers : before.instanceOf? kind symbol arguments = some (answer, after)) :
    before.KeepsTypedefs after := by
  rw [instanceOf?_eq] at answers
  exact .of_keepsSymbols (retains_of_templateInstance? answers)
    (keepsSymbols_of_templateInstance? answers)

/-- A request for an instance of a template, under one of its names, and the answer. -/
structure InstanceCall where
  kind : RequestKind
  symbol : SymbolId
  arguments : List TemplateArgument
  answer : SymbolId

/-- Whatever happens to a program, no typedef is turned to another type and a template gets no
instances. -/
structure PassesBy (templateType : TypeId) (before after : Program) : Prop
    extends before.KeepsTypedefs after where
  instances : ∀ data, before.type templateType = .templateType data →
    ∃ later, after.type templateType = .templateType later ∧ later.instances = data.instances

namespace PassesBy

theorem of_keepsTemplates (templates : before.KeepsTemplates after)
    (typedefs : before.KeepsTypedefs after) : PassesBy templateType before after where
  toKeepsTypedefs := typedefs
  instances data isTemplate := by
    obtain ⟨later, isLater, -⟩ := templates.templateType isTemplate
    cases isTemplate.symm.trans (templates.templates templateType later isLater)
    exact ⟨data, isLater, rfl⟩

theorem of_fillsIn (fills : before.FillsIn after) : PassesBy templateType before after :=
  .of_keepsTemplates fills.toKeepsTemplates fills.toKeepsTypedefs

theorem of_declareTemplate {context : DeclContext} {name : String}
    {declarations : List ParameterDeclaration} {kind : SymbolKind}
    {genericType : Specialization → Ty} {defined : Bool}
    (typedefs : program.KeepsTypedefs
      (program.declareTemplate context name declarations kind genericType defined).2) :
    PassesBy templateType program
      (program.declareTemplate context name declarations kind genericType defined).2 where
  toKeepsTypedefs := typedefs
  instances data isTemplate := by
    refine ⟨data, ?_, rfl⟩
    rw [type_declareTemplate_of_lt (index_lt_of_templateType isTemplate)]
    exact isTemplate

theorem of_declareClassSpecialization? {template symbol : SymbolId}
    {declarations : List ParameterDeclaration} {arguments : List TemplateArgument}
    {trees : InstantiationTrees} (typedefs : program.KeepsTypedefs after)
    (declares : program.declareClassSpecialization? template declarations arguments trees =
      some (symbol, after)) : PassesBy templateType program after where
  toKeepsTypedefs := typedefs
  instances data isTemplate := by
    obtain ⟨created, specialization, keeps, -, rfl⟩ :=
      exists_created_of_declareClassSpecialization? declares
    obtain ⟨later, isLater, -⟩ := keeps.templateType isTemplate
    cases isTemplate.symm.trans (keeps.templates templateType later isLater)
    rw [modifyTemplate, type_modifyType]
    split
    · exact ⟨{ data with specializations := data.specializations ++ [symbol] }, by rw [isLater],
        rfl⟩
    · exact ⟨data, isLater, rfl⟩

end PassesBy

/-- A request for an instance of another template passes by. -/
theorem requests_or_passesBy {kind : RequestKind} {symbol answer : SymbolId}
    {arguments : List TemplateArgument}
    (answers : before.instanceOf? kind symbol arguments = some (answer, after)) :
    (before.entry symbol).type = some templateType ∨ PassesBy templateType before after := by
  have typedefs := keepsTypedefs_of_instanceOf? answers
  obtain ⟨ofType, ofData, typed, isTemplate, ⟨rfl, -⟩ | ⟨parameters, adds⟩⟩ :=
    exists_template_of_instanceOf? answers
  · exact .inr ⟨typedefs, fun data isOther => ⟨data, isOther, rfl⟩⟩
  · by_cases same : ofType = templateType
    · exact .inl (same ▸ typed)
    · refine .inr ⟨typedefs, fun data isOther => ⟨data, ?_, rfl⟩⟩
      rw [adds.type templateType (index_lt_of_templateType isOther) (Ne.symm same)]
      exact isOther

/-- A declaration that turns no typedef to another type requests an instance of the template or
passes by. -/
theorem Declaration.requests_or_passesBy (declares : before.Declaration after)
    (typedefs : before.KeepsTypedefs after) :
    (∃ kind symbol arguments answer, (before.entry symbol).type = some templateType ∧
      before.instanceOf? kind symbol arguments = some (answer, after)) ∨
    PassesBy templateType before after := by
  rcases declares.keeps_or_changes with keeps | changes
  · exact .inr (.of_keepsTemplates keeps typedefs)
  · cases changes with
    | declares => exact .inr (.of_declareTemplate typedefs)
    | specializes declares => exact .inr (.of_declareClassSpecialization? typedefs declares)
    | @namesClass _ template symbol arguments names =>
        have answers : before.instanceOf? .classTemplate template arguments =
          some (symbol, after) := names
        exact (Program.requests_or_passesBy answers).imp_left fun typed =>
          ⟨.classTemplate, template, arguments, symbol, typed, answers⟩
    | @namesFunction _ template symbol arguments names =>
        have answers : before.instanceOf? .functionTemplate template arguments =
          some (symbol, after) := names
        exact (Program.requests_or_passesBy answers).imp_left fun typed =>
          ⟨.functionTemplate, template, arguments, symbol, typed, answers⟩

/-- The instances of a template are requested, and in between other things happen. -/
inductive Requests (templateType : TypeId) : List InstanceCall → Program → Program → Prop
  | start (program : Program) : Requests templateType [] program program
  | other {calls : List InstanceCall} {start before after : Program}
      (earlier : Requests templateType calls start before)
      (passes : PassesBy templateType before after) : Requests templateType calls start after
  | request {calls : List InstanceCall} {start before after : Program}
      (earlier : Requests templateType calls start before) (call : InstanceCall)
      (names : (before.entry call.symbol).type = some templateType)
      (grounded : ∀ argument ∈ call.arguments, before.IsGrounded argument)
      (answers : before.instanceOf? call.kind call.symbol call.arguments =
        some (call.answer, after)) :
      Requests templateType (calls ++ [call]) start after

theorem Requests.trans {earlier later : List InstanceCall} {first second third : Program}
    (requests : Requests templateType earlier first second)
    (more : Requests templateType later second third) :
    Requests templateType (earlier ++ later) first third := by
  induction more with
  | start => rwa [List.append_nil]
  | other _ passes ih => exact .other (ih requests) passes
  | request _ call names grounded answers ih =>
      rw [← List.append_assoc]
      exact .request (ih requests) call names grounded answers

/-- The arguments of two instances do not match. -/
def Differ (program : Program) (left right : SymbolId) : Prop :=
  ∀ ofLeft ofRight, program.argumentsOf? left = some ofLeft →
    program.argumentsOf? right = some ofRight → ¬program.MatchAll ofLeft ofRight

instance : Std.Symm program.Differ :=
  ⟨fun _ _ differ _ _ atRight atLeft matching => differ _ _ atLeft atRight matching.symm⟩

/-- A list of instances records the requests for them. -/
structure Records (program : Program) (templateType : TypeId)
    (parameters : List TemplateParameter) (calls : List InstanceCall)
    (instances : List SymbolId) : Prop where
  grounded : ∀ call ∈ calls, ∀ argument ∈ call.arguments, program.IsGrounded argument
  /-- Every instance has the arguments of a request that it was the answer to. -/
  requested : ∀ symbol ∈ instances, ∃ call ∈ calls, call.answer = symbol ∧
    program.Specializes symbol
      { template := templateType, parameters, arguments := call.arguments }
  /-- Every answer is an instance with matching arguments. -/
  answered : ∀ call ∈ calls, call.answer ∈ instances ∧
    ∃ own, program.argumentsOf? call.answer = some own ∧ program.MatchAll own call.arguments
  /-- No two instances have matching arguments. -/
  distinct : instances.Pairwise program.Differ

namespace Records

variable {parameters : List TemplateParameter} {calls : List InstanceCall}
  {instances : List SymbolId}

theorem exists_own (records : before.Records templateType parameters calls instances)
    {symbol : SymbolId} (member : symbol ∈ instances) :
    ∃ own, (∀ argument ∈ own, before.IsGrounded argument) ∧
      ∀ after, before.Retains after → after.argumentsOf? symbol = some own := by
  obtain ⟨call, isCall, -, specializes⟩ := records.requested symbol member
  exact ⟨call.arguments, records.grounded call isCall,
    fun after retains => (specializes.retained retains).argumentsOf?_eq⟩

/-- As long as typedefs stay, the list goes on to record the requests. -/
theorem kept (records : before.Records templateType parameters calls instances)
    (keeps : before.KeepsTypedefs after) :
    after.Records templateType parameters calls instances where
  grounded call isCall argument given :=
    (records.grounded call isCall argument given).kept keeps
  requested symbol member := by
    obtain ⟨call, isCall, isAnswer, specializes⟩ := records.requested symbol member
    exact ⟨call, isCall, isAnswer, specializes.retained keeps.toRetains⟩
  answered call isCall := by
    obtain ⟨member, own, ofAnswer, matching⟩ := records.answered call isCall
    obtain ⟨known, grounded, always⟩ := records.exists_own member
    cases ofAnswer.symm.trans (always before (.refl before))
    exact ⟨member, own, always after keeps.toRetains,
      (keeps.matchAll_iff grounded (records.grounded call isCall)).mpr matching⟩
  distinct := by
    refine records.distinct.imp_of_mem fun {left right} isLeft isRight differ => ?_
    intro ofLeft ofRight atLeft atRight matching
    obtain ⟨knownLeft, groundedLeft, alwaysLeft⟩ := records.exists_own isLeft
    obtain ⟨knownRight, groundedRight, alwaysRight⟩ := records.exists_own isRight
    cases atLeft.symm.trans (alwaysLeft after keeps.toRetains)
    cases atRight.symm.trans (alwaysRight after keeps.toRetains)
    exact differ ofLeft ofRight (alwaysLeft before (.refl before))
      (alwaysRight before (.refl before))
      ((keeps.matchAll_iff groundedLeft groundedRight).mp matching)

/-- Only one instance has given arguments. -/
theorem eq_of_matchAll (records : program.Records templateType parameters calls instances)
    {left right : SymbolId} (isLeft : left ∈ instances) (isRight : right ∈ instances)
    {ofLeft ofRight : List TemplateArgument} (atLeft : program.argumentsOf? left = some ofLeft)
    (atRight : program.argumentsOf? right = some ofRight)
    (matching : program.MatchAll ofLeft ofRight) : left = right := by
  by_contra different
  exact records.distinct.forall isLeft isRight different ofLeft ofRight atLeft atRight matching

/-- Two requests have got one instance exactly if their arguments match. -/
theorem answer_eq_iff (records : program.Records templateType parameters calls instances)
    {first second : InstanceCall} (isFirst : first ∈ calls) (isSecond : second ∈ calls) :
    first.answer = second.answer ↔ program.MatchAll first.arguments second.arguments := by
  obtain ⟨firstMember, ofFirst, atFirst, firstMatches⟩ := records.answered first isFirst
  obtain ⟨secondMember, ofSecond, atSecond, secondMatches⟩ := records.answered second isSecond
  constructor
  · intro same
    rw [same, atSecond, Option.some.injEq] at atFirst
    subst atFirst
    exact firstMatches.symm.trans secondMatches
  · intro matching
    exact records.eq_of_matchAll firstMember secondMember atFirst atSecond
      ((firstMatches.trans matching).trans secondMatches.symm)

/-- A request that finds an instance is recorded with it. -/
theorem found (records : program.Records templateType parameters calls instances)
    {call : InstanceCall} (grounded : ∀ argument ∈ call.arguments, program.IsGrounded argument)
    {own : List TemplateArgument} (member : call.answer ∈ instances)
    (ofAnswer : program.argumentsOf? call.answer = some own)
    (matching : program.MatchAll own call.arguments) :
    program.Records templateType parameters (calls ++ [call]) instances where
  grounded := by
    rw [List.forall_mem_append]
    exact ⟨records.grounded, List.forall_mem_singleton.mpr grounded⟩
  requested symbol isInstance := by
    obtain ⟨earlier, isCall, answer⟩ := records.requested symbol isInstance
    exact ⟨earlier, List.mem_append_left _ isCall, answer⟩
  answered := by
    rw [List.forall_mem_append]
    exact ⟨records.answered, List.forall_mem_singleton.mpr ⟨member, own, ofAnswer, matching⟩⟩
  distinct := records.distinct

/-- A request that no instance matches is recorded with the instance that it adds. -/
theorem added (records : program.Records templateType parameters calls instances)
    {call : InstanceCall} (grounded : ∀ argument ∈ call.arguments, program.IsGrounded argument)
    (specializes : program.Specializes call.answer
      { template := templateType, parameters, arguments := call.arguments })
    (isNew : ∀ existing ∈ instances, ∀ own, program.argumentsOf? existing = some own →
      ¬program.MatchAll own call.arguments) :
    program.Records templateType parameters (calls ++ [call]) (instances ++ [call.answer]) where
  grounded := by
    rw [List.forall_mem_append]
    exact ⟨records.grounded, List.forall_mem_singleton.mpr grounded⟩
  requested := by
    rw [List.forall_mem_append]
    refine ⟨fun symbol isInstance => ?_, List.forall_mem_singleton.mpr
      ⟨call, List.mem_append_right _ (List.mem_singleton_self call), rfl, specializes⟩⟩
    obtain ⟨earlier, isCall, answer⟩ := records.requested symbol isInstance
    exact ⟨earlier, List.mem_append_left _ isCall, answer⟩
  answered := by
    rw [List.forall_mem_append]
    refine ⟨fun earlier isCall => ?_, List.forall_mem_singleton.mpr
      ⟨List.mem_append_right _ (List.mem_singleton_self _), call.arguments,
        specializes.argumentsOf?_eq, .refl _⟩⟩
    obtain ⟨member, own⟩ := records.answered earlier isCall
    exact ⟨List.mem_append_left _ member, own⟩
  distinct := by
    refine List.pairwise_append.mpr ⟨records.distinct, List.pairwise_singleton _ _, ?_⟩
    intro existing member added isAdded own given ofExisting ofAdded
    cases List.mem_singleton.mp isAdded
    cases ofAdded.symm.trans specializes.argumentsOf?_eq
    exact isNew existing member own ofExisting

end Records

theorem AddsInstance.specializes {kind : RequestKind} {symbol added : SymbolId}
    {data : TemplateType} {specialization : Specialization}
    (adds : before.AddsInstance after kind symbol data specialization added) :
    after.Specializes added specialization := by
  refine ⟨⟨before.types.size⟩, by rw [adds.entry_new], ?_⟩
  rw [adds.type_new, RequestKind.specialization?_instanceType]

/-- A template whose instances record the requests for them. -/
structure Memoises (program : Program) (templateType : TypeId) (calls : List InstanceCall)
    (data : TemplateType) (parameters : List TemplateParameter) : Prop where
  isTemplate : program.type templateType = .templateType data
  primary : program.Specializes data.primary { template := templateType, parameters }
  records : program.Records templateType parameters calls data.instances

namespace Memoises

variable {parameters : List TemplateParameter} {calls : List InstanceCall} {data : TemplateType}

/-- A request with new arguments adds an instance for them.  Any other gets the answer that was
given before, and changes nothing. -/
theorem answers (memoises : program.Memoises templateType calls data parameters)
    {symbol : SymbolId} (names : (program.entry symbol).type = some templateType)
    (kind : RequestKind) (arguments : List TemplateArgument) :
    (∃ call ∈ calls, program.MatchAll call.arguments arguments ∧
      program.instanceOf? kind symbol arguments = some (call.answer, program)) ∨
    (∀ call ∈ calls, ¬program.MatchAll call.arguments arguments) ∧
      ∃ added after, program.instanceOf? kind symbol arguments = some (added, after) ∧
        program.AddsInstance after kind symbol data
          { template := templateType, parameters, arguments } added := by
  rcases instanceOf?_cases memoises.isTemplate memoises.primary names kind arguments with
    ⟨existing, member, own, ofExisting, matching, found⟩ | ⟨isNew, created⟩
  · left
    obtain ⟨call, isCall, rfl, specializes⟩ := memoises.records.requested existing member
    cases ofExisting.symm.trans specializes.argumentsOf?_eq
    exact ⟨call, isCall, matching, found⟩
  · refine .inr ⟨fun call isCall matching => ?_, created⟩
    obtain ⟨member, own, ofAnswer, ownMatches⟩ := memoises.records.answered call isCall
    exact isNew call.answer member own ofAnswer (ownMatches.trans matching)

theorem other (memoises : before.Memoises templateType calls data parameters)
    (passes : PassesBy templateType before after) :
    ∃ later, after.Memoises templateType calls later parameters := by
  obtain ⟨later, isTemplate, same⟩ := passes.instances data memoises.isTemplate
  obtain ⟨again, isAgain, -, samePrimary⟩ := passes.templateType memoises.isTemplate
  cases isAgain.symm.trans isTemplate
  refine ⟨later, isTemplate, ?_, ?_⟩
  · rw [samePrimary]
    exact memoises.primary.retained passes.toRetains
  · rw [same]
    exact memoises.records.kept passes.toKeepsTypedefs

theorem request (memoises : before.Memoises templateType calls data parameters)
    (call : InstanceCall) (names : (before.entry call.symbol).type = some templateType)
    (grounded : ∀ argument ∈ call.arguments, before.IsGrounded argument)
    (answers : before.instanceOf? call.kind call.symbol call.arguments =
      some (call.answer, after)) :
    ∃ later, after.Memoises templateType (calls ++ [call]) later parameters := by
  have keeps := keepsTypedefs_of_instanceOf? answers
  rcases instanceOf?_cases memoises.isTemplate memoises.primary names call.kind call.arguments with
    ⟨existing, member, own, ofExisting, matching, found⟩ | ⟨isNew, added, _, created, adds⟩
  · cases answers.symm.trans found
    exact ⟨data, memoises.isTemplate, memoises.primary,
      memoises.records.found grounded member ofExisting matching⟩
  · cases answers.symm.trans created
    refine ⟨_, adds.type_template, memoises.primary.retained keeps.toRetains,
      (memoises.records.kept keeps).added
        (fun argument given => (grounded argument given).kept keeps) adds.specializes ?_⟩
    intro existing member own ofExisting matching
    obtain ⟨known, isGrounded, always⟩ := memoises.records.exists_own member
    cases ofExisting.symm.trans (always after keeps.toRetains)
    exact isNew existing member own (always before (.refl before))
      ((keeps.matchAll_iff isGrounded grounded).mp matching)

theorem of_declareTemplate {program declared : Program} {context : DeclContext} {name : String}
    {declarations : List ParameterDeclaration} {kind : SymbolKind}
    {genericType : Specialization → Ty}
    (links : ∀ specialization, (genericType specialization).specialization? = some specialization)
    {defined : Bool} {template : SymbolId}
    (declares : program.declareTemplate context name declarations kind genericType defined =
      (template, declared)) (names : (declared.entry template).type = some templateType) :
    ∃ data parameters, declared.Memoises templateType [] data parameters := by
  obtain ⟨⟨⟨inner, parameters⟩, opened⟩, opens⟩ :
      ∃ opened, program.declareTemplateParameters context declarations = opened := ⟨_, rfl⟩
  obtain ⟨primary, atName, atPrimary, atTemplate, atGeneric, -, -⟩ :=
    declareTemplate_spec opens name kind genericType defined declares
  rw [atName, Option.some.injEq] at names
  subst names
  refine ⟨_, parameters, atTemplate, ⟨_, by rw [atPrimary], by rw [atGeneric, links]⟩, ?_⟩
  exact ⟨nofun, nofun, nofun, .nil⟩

end Memoises

/-- A class template or a function template has just been declared. -/
inductive DeclaresTemplate (program : Program) : SymbolId → Program → Prop
  | ofClass {context : DeclContext} {name : String} {declarations : List ParameterDeclaration}
      {trees : InstantiationTrees} {template : SymbolId} {declared : Program}
      (declares : program.declareClassTemplate context name declarations trees =
        (template, declared)) : program.DeclaresTemplate template declared
  | ofFunction {context : DeclContext} {name : String} {declarations : List ParameterDeclaration}
      {definition : Option NodeId} {template : SymbolId} {declared : Program}
      (declares : program.declareFunctionTemplate context name declarations definition =
        (template, declared)) : program.DeclaresTemplate template declared

theorem Requests.memoises {prior start program : Program} {template : SymbolId}
    {calls : List InstanceCall} (declares : prior.DeclaresTemplate template start)
    (names : (start.entry template).type = some templateType)
    (requests : Requests templateType calls start program) :
    ∃ data parameters, program.Memoises templateType calls data parameters := by
  induction requests with
  | start =>
      cases declares with
      | ofClass declares => exact Memoises.of_declareTemplate (fun _ => rfl) declares names
      | ofFunction declares => exact Memoises.of_declareTemplate (fun _ => rfl) declares names
  | other _ passes ih =>
      obtain ⟨data, parameters, memoises⟩ := ih declares names
      obtain ⟨later, memoisesLater⟩ := memoises.other passes
      exact ⟨later, parameters, memoisesLater⟩
  | request _ call named grounded answers ih =>
      obtain ⟨data, parameters, memoises⟩ := ih declares names
      obtain ⟨later, memoisesLater⟩ := memoises.request call named grounded answers
      exact ⟨later, parameters, memoisesLater⟩

/-- An instantiation is itself a sequence of requests, between which other things happen. -/
theorem Requests.exists_of_perform {σ : Type} {analyzer : Analyzer σ}
    (updates : analyzer.Updates fun before after =>
      ∃ calls, Requests templateType calls before after)
    (request : Request) (before : Compilation σ) :
    ∃ calls, Requests templateType calls before.session.program
      ((Activity.perform analyzer request).final before).session.program := by
  let reached (later : Program) : Prop :=
    ∃ calls, Requests templateType calls before.session.program later
  have filled : ∀ middle later, middle.FillsIn later → reached middle → reached later := by
    rintro middle later fills ⟨calls, requests⟩
    exact ⟨calls, requests.other (.of_fillsIn fills)⟩
  have changed : ∀ middle later, (∃ calls, Requests templateType calls middle later) →
      reached middle → reached later := by
    rintro middle later ⟨more, requestsMore⟩ ⟨calls, requests⟩
    exact ⟨calls ++ more, requests.trans requestsMore⟩
  have started : reached before.session.program := ⟨[], .start _⟩
  exact Activity.holds_of_perform filled updates changed request before started

/-- However requests for the instances of a declared template alternate with other things, two of
them get one instance exactly if their arguments match.  The instances are the answers that have
been given, and no two of them have matching arguments.  A further request has the answer of any
that it matches and changes nothing.  If it matches none, then it adds one symbol and one type,
those of a new instance with the parameters of the template.

The other things are all declarations that turn no typedef to another type.  An instantiation in
between goes on with the sequence. -/
theorem instances_memoised {prior start program : Program} {template : SymbolId}
    {templateType : TypeId} {calls : List InstanceCall}
    (declares : prior.DeclaresTemplate template start)
    (named : (start.entry template).type = some templateType)
    (requests : Requests templateType calls start program) :
    (∀ first ∈ calls, ∀ second ∈ calls,
      first.answer = second.answer ↔ program.MatchAll first.arguments second.arguments) ∧
    (∃ data parameters, program.type templateType = .templateType data ∧
      program.primaryParameters? data = some parameters ∧
      (∀ symbol, symbol ∈ data.instances ↔ ∃ call ∈ calls, call.answer = symbol) ∧
      data.instances.Pairwise program.Differ ∧
      ∀ symbol kind arguments, (program.entry symbol).type = some templateType →
        ∃ answer after, program.instanceOf? kind symbol arguments = some (answer, after) ∧
          (∀ call ∈ calls, program.MatchAll call.arguments arguments →
            answer = call.answer ∧ after = program) ∧
          ((∀ call ∈ calls, ¬program.MatchAll call.arguments arguments) →
            program.AddsInstance after kind symbol data
              { template := templateType, parameters, arguments } answer)) ∧
    (∀ after, program.Declaration after → program.KeepsTypedefs after →
      (∃ kind symbol arguments answer, (program.entry symbol).type = some templateType ∧
        program.instanceOf? kind symbol arguments = some (answer, after)) ∨
      Requests templateType calls start after) ∧
    ∀ {σ : Type} {analyzer : Analyzer σ} (_ : analyzer.Updates fun before after =>
        ∃ calls, Requests templateType calls before after)
      (request : Request) (before : Compilation σ), before.session.program = program →
        ∃ more, Requests templateType (calls ++ more) start
          ((Activity.perform analyzer request).final before).session.program := by
  obtain ⟨data, parameters, memoises⟩ := requests.memoises declares named
  have records := memoises.records
  refine ⟨fun first isFirst second isSecond => records.answer_eq_iff isFirst isSecond,
    ⟨data, parameters, memoises.isTemplate, memoises.primary.primaryParameters?_eq, ?instances,
      records.distinct, ?further⟩, ?others, ?instantiations⟩
  case instances =>
    intro symbol
    constructor
    · intro member
      obtain ⟨call, isCall, isAnswer, -⟩ := records.requested symbol member
      exact ⟨call, isCall, isAnswer⟩
    · rintro ⟨call, isCall, rfl⟩
      exact (records.answered call isCall).1
  -- A further request either matches an answered call or adds an instance, not both.
  case further =>
    intro symbol kind arguments names
    rcases memoises.answers names kind arguments with
      ⟨call, isCall, matching, found⟩ | ⟨isNew, added, after, created, adds⟩
    · refine ⟨call.answer, program, found, fun other isOther matchingOther => ⟨?_, rfl⟩,
        fun isNew => absurd matching (isNew call isCall)⟩
      exact (records.answer_eq_iff isCall isOther).mpr (matching.trans matchingOther.symm)
    · exact ⟨added, after, created, fun call isCall matching =>
        absurd matching (isNew call isCall), fun _ => adds⟩
  case others =>
    intro after declares typedefs
    exact (declares.requests_or_passesBy typedefs).imp_right requests.other
  case instantiations =>
    rintro σ analyzer updates request before rfl
    obtain ⟨more, requestsMore⟩ := Requests.exists_of_perform updates request before
    exact ⟨more, requests.trans requestsMore⟩

end Program

namespace Sample

def typedefOfInt : TypeId × Program := classTemplate.2.newTypedef int

def forInt : SymbolId × Program :=
  (typedefOfInt.2.classInstance? classTemplate.1 [.type int]).getD default

def forTypedef : SymbolId × Program :=
  (forInt.2.classInstance? classTemplate.1 [.type typedefOfInt.1]).getD default

def forChar : SymbolId × Program :=
  (forTypedef.2.classInstance? classTemplate.1 [.type char.1]).getD default

def callFor (argument : TypeId) (answer : SymbolId) : Program.InstanceCall where
  kind := .classTemplate
  symbol := classTemplate.1
  arguments := [.type argument]
  answer

def calls : List Program.InstanceCall :=
  [callFor int forInt.1, callFor typedefOfInt.1 forTypedef.1, callFor char.1 forChar.1]

theorem builtin_is_grounded {program : Program} {type : TypeId} {known : BuiltinType}
    (bound : type.index < program.types.size) (atType : program.type type = .builtin known) :
    program.IsGrounded (.type type) := by
  refine ⟨type, .here bound (fun symbol isName => ?_) ?_⟩
  · rw [atType] at isName
    cases isName
  · rw [Program.aliased?, atType]

theorem class_requests : Program.Requests ⟨2⟩ calls classTemplate.2 forChar.2 := by
  have intGrounded : typedefOfInt.2.IsGrounded (.type int) :=
    builtin_is_grounded (by decide) (show typedefOfInt.2.type int = .builtin .int from rfl)
  have typedefGrounded : forInt.2.IsGrounded (.type typedefOfInt.1) := by
    obtain ⟨target, strips⟩ : forInt.2.IsGrounded (.type int) :=
      builtin_is_grounded (by decide) (show forInt.2.type int = .builtin .int from rfl)
    exact ⟨target, .step rfl strips⟩
  have charGrounded : forTypedef.2.IsGrounded (.type char.1) :=
    builtin_is_grounded (by decide) (show forTypedef.2.type char.1 = .builtin .char from rfl)
  have typed : Program.Requests ⟨2⟩ [] classTemplate.2 typedefOfInt.2 :=
    (Program.Requests.start _).other (.of_fillsIn (.newTypedef _ int))
  have withInt := typed.request (callFor int forInt.1) rfl
    (List.forall_mem_singleton.mpr intGrounded) rfl
  have withTypedef := withInt.request (callFor typedefOfInt.1 forTypedef.1) rfl
    (List.forall_mem_singleton.mpr typedefGrounded) rfl
  exact withTypedef.request (callFor char.1 forChar.1) rfl
    (List.forall_mem_singleton.mpr charGrounded) rfl

/-- `A<int>` and a typedef of `int` as the argument name one instance, `A<char>` names another. -/
theorem typedef_names_same_instance :
    Program.Requests ⟨2⟩ calls classTemplate.2 forChar.2 ∧
    forTypedef.1 = forInt.1 ∧ forChar.1 ≠ forInt.1 := by
  have declares : char.2.DeclaresTemplate classTemplate.1 classTemplate.2 :=
    .ofClass (show char.2.declareClassTemplate ScopeTree.globalContext "A" [.type "T"]
      { members := some ⟨0⟩ } = (classTemplate.1, classTemplate.2) from rfl)
  obtain ⟨same, -⟩ := Program.instances_memoised declares rfl class_requests
  have ofTypedef := same (callFor typedefOfInt.1 forTypedef.1) (by simp [calls])
    (callFor int forInt.1) (by simp [calls])
  have ofChar := same (callFor char.1 forChar.1) (by simp [calls])
    (callFor int forInt.1) (by simp [calls])
  refine ⟨class_requests, ofTypedef.mpr ?_, fun equal => ?_⟩
  · exact Program.sameArguments_iff.mp (by decide)
  · have matching := Program.sameArguments_iff.mpr (ofChar.mp equal)
    revert matching
    decide

end Sample

end CppTemplates
