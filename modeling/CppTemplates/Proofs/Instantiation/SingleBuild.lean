import Mathlib
import CppTemplates.Proofs.Instantiation.ArgumentBinding
import CppTemplates.Proofs.Instantiation.Contracts
import CppTemplates.Proofs.Instantiation.Watching

/-!
# Building a class once

The completeness of a class is what stops a second request for it, but it is set only after the
bases are recorded.  Up to then nothing stops a callback from having the class instantiated once
more.  If no instantiation of a class is overtaken in this way, the members of the class are built
at most once in a whole run, whatever the callbacks request, and the context that is recorded for
the class is the one that received them.
-/

namespace CppTemplates

variable {σ α : Type}

/-- What an action changes by itself takes no names away and no completed class back. -/
def Action.Respects : Action σ α → Prop
  | .done _ => True
  | .update change next =>
      (∀ compilation type, Program.Sustains type compilation.session.program
        (change compilation).session.program) ∧ next.Respects
  | .inspect next => ∀ compilation, (next compilation).Respects
  | .instantiate _ next => ∀ outcome, (next outcome).Respects
  | .withSwitch _ work next => work.Respects ∧ ∀ outcome, (next outcome).Respects

/-- An analyzer whose callbacks take no names away and no completed class back. -/
structure Analyzer.Respects (analyzer : Analyzer σ) : Prop where
  solveClassTemplate : ∀ context template requested location,
    (analyzer.solveClassTemplate context template requested location).Respects
  buildBaseClause : ∀ clause type context, (analyzer.buildBaseClause clause type context).Respects
  buildMembers : ∀ members type context, (analyzer.buildMembers members type context).Respects
  buildFunction : ∀ definition context, (analyzer.buildFunction definition context).Respects
  finishClass : ∀ type context location, (analyzer.finishClass type context location).Respects

theorem Analyzer.idle_respects (σ : Type) : (Analyzer.idle σ).Respects where
  solveClassTemplate _ _ _ _ _ := trivial
  buildBaseClause _ _ _ := trivial
  buildMembers _ _ _ := trivial
  buildFunction _ _ := trivial
  finishClass _ _ _ := trivial

/-- The context in which the members of a class with an inner context are built. -/
def DeclContext.forMembers (inner : DeclContext) : DeclContext :=
  { inner with flags := { inner.flags with instantiating := true } }

/-- The contexts in which completing a class builds its members: one if it has a member list. -/
def DeclContext.memberContexts (inner : DeclContext) (list : Option NodeId) : List DeclContext :=
  list.toList.map fun _ => inner.forMembers

namespace Answer

/-- The answered request was for a class symbol and its type. -/
def IsFor (answer : Answer) (entry : SymbolId) (type : TypeId) : Prop :=
  answer.asked.resolveClassEntry answer.request.entry = .ok entry ∧
    ∃ template, answer.asked.eligibleClass? entry = some (type, template)

/-- The context recorded for the class is the one whose scope received the members, if any were
built, and the name of the class. -/
def Stands (answer : Answer) (entry : SymbolId) (type : TypeId) : Prop :=
  ∃ inner, answer.answered.program.innerContext? type = some inner ∧
    (∀ context ∈ contextsOf answer.built type, context = inner.forMembers) ∧
      answer.answered.program.NamesInside entry inner.currentScope

theorem IsFor.unique {answer : Answer} {entry other : SymbolId} {type otherType : TypeId}
    (isFor : answer.IsFor entry type) (isForOther : answer.IsFor other otherType) :
    other = entry ∧ otherType = type := by
  obtain ⟨resolves, template, eligible⟩ := isFor
  obtain ⟨resolvesOther, otherTemplate, eligibleOther⟩ := isForOther
  rw [resolves, Except.ok.injEq] at resolvesOther
  subst resolvesOther
  rw [eligible, Option.some.injEq, Prod.mk.injEq] at eligibleOther
  exact ⟨rfl, eligibleOther.1.symm⟩

end Answer

namespace Compilation

variable {type : TypeId} {before middle after : Compilation (σ × BuildLog)}

/-- So far the members of a class were built at most once, and then the class is settled.  The
answers to requests for it stand. -/
structure IsSound (type : TypeId) (compilation : Compilation (σ × BuildLog)) : Prop where
  once : (contextsOf compilation.log.built type).length ≤ 1
  built : contextsOf compilation.log.built type ≠ [] → compilation.session.program.IsSettled type
  answered : ∀ answer ∈ compilation.log.answers, ∀ entry, answer.IsFor entry type →
    answer.Stands entry type

/-- What holds between any two moments of a run, whatever happens to a class. -/
structure Proceeds (type : TypeId) (before after : Compilation (σ × BuildLog)) : Prop where
  names : before.session.program.KeepsNames after.session.program
  isClass : before.session.program.IsClass type → after.session.program.IsClass type
  overtaken : type ∈ before.log.overtaken → type ∈ after.log.overtaken
  answers : ∀ answer ∈ after.log.answers, answer ∈ before.log.answers ∨
    ∃ entry requested, answer.IsFor entry requested

/-- What holds between the beginning and the end of whatever is done as a whole.  A settled class
is not touched, and what was sound stays so unless an instantiation is overtaken. -/
structure Advances (type : TypeId) (before after : Compilation (σ × BuildLog)) : Prop
    extends Proceeds type before after where
  settled : before.session.program.IsSettled type →
    after.session.program.IsSettled type ∧
      after.session.program.innerContext? type = before.session.program.innerContext? type ∧
        contextsOf after.log.built type = contextsOf before.log.built type
  sound : type ∉ after.log.overtaken → before.IsSound type → after.IsSound type

namespace Proceeds

theorem trans (earlier : before.Proceeds type middle) (later : middle.Proceeds type after) :
    before.Proceeds type after where
  names := earlier.names.trans later.names
  isClass := fun isClass => later.isClass (earlier.isClass isClass)
  overtaken := fun member => later.overtaken (earlier.overtaken member)
  answers := by
    intro answer member
    rcases later.answers answer member with old | isFor
    · exact earlier.answers answer old
    · exact .inr isFor

theorem of_names (sameLog : after.log = before.log)
    (names : before.session.program.KeepsNames after.session.program)
    (isClass : before.session.program.IsClass type → after.session.program.IsClass type) :
    before.Proceeds type after where
  names := names
  isClass := isClass
  overtaken := by
    rw [sameLog]
    exact id
  answers := by
    rw [sameLog]
    exact fun _ member => .inl member

end Proceeds

/-- Soundness depends on what was built and answered and on whether the class is settled. -/
theorem IsSound.of_same (sound : before.IsSound type)
    (sameContexts : contextsOf after.log.built type = contextsOf before.log.built type)
    (sameAnswers : after.log.answers = before.log.answers)
    (staysSettled : before.session.program.IsSettled type →
      after.session.program.IsSettled type) : after.IsSound type where
  once := by
    rw [sameContexts]
    exact sound.once
  built := by
    rw [sameContexts]
    exact fun isBuilt => staysSettled (sound.built isBuilt)
  answered := by
    rw [sameAnswers]
    exact sound.answered

namespace Advances

theorem trans (earlier : before.Advances type middle) (later : middle.Advances type after) :
    before.Advances type after where
  toProceeds := earlier.toProceeds.trans later.toProceeds
  settled := by
    intro settled
    obtain ⟨settledMiddle, sameInner, sameContexts⟩ := earlier.settled settled
    obtain ⟨settledAfter, sameInnerLater, sameContextsLater⟩ := later.settled settledMiddle
    exact ⟨settledAfter, sameInnerLater.trans sameInner, sameContextsLater.trans sameContexts⟩
  sound := by
    intro notOvertaken sound
    apply later.sound notOvertaken
    exact earlier.sound (fun member => notOvertaken (later.overtaken member)) sound

theorem of_noted (sustains : Program.Sustains type before.session.program after.session.program)
    (sameContexts : contextsOf after.log.built type = contextsOf before.log.built type)
    (sameAnswers : after.log.answers = before.log.answers)
    (overtaken : type ∈ before.log.overtaken → type ∈ after.log.overtaken) :
    before.Advances type after where
  names := sustains.toKeepsNames
  isClass := sustains.isClass
  overtaken := overtaken
  answers := by
    rw [sameAnswers]
    exact fun _ member => .inl member
  settled := by
    intro settled
    obtain ⟨stays, sameInner⟩ := sustains.isSettled settled
    exact ⟨stays, sameInner, sameContexts⟩
  sound := by
    intro _ sound
    apply sound.of_same sameContexts sameAnswers
    exact fun settled => (sustains.isSettled settled).1

theorem of_sustains (sameLog : after.log = before.log)
    (sustains : Program.Sustains type before.session.program after.session.program) :
    before.Advances type after := by
  apply of_noted sustains
  · rw [sameLog]
  · rw [sameLog]
  · rw [sameLog]
    exact id

theorem of_noteMembers {other : TypeId} {contexts : List DeclContext} (different : type ≠ other)
    (sameLog : after.log = before.log.noteMembers other contexts)
    (sustains : Program.Sustains type before.session.program after.session.program) :
    before.Advances type after := by
  apply of_noted sustains
  · rw [sameLog, BuildLog.contextsOf_noteMembers, if_neg different.symm, List.append_nil]
  · rw [sameLog]
    rfl
  · rw [sameLog]
    exact id

theorem of_quiet (quiet : before.Quiet after) : before.Advances type after :=
  of_sustains (congrArg Prod.snd quiet.analyzerState) (quiet.leaves type).sustains

theorem refl (compilation : Compilation (σ × BuildLog)) : compilation.Advances type compilation :=
  of_quiet (Quiet.refl compilation)

theorem of_unsettled (unsettled : ¬ before.session.program.IsSettled type)
    (proceeds : before.Proceeds type after)
    (sound : type ∉ after.log.overtaken → before.IsSound type → after.IsSound type) :
    before.Advances type after where
  toProceeds := proceeds
  settled := fun settled => absurd settled unsettled
  sound := sound

theorem of_noteSolution (compilation : Compilation (σ × BuildLog)) (ofType : Option TypeId)
    (outcome : Except InstantiationError (Option Solution)) :
    compilation.Advances type
      (compilation.note fun log => log.noteSolution ofType outcome) := by
  obtain ⟨sameBuilt, sameAnswers, overtaken⟩ :=
    BuildLog.noteSolution_same compilation.log type ofType outcome compilation.session
  apply of_noted
  · exact Program.Sustains.refl _
  · exact congrArg (contextsOf · type) sameBuilt
  · exact sameAnswers
  · exact overtaken

theorem of_noteBases (compilation : Compilation (σ × BuildLog)) (ofType : TypeId)
    (context : DeclContext) (outcome : Except InstantiationError Unit) :
    compilation.Advances type
      (compilation.note fun log => log.noteBases ofType context outcome) := by
  obtain ⟨sameBuilt, sameAnswers, overtaken⟩ :=
    BuildLog.noteBases_same compilation.log type ofType context outcome compilation.session
  apply of_noted
  · exact Program.Sustains.refl _
  · exact congrArg (contextsOf · type) sameBuilt
  · exact sameAnswers
  · exact overtaken

end Advances

/-- A class that is being instantiated, before its context is opened. -/
structure IsUnopened (type : TypeId) (before after : Compilation (σ × BuildLog)) : Prop where
  proceeds : before.Proceeds type after
  isClass : after.session.program.IsClass type
  sound : type ∉ after.log.overtaken → before.IsSound type →
    after.IsSound type ∧ contextsOf after.log.built type = []

/-- A class that is being instantiated, while its context is open. -/
structure IsOpened (type : TypeId) (before : Compilation (σ × BuildLog)) (inner : DeclContext)
    (after : Compilation (σ × BuildLog)) : Prop extends IsUnopened type before after where
  inTree : inner.currentScope.index < after.session.program.scopes.scopes.size
  recorded : type ∉ after.log.overtaken →
    after.session.program.innerContext? type = some inner

/-- A class that is being instantiated, from its completion on. -/
structure IsCompleted (type : TypeId) (entry : SymbolId) (before : Compilation (σ × BuildLog))
    (inner : DeclContext) (after : Compilation (σ × BuildLog)) : Prop where
  proceeds : before.Proceeds type after
  settled : after.session.program.IsSettled type
  names : after.session.program.NamesInside entry inner.currentScope
  sound : type ∉ after.log.overtaken → before.IsSound type →
    after.IsSound type ∧ after.session.program.innerContext? type = some inner ∧
      ∀ context ∈ contextsOf after.log.built type, context = inner.forMembers

section Stages

variable {later : Compilation (σ × BuildLog)} {inner : DeclContext} {entry : SymbolId}

theorem IsUnopened.quiet (unopened : IsUnopened type before after) (quiet : after.Quiet later) :
    IsUnopened type before later := by
  have advances : after.Advances type later := .of_quiet quiet
  have sameLog : later.log = after.log := congrArg Prod.snd quiet.analyzerState
  refine ⟨unopened.proceeds.trans advances.toProceeds, advances.isClass unopened.isClass, ?_⟩
  intro notOvertaken sound
  obtain ⟨soundAfter, unbuilt⟩ :=
    unopened.sound (fun member => notOvertaken (advances.overtaken member)) sound
  rw [sameLog]
  exact ⟨advances.sound notOvertaken soundAfter, unbuilt⟩

theorem IsOpened.quiet (opened : IsOpened type before inner after) (quiet : after.Quiet later) :
    IsOpened type before inner later := by
  have advances : after.Advances type later := .of_quiet quiet
  have sameInner := (quiet.leaves type).innerContext?_eq opened.isClass
  refine ⟨opened.toIsUnopened.quiet quiet, ?_, ?_⟩
  · exact Nat.lt_of_lt_of_le opened.inTree (quiet.leaves type).lists.size_le
  · intro notOvertaken
    rw [sameInner]
    exact opened.recorded fun member => notOvertaken (advances.overtaken member)

theorem Advances.isUnopened (advances : before.Advances type middle)
    (isClass : before.session.program.IsClass type) (solution : Solution) :
    before.IsUnopened type
      (middle.note fun log => log.noteSolution (some type) (.ok (some solution))) := by
  have total := advances.trans (.of_noteSolution middle (some type) (.ok (some solution)))
  obtain ⟨sameBuilt, _, _⟩ := BuildLog.noteSolution_same middle.log type (some type)
    (.ok (some solution)) middle.session
  refine ⟨total.toProceeds, total.isClass isClass, fun notOvertaken sound => ?_⟩
  have notNoted : type ∉
      (middle.log.noteSolution (some type) (.ok (some solution)) middle.session).overtaken :=
    notOvertaken
  exact ⟨total.sound notOvertaken sound, (congrArg (contextsOf · type) sameBuilt).trans
    (BuildLog.unbuilt_of_noteSolution notNoted)⟩

/-- Once its bases are recorded, a class that was not overtaken still has not been built. -/
theorem IsOpened.based (opened : IsOpened type before inner after)
    (advances : after.Advances type middle) :
    IsOpened type before inner
      (middle.note fun log => log.noteBases type inner (.ok ())) := by
  have total := advances.trans (.of_noteBases middle type inner (.ok ()))
  obtain ⟨sameBuilt, _, _⟩ :=
    BuildLog.noteBases_same middle.log type type inner (.ok ()) middle.session
  refine ⟨⟨opened.proceeds.trans total.toProceeds, total.isClass opened.isClass, ?_⟩,
    Nat.lt_of_lt_of_le opened.inTree total.names.lists.size_le,
    fun notOvertaken => (BuildLog.unbuilt_of_noteBases notOvertaken).2⟩
  intro notOvertaken sound
  have notBefore : type ∉ after.log.overtaken :=
    fun member => notOvertaken (total.overtaken member)
  exact ⟨total.sound notOvertaken (opened.sound notBefore sound).1,
    (congrArg (contextsOf · type) sameBuilt).trans (BuildLog.unbuilt_of_noteBases notOvertaken).1⟩

theorem IsUnopened.advances (unopened : IsUnopened type before after)
    (unsettled : ¬ before.session.program.IsSettled type) (further : after.Advances type later) :
    before.Advances type later := by
  apply Advances.of_unsettled unsettled (unopened.proceeds.trans further.toProceeds)
  intro notOvertaken sound
  apply further.sound notOvertaken
  exact (unopened.sound (fun member => notOvertaken (further.overtaken member)) sound).1

theorem IsCompleted.advances (completed : IsCompleted type entry before inner after)
    (unsettled : ¬ before.session.program.IsSettled type) : before.Advances type after := by
  apply Advances.of_unsettled unsettled completed.proceeds
  exact fun notOvertaken sound => (completed.sound notOvertaken sound).1

theorem IsCompleted.of_advances (advances : before.Advances type middle)
    (completed : IsCompleted type entry middle inner after) :
    IsCompleted type entry before inner after := by
  refine ⟨advances.toProceeds.trans completed.proceeds, completed.settled, completed.names, ?_⟩
  intro notOvertaken sound
  apply completed.sound notOvertaken
  exact advances.sound (fun member => notOvertaken (completed.proceeds.overtaken member)) sound

theorem IsCompleted.advance (completed : IsCompleted type entry before inner after)
    (advances : after.Advances type later) : IsCompleted type entry before inner later := by
  obtain ⟨settled, sameInner, sameContexts⟩ := advances.settled completed.settled
  refine ⟨completed.proceeds.trans advances.toProceeds, settled,
    advances.names.namesInside completed.names, ?_⟩
  intro notOvertaken sound
  obtain ⟨soundAfter, recorded, received⟩ :=
    completed.sound (fun member => notOvertaken (advances.overtaken member)) sound
  rw [sameInner, sameContexts]
  exact ⟨advances.sound notOvertaken soundAfter, recorded, received⟩

theorem IsUnopened.open (unopened : IsUnopened type before after) (entry : SymbolId) :
    IsOpened type before (after.session.program.openInstance entry type).1.2
      (after.withProgram (after.session.program.openInstance entry type).2) := by
  obtain ⟨data, isClass⟩ := unopened.isClass
  obtain ⟨names, _, opened, inTree⟩ := Program.openInstance_spec entry isClass
  have isClassLater : (after.session.program.openInstance entry type).2.IsClass type := ⟨_, opened⟩
  refine ⟨⟨unopened.proceeds.trans (.of_names rfl names fun _ => isClassLater), isClassLater, ?_⟩,
    inTree, fun _ => Program.innerContext?_eq opened⟩
  intro notOvertaken sound
  obtain ⟨soundAfter, unbuilt⟩ := unopened.sound notOvertaken sound
  exact ⟨⟨soundAfter.once, fun isBuilt => absurd unbuilt isBuilt, soundAfter.answered⟩, unbuilt⟩

theorem IsOpened.complete (opened : IsOpened type before inner after) (entry : SymbolId)
    (sameProgram : later.session.program =
      after.session.program.completeInstance entry type inner)
    {list : Option NodeId}
    (sameLog : later.log = after.log.noteMembers type (inner.memberContexts list)) :
    IsCompleted type entry before inner later := by
  obtain ⟨data, isClass⟩ := opened.isClass
  obtain ⟨names, _, completed, inside⟩ :=
    Program.completeInstance_completes entry isClass inner
  rw [← sameProgram] at names completed inside
  have settled : later.session.program.IsSettled type := ⟨_, completed, by simp⟩
  have sameInner : later.session.program.innerContext? type =
      after.session.program.innerContext? type := by
    rw [Program.innerContext?_eq isClass, Program.innerContext?_eq completed]
  have sameAnswers : later.log.answers = after.log.answers := by
    rw [sameLog]
    rfl
  have sameOvertaken : later.log.overtaken = after.log.overtaken := by
    rw [sameLog]
    rfl
  have contexts : contextsOf after.log.built type = [] →
      contextsOf later.log.built type = inner.memberContexts list := by
    intro unbuilt
    rw [sameLog, BuildLog.contextsOf_noteMembers, unbuilt, if_pos rfl, List.nil_append]
  have proceeds : after.Proceeds type later := by
    refine ⟨names, fun _ => ⟨_, completed⟩, ?_, ?_⟩
    · rw [sameOvertaken]
      exact id
    · rw [sameAnswers]
      exact fun _ member => .inl member
  refine ⟨opened.proceeds.trans proceeds, settled, inside opened.inTree, ?_⟩
  rw [sameOvertaken]
  intro notOvertaken sound
  obtain ⟨soundAfter, unbuilt⟩ := opened.sound notOvertaken sound
  refine ⟨⟨?_, fun _ => settled, ?_⟩, sameInner.trans (opened.recorded notOvertaken), ?_⟩
  · rw [contexts unbuilt]
    cases list with
    | none => simp [DeclContext.memberContexts]
    | some members => simp [DeclContext.memberContexts]
  · rw [sameAnswers]
    exact soundAfter.answered
  · intro context member
    rw [contexts unbuilt] at member
    obtain ⟨_, _, rfl⟩ := List.mem_map.mp member
    rfl

/-- Nobody has built the members of a class whose bases are recorded, and the context on record is
the one that was opened for it. -/
def IsUntouched (type : TypeId) (prepared : PreparedClass)
    (based : Compilation (σ × BuildLog)) : Prop :=
  contextsOf based.log.built type = [] ∧
    based.session.program.innerContext? type = some prepared.inner

/-- The members of a class were built by one instantiation only, and the context on record is the
one whose scope received them and the name of the class. -/
structure IsBuiltOnce (type : TypeId) (entry : SymbolId) (prepared : PreparedClass)
    (after : Compilation (σ × BuildLog)) : Prop where
  built : contextsOf after.log.built type = prepared.inner.memberContexts prepared.members
  recorded : after.session.program.innerContext? type = some prepared.inner
  named : after.session.program.NamesInside entry prepared.inner.currentScope

/-- A class was completed after its bases had been recorded. -/
structure IsCompletion (type : TypeId) (entry : SymbolId) (prepared : PreparedClass)
    (based after : Compilation (σ × BuildLog)) : Prop where
  settled : after.session.program.IsSettled type
  named : after.session.program.NamesInside entry prepared.inner.currentScope
  recorded : after.session.program.innerContext? type =
    based.session.program.innerContext? type
  built : contextsOf after.log.built type =
    contextsOf based.log.built type ++ prepared.inner.memberContexts prepared.members

theorem isCompletion {prepared : PreparedClass}
    (isClass : after.session.program.IsClass type)
    (inTree : prepared.inner.currentScope.index < after.session.program.scopes.scopes.size)
    (sameProgram : later.session.program =
      after.session.program.completeInstance entry type prepared.inner)
    (sameLog : later.log =
      after.log.noteMembers type (prepared.inner.memberContexts prepared.members)) :
    after.IsCompletion type entry prepared later := by
  obtain ⟨data, isClass⟩ := isClass
  obtain ⟨_, _, completed, inside⟩ :=
    Program.completeInstance_completes entry isClass prepared.inner
  rw [← sameProgram] at completed inside
  refine ⟨⟨_, completed, by simp⟩, inside inTree, ?_, ?_⟩
  · rw [Program.innerContext?_eq isClass, Program.innerContext?_eq completed]
  · rw [sameLog, BuildLog.contextsOf_noteMembers, if_pos rfl]

theorem IsCompletion.advance {prepared : PreparedClass}
    (completion : before.IsCompletion type entry prepared after)
    (advances : after.Advances type later) :
    before.IsCompletion type entry prepared later := by
  obtain ⟨settled, sameInner, sameContexts⟩ := advances.settled completion.settled
  exact ⟨settled, advances.names.namesInside completion.named, sameInner.trans completion.recorded,
    sameContexts.trans completion.built⟩

theorem IsCompletion.isBuiltOnce_iff {prepared : PreparedClass}
    (completion : before.IsCompletion type entry prepared after) :
    after.IsBuiltOnce type entry prepared ↔ before.IsUntouched type prepared := by
  constructor
  · intro isBuilt
    have both := completion.built.symm.trans isBuilt.built
    exact ⟨List.append_left_eq_self.mp both, completion.recorded.symm.trans isBuilt.recorded⟩
  · rintro ⟨unbuilt, recorded⟩
    refine ⟨?_, completion.recorded.trans recorded, completion.named⟩
    rw [completion.built, unbuilt, List.nil_append]

end Stages

end Compilation

namespace Activity

variable {request : Request} {before after : Compilation (σ × BuildLog)}

/-- A request for a class that was carried out was for an incomplete class, and the answer stands
unless the class was overtaken. -/
def Fulfils (request : Request) (before after : Compilation (σ × BuildLog)) : Prop :=
  request.kind = .classTemplate →
    ∃ entry type,
      Answer.IsFor ⟨request, before.session, after.session, after.log.built⟩ entry type ∧
        (type ∉ after.log.overtaken → before.IsSound type →
          Answer.Stands ⟨request, before.session, after.session, after.log.built⟩ entry type)

/-- Requests are carried out without disturbing any class. -/
def Performs (perform : Request → Activity (σ × BuildLog) Unit) : Prop :=
  ∀ request before, (perform request).Reaches before
    (fun _ after => (∀ type, before.Advances type after) ∧ Fulfils request before after)
    fun after => ∀ type, before.Advances type after

/-- Noting the answer to a request advances every class, like the request itself. -/
theorem advances_answered {outcome : Except InstantiationError Unit}
    (advances : ∀ type, before.Advances type after)
    (fulfils : outcome = .ok () → Fulfils request before after) (type : TypeId) :
    before.Advances type
      (after.note fun log => log.noteAnswer request before.session outcome) := by
  -- Only an answered request for a class is noted.
  by_cases isAnswer : request.kind = .classTemplate ∧ outcome = .ok ()
  · obtain ⟨isClass, rfl⟩ := isAnswer
    obtain ⟨entry, requested, isFor, stands⟩ := fulfils rfl isClass
    have answered : (after.note fun log => log.noteAnswer request before.session (.ok ())).log =
        { after.log with
          answers := after.log.answers ++
            [⟨request, before.session, after.session, after.log.built⟩] } := by
      unfold BuildLog.noteAnswer
      rw [isClass]
      rfl
    refine ⟨⟨(advances type).names, (advances type).isClass, ?_, ?_⟩, ?_, ?_⟩
    · rw [answered]
      exact (advances type).overtaken
    · rw [answered]
      intro answer member
      rcases List.mem_append.mp member with old | new
      · exact (advances type).answers answer old
      · rw [List.mem_singleton] at new
        subst new
        exact .inr ⟨entry, requested, isFor⟩
    · rw [answered]
      exact (advances type).settled
    · intro notOvertaken sound
      rw [answered] at notOvertaken
      have soundAfter := (advances type).sound notOvertaken sound
      constructor
      · rw [answered]
        exact soundAfter.once
      · rw [answered]
        exact soundAfter.built
      · rw [answered]
        intro answer member otherEntry isForType
        rcases List.mem_append.mp member with old | new
        · exact soundAfter.answered answer old otherEntry isForType
        · rw [List.mem_singleton] at new
          subst new
          obtain ⟨rfl, rfl⟩ := isFor.unique isForType
          exact stands notOvertaken sound
  · have unchanged :
        after.log.noteAnswer request before.session outcome after.session = after.log := by
      unfold BuildLog.noteAnswer
      split
      · next isClass => exact absurd ⟨isClass, rfl⟩ isAnswer
      · rfl
    rw [Compilation.note_eq_self unchanged]
    exact advances type

/-- An activity that does not disturb any class. -/
def IsSteady (activity : Activity (σ × BuildLog) α) : Prop :=
  ∀ before, activity.Reaches before (fun _ after => ∀ type, before.Advances type after)
    fun after => ∀ type, before.Advances type after

theorem isSteady_bind {β : Type} {first : Activity (σ × BuildLog) α}
    {next : α → Activity (σ × BuildLog) β} (firstSteady : first.IsSteady)
    (nextSteady : ∀ result, (next result).IsSteady) : (first >>= next).IsSteady := by
  intro before
  apply reaches_bind (firstSteady before)
  intro result middle advances
  apply reaches_mono (nextSteady result middle)
  · exact fun _ after further type => (advances type).trans (further type)
  · exact fun after further type => (advances type).trans (further type)

theorem IsQuiet.isSteady {activity : Activity (σ × BuildLog) α} (isQuiet : activity.IsQuiet) :
    activity.IsSteady := by
  intro before
  apply reaches_mono (isQuiet before)
  · exact fun _ after quiet type => .of_quiet quiet
  · exact fun after quiet type => .of_quiet quiet

theorem isSteady_within {work : Activity (σ × BuildLog) α} (isSteady : work.IsSteady)
    (entity : SymbolId) (location : Location) : (within entity location work).IsSteady := by
  intro before
  apply reaches_within
  case quietReturns =>
    exact fun _ after later advances quiet type => (advances type).trans (.of_quiet quiet)
  case quietFails =>
    exact fun after later advances quiet type => (advances type).trans (.of_quiet quiet)
  case refuses => exact fun type => .refl before
  case works =>
    intro entered sameState sameProgram
    apply reaches_mono (isSteady entered)
    · exact fun _ after further type =>
        (Compilation.Advances.of_quiet (.of_same sameState sameProgram)).trans (further type)
    · exact fun after further type =>
        (Compilation.Advances.of_quiet (.of_same sameState sameProgram)).trans (further type)

theorem isSteady_withSwitch {work : Activity (σ × BuildLog) α} (isSteady : work.IsSteady)
    (switch : Switch) : (withSwitch switch work).IsSteady := by
  intro before
  apply reaches_withSwitch
  case quietReturns =>
    exact fun _ after later advances quiet type => (advances type).trans (.of_quiet quiet)
  case quietFails =>
    exact fun after later advances quiet type => (advances type).trans (.of_quiet quiet)
  case works =>
    intro turned quiet
    apply reaches_mono (isSteady turned)
    · exact fun _ after further type =>
        (Compilation.Advances.of_quiet quiet).trans (further type)
    · exact fun after further type => (Compilation.Advances.of_quiet quiet).trans (further type)

/-- Whatever an action requests, it advances every class up to the note at its end. -/
theorem reaches_run {perform : Request → Activity (σ × BuildLog) Unit}
    (performs : Performs perform) {action : Action σ α} (respects : action.Respects)
    (close : BuildLog → Except InstantiationError α → Session → BuildLog)
    (before : Compilation (σ × BuildLog)) :
    ((action.watched close).run perform).Reaches before
      (fun result after => ∃ middle, (∀ type, before.Advances type middle) ∧
        after = middle.note fun log => close log (.ok result))
      fun after => ∃ cause middle, (∀ type, before.Advances type middle) ∧
        after = middle.note fun log => close log (.error cause) := by
  -- Every operation advances all classes; what is noted at the end comes on top of that.
  induction action generalizing close before with
  | done outcome =>
      cases outcome with
      | ok result => exact ⟨before, fun _ => .refl before, rfl⟩
      | error cause => exact ⟨cause, before, fun _ => .refl before, rfl⟩
  | update change next ih =>
      obtain ⟨sustains, respectsNext⟩ := respects
      let changed := before.adopt ((change before.unwatched).watched before.log)
      have advances : ∀ type, before.Advances type changed :=
        fun type => .of_sustains rfl (sustains before.unwatched type)
      apply reaches_mono (ih respectsNext close changed)
      · rintro result after ⟨middle, further, rfl⟩
        exact ⟨middle, fun type => (advances type).trans (further type), rfl⟩
      · rintro after ⟨cause, middle, further, rfl⟩
        exact ⟨cause, middle, fun type => (advances type).trans (further type), rfl⟩
  | inspect next ih => exact ih before.unwatched (respects before.unwatched) close before
  | instantiate request next ih =>
      have asks := reaches_outcome (performs request before)
      simp only [Action.watched, Action.run]
      apply reaches_get
      refine reaches_bind (reaches_mono asks (fun _ _ => id) fun _ => False.elim) ?_
      intro outcome answered reached
      let noted := answered.note fun log => log.noteAnswer request before.session outcome
      have advances : ∀ type, before.Advances type noted := by
        cases outcome with
        | ok result => exact advances_answered reached.1 fun _ => reached.2
        | error cause => exact advances_answered reached fun same => by cases same
      apply reaches_mono (ih outcome (respects outcome) close noted)
      · rintro result after ⟨middle, further, rfl⟩
        exact ⟨middle, fun type => (advances type).trans (further type), rfl⟩
      · rintro after ⟨cause, middle, further, rfl⟩
        exact ⟨cause, middle, fun type => (advances type).trans (further type), rfl⟩
  | withSwitch switch work next workIh nextIh =>
      obtain ⟨respectsWork, respectsNext⟩ := respects
      have isSteady : ((work.watched fun log _ _ => log).run perform).IsSteady := by
        intro turned
        apply reaches_mono (workIh respectsWork (fun log _ _ => log) turned)
        · rintro result after ⟨middle, advances, rfl⟩
          exact advances
        · rintro after ⟨cause, middle, advances, rfl⟩
          exact advances
      have hands := reaches_outcome (isSteady_withSwitch isSteady switch before)
      simp only [Action.watched, Action.run]
      refine reaches_bind (reaches_mono hands (fun _ _ => id) fun _ => False.elim) ?_
      intro outcome middle reached
      have advances : ∀ type, before.Advances type middle := by
        cases outcome with
        | ok result => exact reached
        | error cause => exact reached
      apply reaches_mono (nextIh outcome (respectsNext outcome) close middle)
      · rintro result after ⟨last, further, rfl⟩
        exact ⟨last, fun type => (advances type).trans (further type), rfl⟩
      · rintro after ⟨cause, last, further, rfl⟩
        exact ⟨cause, last, fun type => (advances type).trans (further type), rfl⟩

theorem isSteady_callback {perform : Request → Activity (σ × BuildLog) Unit}
    (performs : Performs perform) {action : Action σ α} (respects : action.Respects) :
    ((action.watched fun log _ _ => log).run perform).IsSteady := by
  intro before
  apply reaches_mono (reaches_run performs respects (fun log _ _ => log) before)
  · rintro result after ⟨middle, advances, rfl⟩
    exact advances
  · rintro after ⟨cause, middle, advances, rfl⟩
    exact advances

section Callbacks

variable {analyzer : Analyzer σ} {perform : Request → Activity (σ × BuildLog) Unit}
variable (performs : Performs perform) (respects : analyzer.Respects)
include performs respects

theorem reaches_solveClass (request : Request) (entry : SymbolId) (template : TypeId)
    (before : Compilation (σ × BuildLog)) :
    (solveClass analyzer.watched perform request entry template).Reaches before
      (fun solution after => ∃ middle, (∀ type, before.Advances type middle) ∧
        after = middle.note fun log =>
          log.noteSolution (before.session.program.classOf? entry) (.ok (some solution)))
      fun after => ∀ type, before.Advances type after := by
  have asks : ((analyzer.watched.solveClassTemplate request.context template entry
      request.location).run perform).Reaches before
        (fun outcome after => ∃ middle, (∀ type, before.Advances type middle) ∧
          after = middle.note fun log =>
            log.noteSolution (before.session.program.classOf? entry) (.ok outcome))
        fun after => ∀ type, before.Advances type after := by
    apply reaches_get
    apply reaches_mono (reaches_run performs
      (respects.solveClassTemplate request.context template entry request.location)
      (fun log => log.noteSolution (before.session.program.classOf? entry)) before)
    · exact fun _ _ reached => reached
    · rintro after ⟨cause, middle, advances, rfl⟩ type
      exact (advances type).trans (.of_noteSolution middle _ _)
  apply reaches_bind asks
  intro outcome after reached
  cases outcome with
  | some solution => exact reached
  | none =>
      obtain ⟨middle, advances, rfl⟩ := reached
      exact fun type => (advances type).trans (.of_noteSolution middle _ _)

theorem reaches_buildBases (clause : Option NodeId) (classType : TypeId) (inner : DeclContext)
    (before : Compilation (σ × BuildLog)) :
    (buildBases analyzer.watched perform clause classType inner).Reaches before
      (fun _ after => after = before ∨
        ∃ middle, (∀ type, before.Advances type middle) ∧
          after = middle.note fun log => log.noteBases classType inner (.ok ()))
      fun after => ∀ type, before.Advances type after := by
  cases clause with
  | none => exact .inl rfl
  | some clause =>
      apply reaches_mono (reaches_run performs (respects.buildBaseClause clause classType inner)
        (fun log => log.noteBases classType inner) before)
      · exact fun _ _ reached => .inr reached
      · rintro after ⟨cause, middle, advances, rfl⟩ type
        exact (advances type).trans (.of_noteBases middle _ _ _)

theorem reaches_buildMembers (list : Option NodeId) (classType : TypeId) (inner : DeclContext)
    (before : Compilation (σ × BuildLog)) :
    (buildMembers analyzer.watched perform list classType inner).Reaches before
      (fun _ after => ∃ middle : Compilation (σ × BuildLog),
        middle.session.program = before.session.program ∧
          middle.log = before.log.noteMembers classType (inner.memberContexts list) ∧
            ∀ type, middle.Advances type after)
      fun after => ∃ middle : Compilation (σ × BuildLog),
        middle.session.program = before.session.program ∧
          middle.log = before.log.noteMembers classType (inner.memberContexts list) ∧
            ∀ type, middle.Advances type after := by
  cases list with
  | none =>
      have sameLog : before.log = before.log.noteMembers classType (inner.memberContexts none) := by
        simp [BuildLog.noteMembers, DeclContext.memberContexts]
      exact ⟨before, rfl, sameLog, fun _ => .refl before⟩
  | some members =>
      let noted := before.note fun log _ => log.noteMembers classType [inner.forMembers]
      apply reaches_mono (isSteady_callback performs
        (respects.buildMembers members classType inner.forMembers) noted)
      · exact fun _ after advances => ⟨noted, rfl, rfl, advances⟩
      · exact fun after advances => ⟨noted, rfl, rfl, advances⟩

/-- Filling in a class completes it. -/
theorem reaches_fillClass_self (request : Request) {entry : SymbolId}
    {classType : TypeId} (template : TypeId) {before : Compilation (σ × BuildLog)}
    (ofEntry : before.session.program.classOf? entry = some classType) {data : ClassType}
    (isClass : before.session.program.type classType = .classType data)
    (incomplete : data.completeness = .incompleteIndependent) :
    (fillClass analyzer.watched perform request entry classType template).Reaches before
      (fun _ after => ∃ inner, before.IsCompleted classType entry inner after)
      (before.Advances classType) := by
  have unsettled := Program.not_isSettled isClass incomplete
  apply reaches_fillClass (before.IsUnopened classType) (before.IsOpened classType)
    (before.IsOpened classType) (before.IsCompleted classType entry)
  case quietUnopened => exact fun _ _ unopened quiet => unopened.quiet quiet
  case quietOpened => exact fun _ _ _ opened quiet => opened.quiet quiet
  case quietCompleted => exact fun _ _ _ completed quiet => completed.advance (.of_quiet quiet)
  case givesUpUnopened => exact fun _ unopened => unopened.advances unsettled (.refl _)
  case givesUpOpened => exact fun _ _ opened => opened.advances unsettled (.refl _)
  case givesUpCompleted => exact fun _ _ completed => completed.advances unsettled
  case solves =>
    apply reaches_mono (reaches_solveClass performs respects request entry template before)
    · rintro solution after ⟨middle, advances, rfl⟩
      rw [ofEntry]
      exact (advances classType).isUnopened ⟨data, isClass⟩ solution
    · exact fun _ advances => advances classType
  case opens => exact fun _ unopened => unopened.open entry
  case bases =>
    intro clause inner after opened
    apply reaches_mono (reaches_buildBases performs respects clause classType inner after)
    · rintro _ later (rfl | ⟨middle, advances, rfl⟩)
      · exact opened
      · exact opened.based (advances classType)
    · exact fun _ advances => opened.advances unsettled (advances classType)
  case members =>
    intro list inner after opened
    apply reaches_mono (reaches_buildMembers performs respects list classType inner _)
    · rintro _ later ⟨middle, sameProgram, sameLog, advances⟩
      exact (opened.complete entry sameProgram sameLog).advance (advances classType)
    · rintro later ⟨middle, sameProgram, sameLog, advances⟩
      have completed := opened.complete entry sameProgram sameLog
      exact (completed.advance (advances classType)).advances unsettled
  case finishes =>
    intro context inner after completed
    apply reaches_mono (isSteady_callback performs
      (respects.finishClass classType context request.location) after)
    · exact fun _ _ advances => completed.advance (advances classType)
    · exact fun _ advances => (completed.advance (advances classType)).advances unsettled

/-- Filling in a class does not disturb the others. -/
theorem reaches_fillClass_other (request : Request) (entry : SymbolId)
    {classType : TypeId} (template : TypeId) {type : TypeId} {before : Compilation (σ × BuildLog)}
    (isClass : before.session.program.IsClass classType) (other : type ≠ classType) :
    (fillClass analyzer.watched perform request entry classType template).Reaches before
      (fun _ after => ∃ _ : DeclContext, before.Advances type after) (before.Advances type) := by
  have quietly : ∀ after later : Compilation (σ × BuildLog),
      before.Advances type after ∧ after.session.program.IsClass classType → after.Quiet later →
      before.Advances type later ∧ later.session.program.IsClass classType := by
    rintro after later ⟨advances, isClass⟩ quiet
    exact ⟨advances.trans (.of_quiet quiet), (quiet.leaves classType).sustains.isClass isClass⟩
  -- That the instance is a class has to be carried along until it is completed.
  apply reaches_fillClass
    (fun after => before.Advances type after ∧ after.session.program.IsClass classType)
    (fun _ after => before.Advances type after ∧ after.session.program.IsClass classType)
    (fun _ after => before.Advances type after ∧ after.session.program.IsClass classType)
    (fun _ => before.Advances type)
  case quietUnopened => exact quietly
  case quietOpened => exact fun _ => quietly
  case quietCompleted => exact fun _ _ _ advances quiet => advances.trans (.of_quiet quiet)
  case givesUpUnopened => exact fun _ reached => reached.1
  case givesUpOpened => exact fun _ _ reached => reached.1
  case givesUpCompleted => exact fun _ _ advances => advances
  case solves =>
    apply reaches_mono (reaches_solveClass performs respects request entry template before)
    · rintro solution after ⟨middle, advances, rfl⟩
      constructor
      · exact (advances type).trans (.of_noteSolution middle _ _)
      · exact (advances classType).isClass isClass
    · exact fun _ advances => advances type
  case opens =>
    rintro after ⟨advances, data, isClass⟩
    obtain ⟨_, leaves, opened, _⟩ := Program.openInstance_spec entry isClass
    exact ⟨advances.trans (.of_sustains rfl (leaves type other).sustains), _, opened⟩
  case bases =>
    rintro clause inner after ⟨advances, isClass⟩
    apply reaches_mono (reaches_buildBases performs respects clause classType inner after)
    · rintro _ later (rfl | ⟨middle, further, rfl⟩)
      · exact ⟨advances, isClass⟩
      · constructor
        · exact (advances.trans (further type)).trans (.of_noteBases middle _ _ _)
        · exact (further classType).isClass isClass
    · exact fun _ further => advances.trans (further type)
  case members =>
    rintro list inner after ⟨advances, data, isClass⟩
    obtain ⟨_, leaves, _, _⟩ := Program.completeInstance_completes entry isClass inner
    have turning : ∀ middle : Compilation (σ × BuildLog),
        middle.session.program =
          after.session.program.completeInstance entry classType inner →
        middle.log = after.log.noteMembers classType (inner.memberContexts list) →
        after.Advances type middle := by
      intro middle sameProgram sameLog
      have sustains := (leaves type other).sustains
      rw [← sameProgram] at sustains
      exact .of_noteMembers other sameLog sustains
    apply reaches_mono (reaches_buildMembers performs respects list classType inner _)
    · rintro _ later ⟨middle, sameProgram, sameLog, further⟩
      exact (advances.trans (turning middle sameProgram sameLog)).trans (further type)
    · rintro later ⟨middle, sameProgram, sameLog, further⟩
      exact (advances.trans (turning middle sameProgram sameLog)).trans (further type)
  case finishes =>
    intro context inner after advances
    apply reaches_mono (isSteady_callback performs
      (respects.finishClass classType context request.location) after)
    · exact fun _ _ further => advances.trans (further type)
    · exact fun _ further => advances.trans (further type)

/-- Completing a class that was prepared, and turning to its members, leaves it built by this
instantiation alone exactly if nobody else had built it or put another context on record. -/
theorem reaches_completeClass_iff (request : Request) (entry : SymbolId) {classType : TypeId}
    {prepared : PreparedClass} {based : Compilation (σ × BuildLog)}
    (isClass : based.session.program.IsClass classType)
    (inTree : prepared.inner.currentScope.index < based.session.program.scopes.scopes.size) :
    (completeClass analyzer.watched perform request entry classType prepared).Reaches based
      (fun _ after => after.IsBuiltOnce classType entry prepared ↔
        based.IsUntouched classType prepared)
      fun _ => True := by
  have settles : (completeClass analyzer.watched perform request entry classType prepared).Reaches
      based (fun _ => based.IsCompletion classType entry prepared) fun _ => True := by
    apply reaches_completeClass
    case quietCompleted => exact fun _ _ completion quiet => completion.advance (.of_quiet quiet)
    case givesUpCompleted => exact fun _ _ => trivial
    case members =>
      apply reaches_mono (reaches_buildMembers performs respects _ _ _ _)
      · rintro _ later ⟨middle, sameProgram, sameLog, advances⟩
        exact (Compilation.isCompletion isClass inTree sameProgram sameLog).advance
          (advances classType)
      · exact fun _ _ => trivial
    case finishes =>
      intro after completion
      apply reaches_mono (isSteady_callback performs
        (respects.finishClass classType prepared.declaredIn request.location) after)
      · exact fun _ _ advances => completion.advance (advances classType)
      · exact fun _ _ => trivial
  apply reaches_mono settles
  · exact fun _ _ completion => completion.isBuiltOnce_iff
  · exact fun _ _ => trivial

theorem reaches_prepareClass_opened (request : Request) (entry : SymbolId) {classType : TypeId}
    (template : TypeId) {before : Compilation (σ × BuildLog)}
    (isClass : before.session.program.IsClass classType) :
    (prepareClass analyzer.watched perform request entry classType template).Reaches before
      (fun prepared based => based.session.program.IsClass classType ∧
        prepared.inner.currentScope.index < based.session.program.scopes.scopes.size)
      fun _ => True := by
  apply reaches_prepareClass (fun after => after.session.program.IsClass classType)
    (fun inner after => after.session.program.IsClass classType ∧
      inner.currentScope.index < after.session.program.scopes.scopes.size)
    (fun inner after => after.session.program.IsClass classType ∧
      inner.currentScope.index < after.session.program.scopes.scopes.size)
  case quietUnopened =>
    exact fun _ _ isClass quiet => (quiet.leaves classType).sustains.isClass isClass
  case quietOpened =>
    rintro inner after later ⟨isClass, inTree⟩ quiet
    exact ⟨(quiet.leaves classType).sustains.isClass isClass,
      Nat.lt_of_lt_of_le inTree (quiet.leaves classType).lists.size_le⟩
  case givesUpUnopened => exact fun _ _ => trivial
  case givesUpOpened => exact fun _ _ _ => trivial
  case solves =>
    apply reaches_mono (reaches_solveClass performs respects request entry template before)
    · rintro solution after ⟨middle, advances, rfl⟩
      exact (advances classType).isClass isClass
    · exact fun _ _ => trivial
  case opens =>
    rintro after ⟨data, isClass⟩
    obtain ⟨_, _, opened, inTree⟩ := Program.openInstance_spec entry isClass
    exact ⟨⟨_, opened⟩, inTree⟩
  case bases =>
    rintro clause inner after ⟨isClass, inTree⟩
    apply reaches_mono (reaches_buildBases performs respects clause classType inner after)
    · rintro _ later (rfl | ⟨middle, advances, rfl⟩)
      · exact ⟨isClass, inTree⟩
      · exact ⟨(advances classType).isClass isClass,
          Nat.lt_of_lt_of_le inTree (advances classType).names.lists.size_le⟩
    · exact fun _ _ => trivial

/-- An instantiation that returns is the only one that built the class, and in the context on
record, exactly if nobody had interfered by the time its bases were recorded. -/
theorem fillClass_isBuiltOnce_iff {request : Request} {entry : SymbolId}
    {classType template : TypeId} {before after : Compilation (σ × BuildLog)}
    (isClass : before.session.program.IsClass classType)
    (returns : fillClass analyzer.watched perform request entry classType template before =
      .ok () after) :
    ∃ prepared based,
      prepareClass analyzer.watched perform request entry classType template before =
        .ok prepared based ∧
      (after.IsBuiltOnce classType entry prepared ↔ based.IsUntouched classType prepared) := by
  obtain ⟨prepared, based, prepares, completes⟩ := eq_ok_of_bind returns
  have opened := reaches_prepareClass_opened performs respects request entry template isClass
  obtain ⟨isClassThen, inTree⟩ := opened.of_ok prepares
  have isExact := reaches_completeClass_iff performs respects request entry isClassThen inTree
  exact ⟨prepared, based, prepares, isExact.of_ok completes⟩

theorem reaches_fillClass_all (request : Request) {entry : SymbolId} {classType : TypeId}
    (template : TypeId) {before : Compilation (σ × BuildLog)}
    (ofEntry : before.session.program.classOf? entry = some classType) {data : ClassType}
    (isClass : before.session.program.type classType = .classType data)
    (incomplete : data.completeness = .incompleteIndependent) :
    (fillClass analyzer.watched perform request entry classType template).Reaches before
      (fun _ after => (∀ type, before.Advances type after) ∧
        ∃ inner, before.IsCompleted classType entry inner after)
      fun after => ∀ type, before.Advances type after := by
  have unsettled := Program.not_isSettled isClass incomplete
  have self := reaches_fillClass_self performs respects request template ofEntry isClass incomplete
  have each : ∀ type,
      (fillClass analyzer.watched perform request entry classType template).Reaches before
        (fun _ after => before.Advances type after ∧
          (type = classType → ∃ inner, before.IsCompleted classType entry inner after))
        (before.Advances type) := by
    intro type
    by_cases same : type = classType
    · subst same
      apply reaches_mono self
      · rintro _ after ⟨inner, completed⟩
        exact ⟨completed.advances unsettled, fun _ => ⟨inner, completed⟩⟩
      · exact fun _ advances => advances
    · apply reaches_mono
        (reaches_fillClass_other performs respects request entry template ⟨data, isClass⟩ same)
      · rintro _ after ⟨_, advances⟩
        exact ⟨advances, fun equal => absurd equal same⟩
      · exact fun _ advances => advances
  apply reaches_mono (reaches_forall each)
  · exact fun _ after reached => ⟨fun type => (reached type).1, (reached classType).2 rfl⟩
  · exact fun _ reached => reached

/-- A request for a class advances every class, and if it is carried out the answer stands. -/
theorem reaches_instantiateClass (request : Request) (before : Compilation (σ × BuildLog)) :
    (instantiateClass analyzer.watched perform request).Reaches before
      (fun _ after => (∀ type, before.Advances type after) ∧ Fulfils request before after)
      fun after => ∀ type, before.Advances type after := by
  have unmoved : ∀ type, before.Advances type before := fun _ => .refl before
  apply reaches_bind reaches_session
  rintro _ _ ⟨rfl, rfl⟩
  apply reaches_bind (reaches_mono reaches_ofExcept (fun _ _ => id) fun _ same => same ▸ unmoved)
  rintro entry _ ⟨resolves, rfl⟩
  apply reaches_bind reaches_session
  rintro _ current ⟨rfl, rfl⟩
  split
  · next notEligible => exact unmoved
  · next classType template eligible =>
      obtain ⟨ofEntry, data, isClass, incomplete⟩ := Session.eligibleClass?_eq_some eligible
      apply reaches_bind (reaches_debug _)
      rintro _ logged ⟨sameState, sameSession⟩
      have toLogged : ∀ type, current.Advances type logged :=
        fun type => .of_quiet (.of_same sameState (congrArg Session.program sameSession))
      have fills : (within entry request.location
          (fillClass analyzer.watched perform request entry classType template)).Reaches logged
            (fun _ after => (∀ type, current.Advances type after) ∧
              ∃ inner, current.IsCompleted classType entry inner after)
            fun after => ∀ type, current.Advances type after := by
        apply reaches_within
        case quietReturns =>
          rintro _ after later ⟨advances, inner, completed⟩ quiet
          exact ⟨fun type => (advances type).trans (.of_quiet quiet), inner,
            completed.advance (.of_quiet quiet)⟩
        case quietFails =>
          exact fun after later advances quiet type => (advances type).trans (.of_quiet quiet)
        case refuses => exact toLogged
        case works =>
          intro entered sameStateEntered sameProgram
          have toEntered : ∀ type, current.Advances type entered :=
            fun type => (toLogged type).trans (.of_quiet (.of_same sameStateEntered sameProgram))
          have isCurrent : entered.session.program = current.session.program := by
            rw [sameProgram, sameSession]
          rw [← isCurrent] at ofEntry isClass
          apply reaches_mono
            (reaches_fillClass_all performs respects request template ofEntry isClass incomplete)
          · rintro _ after ⟨advances, inner, completed⟩
            exact ⟨fun type => (toEntered type).trans (advances type), inner,
              completed.of_advances (toEntered classType)⟩
          · exact fun after advances type => (toEntered type).trans (advances type)
      apply reaches_mono fills
      · rintro _ after ⟨advances, inner, completed⟩
        refine ⟨advances, fun _ => ⟨entry, classType, ⟨resolves, template, eligible⟩, ?_⟩⟩
        intro notOvertaken sound
        obtain ⟨_, recorded, received⟩ := completed.sound notOvertaken sound
        exact ⟨inner, recorded, received, completed.names⟩
      · exact fun _ advances => advances

theorem isSteady_buildFunction (request : Request) (definition : Option NodeId) :
    (buildFunction analyzer.watched perform request definition).IsSteady := by
  apply isSteady_bind (isQuiet_instantiationContext _ _).isSteady
  intro opened
  cases definition with
  | none =>
      apply isSteady_bind isQuiet_program.isSteady
      intro read
      exact (isQuiet_throw _).isSteady
  | some definition =>
      apply isSteady_bind (isQuiet_onTree _).isSteady
      intro copy
      apply isSteady_bind
      · apply isSteady_withSwitch
        exact isSteady_callback performs (respects.buildFunction copy _)
      · intro _
        apply isSteady_bind (isQuiet_define _).isSteady
        intro _
        apply isSteady_bind (isQuiet_record _ _).isSteady
        intro _
        exact (isQuiet_debug _).isSteady

theorem isSteady_instantiateFunction (request : Request) :
    (instantiateFunction analyzer.watched perform request).IsSteady := by
  apply isSteady_bind isQuiet_session.isSteady
  intro read
  split
  · exact (isQuiet_debug _).isSteady
  · apply isSteady_bind isQuiet_program.isSteady
    intro read
    split
    · apply isSteady_bind isQuiet_program.isSteady
      intro read
      apply isSteady_bind isQuiet_program.isSteady
      intro read
      exact (isQuiet_throw _).isSteady
    · apply isSteady_bind (isQuiet_debug _).isSteady
      intro _
      apply isSteady_bind isQuiet_session.isSteady
      intro read
      split
      · apply isSteady_bind isQuiet_program.isSteady
        intro read
        exact (isQuiet_throw _).isSteady
      · apply isSteady_bind isQuiet_session.isSteady
        intro read
        split
        · exact (isQuiet_debug _).isSteady
        · apply isSteady_bind isQuiet_session.isSteady
          intro read
          exact isSteady_within (isSteady_buildFunction performs respects _ _) _ _

theorem performs_performWith : Performs (performWith analyzer.watched perform) := by
  intro request before
  unfold performWith
  cases isKind : request.kind with
  | classTemplate => exact reaches_instantiateClass performs respects request before
  | functionTemplate =>
      apply reaches_mono (isSteady_instantiateFunction performs respects request before)
      · intro _ after advances
        refine ⟨advances, fun isClass => ?_⟩
        rw [isKind] at isClass
        cases isClass
      · exact fun _ advances => advances

end Callbacks

theorem performs_refuse : Performs (σ := σ) refuse :=
  fun _ before _ => .refl before

/-- However deep requests nest, they are carried out without disturbing any class. -/
theorem performs_performIn {analyzer : Analyzer σ} (respects : analyzer.Respects) (room : Nat) :
    Performs (performIn analyzer.watched room) := by
  induction room with
  | zero => exact performs_performWith performs_refuse respects
  | succ room ih => exact performs_performWith ih respects

theorem performs_perform {analyzer : Analyzer σ} (respects : analyzer.Respects) :
    Performs (perform analyzer.watched) :=
  fun request before => performs_performIn respects _ request before

/-- How the requests made during an instantiation are carried out: with some room, or not at all. -/
def Occurs (analyzer : Analyzer σ) (perform : Request → Activity σ Unit) : Prop :=
  perform = refuse ∨ ∃ room, perform = performIn analyzer room

theorem Occurs.performs {analyzer : Analyzer σ} {perform : Request → Activity (σ × BuildLog) Unit}
    (occurs : Occurs analyzer.watched perform) (respects : analyzer.Respects) :
    Performs perform := by
  rcases occurs with rfl | ⟨room, rfl⟩
  · exact performs_refuse
  · exact performs_performIn respects room

/-- If no instantiation of a class is overtaken, then in a whole run, whatever the callbacks
request and whichever errors they ignore, the members of the class are built at most once.  Every
request for a class that was carried out found the class incomplete, and if the class was not
overtaken, it left the context on record that received the members and the name of the class.

Nothing less would do.  An instantiation that returns, wherever it occurs, is the only one that
built the members, and in the context on record, exactly if the class was untouched when its bases
had been recorded. -/
theorem members_built_once {analyzer : Analyzer σ} {action : Action σ α}
    (analyzerRespects : analyzer.Respects) (actionRespects : action.Respects)
    (before : Compilation σ) :
    (∀ type, type ∉ (buildLog analyzer action before).overtaken →
      (contextsOf (buildLog analyzer action before).built type).length ≤ 1) ∧
    (∀ answer ∈ (buildLog analyzer action before).answers,
      ∃ entry type, answer.IsFor entry type ∧
        (type ∉ (buildLog analyzer action before).overtaken → answer.Stands entry type)) ∧
    ∀ perform request entry type template (start after : Compilation (σ × BuildLog)),
      Occurs analyzer.watched perform → start.session.program.IsClass type →
      fillClass analyzer.watched perform request entry type template start = .ok () after →
      ∃ prepared based,
        prepareClass analyzer.watched perform request entry type template start =
          .ok prepared based ∧
        (after.IsBuiltOnce type entry prepared ↔ based.IsUntouched type prepared) := by
  let start : Compilation (σ × BuildLog) := before.watched {}
  let last := (act analyzer.watched (action.watched fun log _ _ => log)).final start
  have advances : ∀ type, start.Advances type last := by
    have steady := isSteady_callback (performs_perform analyzerRespects) actionRespects start
    unfold Reaches at steady
    unfold last final act
    split at steady <;> simp_all
  have soundStart : ∀ type, start.IsSound type := by
    intro type
    exact ⟨Nat.zero_le 1, fun isBuilt => absurd rfl isBuilt,
      fun _ member => absurd member List.not_mem_nil⟩
  refine ⟨?_, ?_, ?_⟩
  · intro type notOvertaken
    exact ((advances type).sound notOvertaken (soundStart type)).once
  · intro answer member
    have requested : ∃ entry type, answer.IsFor entry type := by
      rcases (advances default).answers answer member with old | isFor
      · cases old
      · exact isFor
    obtain ⟨entry, type, isFor⟩ := requested
    refine ⟨entry, type, isFor, fun notOvertaken => ?_⟩
    exact ((advances type).sound notOvertaken (soundStart type)).answered answer member entry isFor
  · intro perform request entry type template start after occurs isClass returns
    exact fillClass_isBuiltOnce_iff (occurs.performs analyzerRespects) analyzerRespects isClass
      returns

end Activity

namespace Sample

def nodes : SyntaxTree :=
  ((SyntaxTree.empty.addIntegerLiteral "1").2.addIntegerLiteral "2").2

/-- The class template `A` with a base clause and a member list. -/
def derived : SymbolId × Program :=
  start.declareClassTemplate ScopeTree.globalContext "A" [.type "T"]
    { members := some ⟨0⟩, bases := some ⟨1⟩ }

def derivedInstance : SymbolId × Program :=
  (derived.2.classInstance? derived.1 [.type int]).getD default

def derivedType : TypeId := ⟨3⟩

def derivedRequest : Request where
  kind := .classTemplate
  entry := derivedInstance.1
  context := ScopeTree.globalContext
  location := .builtin

def uninstantiated : Compilation Bool where
  session := { program := derivedInstance.2, tree := nodes }
  analyzerState := false

def requesting : Action Bool Unit :=
  .instantiate derivedRequest .done

theorem requesting_respects : requesting.Respects :=
  fun _ => trivial

/-- Building the members declares one of them and requests the class again. -/
def selfNaming : Analyzer Bool :=
  { Analyzer.idle Bool with
    buildMembers := fun _ _ context =>
      .update
        (fun compilation => compilation.withProgram
          (compilation.session.program.declareVariable context "x" int none).2)
        (.instantiate derivedRequest fun _ => .done (.ok ())) }

theorem selfNaming_respects : selfNaming.Respects :=
  { Analyzer.idle_respects Bool with
    buildMembers := fun _ _ _ =>
      ⟨fun _ _ => (Program.Enlarges.ofVariable _ _ _ _).sustains, fun _ => trivial⟩ }

def filling : Activity (Bool × BuildLog) Unit :=
  Activity.fillClass selfNaming.watched Activity.refuse derivedRequest derivedInstance.1
    derivedType ⟨1⟩

set_option maxRecDepth 100000 in
/-- The members are built once although they request the class again. -/
theorem members_built_once_here :
    (Activity.buildLog selfNaming requesting uninstantiated).overtaken = [] ∧
    (Activity.buildLog selfNaming requesting uninstantiated).built.length = 1 ∧
    (Activity.buildLog selfNaming requesting uninstantiated).answers.length = 1 ∧
    (∀ type, type ∉ (Activity.buildLog selfNaming requesting uninstantiated).overtaken →
      (contextsOf (Activity.buildLog selfNaming requesting uninstantiated).built type).length ≤ 1) ∧
    (∀ answer ∈ (Activity.buildLog selfNaming requesting uninstantiated).answers,
      ∃ entry type, answer.IsFor entry type ∧
        (type ∉ (Activity.buildLog selfNaming requesting uninstantiated).overtaken →
          answer.Stands entry type)) ∧
    ∃ after prepared based, filling (uninstantiated.watched {}) = .ok () after ∧
      Activity.prepareClass selfNaming.watched Activity.refuse derivedRequest derivedInstance.1
        derivedType ⟨1⟩ (uninstantiated.watched {}) = .ok prepared based ∧
      (after.IsBuiltOnce derivedType derivedInstance.1 prepared ↔
        based.IsUntouched derivedType prepared) := by
  refine ⟨by cbv, by cbv, by cbv, ?_⟩
  obtain ⟨once, answered, isExact⟩ :=
    Activity.members_built_once selfNaming_respects requesting_respects uninstantiated
  have returns : filling (uninstantiated.watched {}) =
      .ok () (filling.final (uninstantiated.watched {})) := by cbv
  obtain ⟨prepared, based, prepares, same⟩ :=
    isExact Activity.refuse derivedRequest derivedInstance.1 derivedType ⟨1⟩
      (uninstantiated.watched {}) _ (.inl rfl) ⟨_, rfl⟩ returns
  exact ⟨once, answered, _, prepared, based, returns, prepares, same⟩

/-- Building the base clause for the first time requests the class again. -/
def selfDerived : Analyzer Bool :=
  { Analyzer.idle Bool with
    buildBaseClause := fun _ _ _ =>
      .inspect fun compilation =>
        if compilation.analyzerState then
          .done (.ok ())
        else
          .update (fun compilation => { compilation with analyzerState := true })
            (.instantiate derivedRequest fun _ => .done (.ok ())) }

theorem selfDerived_respects : selfDerived.Respects :=
  { Analyzer.idle_respects Bool with
    buildBaseClause := by
      intro _ _ _ compilation
      dsimp only
      split
      · trivial
      · exact ⟨fun _ _ => Program.Sustains.refl _, fun _ => trivial⟩ }

set_option maxRecDepth 100000 in
/-- Although the analyzer takes nothing back, the members are built twice, in two contexts, and both
requests are carried out.  The context on record is not the one of the request that was carried out
last. -/
theorem members_built_twice :
    selfDerived.Respects ∧
    (contextsOf (Activity.buildLog selfDerived requesting uninstantiated).built derivedType).map
      (·.currentScope.index) = [5, 3] ∧
    (Activity.buildLog selfDerived requesting uninstantiated).answers.length = 2 ∧
    (((Activity.act selfDerived requesting).final uninstantiated).session.program.innerContext?
      derivedType).map (·.currentScope.index) = some 5 := by
  refine ⟨selfDerived_respects, by cbv, by cbv, by cbv⟩

end Sample

end CppTemplates
