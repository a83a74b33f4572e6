import CppTemplates.Instantiation.Engine
import CppTemplates.Proofs.Program.Completion

/-!
# What activities reach

A contract of an activity says what holds of the compilations in which it returns or fails.  Most
of what the engine does by itself is quiet: it leaves classes and the state of the analyzer alone.
So the contract of filling in a class comes down to those of the callbacks and of the two steps
that change the class, its opening and its completion.
-/

namespace CppTemplates

namespace Compilation

variable {σ : Type}

def withProgram (compilation : Compilation σ) (program : Program) : Compilation σ :=
  compilation.mapSession fun session => { session with program }

/-- Between two compilations no class has changed, nor has the state of the analyzer. -/
structure Quiet (before after : Compilation σ) : Prop where
  analyzerState : after.analyzerState = before.analyzerState
  leaves : ∀ type, Program.Leaves type before.session.program after.session.program

namespace Quiet

theorem refl (compilation : Compilation σ) : compilation.Quiet compilation :=
  ⟨rfl, fun _ => Program.Leaves.refl _⟩

theorem trans {first second third : Compilation σ} (earlier : first.Quiet second)
    (later : second.Quiet third) : first.Quiet third := by
  constructor
  · exact later.analyzerState.trans earlier.analyzerState
  · intro type
    exact (earlier.leaves type).trans (later.leaves type)

theorem of_same {before after : Compilation σ}
    (sameState : after.analyzerState = before.analyzerState)
    (sameProgram : after.session.program = before.session.program) : before.Quiet after := by
  constructor
  · exact sameState
  · intro type
    rw [sameProgram]
    exact Program.Leaves.refl _

end Quiet

end Compilation

namespace Activity

variable {σ α β : Type}

/-- From a compilation on, an activity returns or fails in compilations of which something holds. -/
def Reaches (activity : Activity σ α) (before : Compilation σ)
    (returns : α → Compilation σ → Prop) (fails : Compilation σ → Prop) : Prop :=
  match activity before with
  | .ok result after => returns result after
  | .error _ after => fails after

section Rules

variable {activity : Activity σ α} {before : Compilation σ} {returns : α → Compilation σ → Prop}
variable {fails : Compilation σ → Prop}

theorem reaches_mono {more : α → Compilation σ → Prop} {moreFails : Compilation σ → Prop}
    (reaches : activity.Reaches before returns fails)
    (weaker : ∀ result after, returns result after → more result after)
    (weakerFails : ∀ after, fails after → moreFails after) :
    activity.Reaches before more moreFails := by
  unfold Reaches at reaches ⊢
  cases atActivity : activity before with
  | ok result after =>
      rw [atActivity] at reaches
      exact weaker result after reaches
  | error cause after =>
      rw [atActivity] at reaches
      exact weakerFails after reaches

theorem reaches_bind {middle : α → Compilation σ → Prop} {next : α → Activity σ β}
    {goal : β → Compilation σ → Prop} (first : activity.Reaches before middle fails)
    (rest : ∀ result after, middle result after → (next result).Reaches after goal fails) :
    (activity >>= next).Reaches before goal fails := by
  unfold Reaches at first ⊢
  simp only [bind, EStateM.bind]
  cases atActivity : activity before with
  | ok result after =>
      rw [atActivity] at first
      exact rest result after first
  | error cause after =>
      rw [atActivity] at first
      exact first

/-- A sequence that returns returns from each of its parts. -/
theorem eq_ok_of_bind {next : α → Activity σ β} {result : β} {after : Compilation σ}
    (returns : (activity >>= next) before = .ok result after) :
    ∃ value middle, activity before = .ok value middle ∧ next value middle = .ok result after := by
  simp only [bind, EStateM.bind] at returns
  cases atActivity : activity before with
  | ok value middle =>
      rw [atActivity] at returns
      exact ⟨value, middle, rfl, returns⟩
  | error cause middle =>
      rw [atActivity] at returns
      cases returns

theorem Reaches.of_ok {result : α} {after : Compilation σ}
    (reaches : activity.Reaches before returns fails)
    (atActivity : activity before = .ok result after) : returns result after := by
  unfold Reaches at reaches
  rw [atActivity] at reaches
  exact reaches

theorem reaches_get {next : Compilation σ → Activity σ α}
    (reaches : (next before).Reaches before returns fails) :
    (get >>= next : Activity σ α).Reaches before returns fails :=
  reaches

theorem reaches_session :
    session.Reaches before (fun read after => read = before.session ∧ after = before) fails :=
  ⟨rfl, rfl⟩

theorem reaches_debug (message : Session → String) :
    (debug message).Reaches before
      (fun _ after => after.analyzerState = before.analyzerState ∧ after.session = before.session)
      fails :=
  ⟨rfl, rfl⟩

theorem reaches_ofExcept {outcome : Except InstantiationError α} :
    (ofExcept outcome).Reaches before (fun result after => outcome = .ok result ∧ after = before)
      (· = before) := by
  cases outcome with
  | ok result => exact ⟨rfl, rfl⟩
  | error cause => exact rfl

theorem reaches_forall {ι : Type} {returns : ι → α → Compilation σ → Prop}
    {fails : ι → Compilation σ → Prop}
    (each : ∀ index, activity.Reaches before (returns index) (fails index)) :
    activity.Reaches before (fun result after => ∀ index, returns index result after)
      fun after => ∀ index, fails index after := by
  unfold Reaches at each ⊢
  cases atActivity : activity before with
  | ok result after =>
      rw [atActivity] at each
      exact each
  | error cause after =>
      rw [atActivity] at each
      exact each

theorem reaches_outcome
    (reaches : activity.Reaches before (fun result => returns result) fails) :
    activity.outcome.Reaches before
      (fun outcome after =>
        match outcome with
        | .ok result => returns result after
        | .error _ => fails after)
      fun _ => False := by
  unfold Reaches at reaches ⊢
  unfold outcome
  cases atActivity : activity before with
  | ok result after =>
      rw [atActivity] at reaches
      exact reaches
  | error cause after =>
      rw [atActivity] at reaches
      exact reaches

end Rules

/-- From a compilation on, an activity ends with an outcome and in a compilation of which something
holds. -/
def Satisfies (activity : Activity σ α) (before : Compilation σ)
    (goal : Except InstantiationError α → Compilation σ → Prop) : Prop :=
  match activity before with
  | .ok result after => goal (.ok result) after
  | .error cause after => goal (.error cause) after

section Outcomes

variable {activity : Activity σ α} {before : Compilation σ}
variable {goal : Except InstantiationError α → Compilation σ → Prop}

theorem satisfies_mono {stronger : Except InstantiationError α → Compilation σ → Prop}
    (satisfies : activity.Satisfies before stronger)
    (implies : ∀ outcome after, stronger outcome after → goal outcome after) :
    activity.Satisfies before goal := by
  unfold Satisfies at satisfies ⊢
  cases atActivity : activity before with
  | ok result after =>
      rw [atActivity] at satisfies
      exact implies (.ok result) after satisfies
  | error cause after =>
      rw [atActivity] at satisfies
      exact implies (.error cause) after satisfies

theorem Satisfies.of_ok {result : α} {after : Compilation σ}
    (satisfies : activity.Satisfies before goal) (returns : activity before = .ok result after) :
    goal (.ok result) after := by
  unfold Satisfies at satisfies
  rw [returns] at satisfies
  exact satisfies

/-- If nothing is asked of failures, only the compilations count in which an activity returns. -/
theorem satisfies_of_returns
    (returns : ∀ result after, activity before = .ok result after → goal (.ok result) after)
    (fails : ∀ cause after, goal (.error cause) after) : activity.Satisfies before goal := by
  unfold Satisfies
  cases atActivity : activity before with
  | ok result after => exact returns result after atActivity
  | error cause after => exact fails cause after

/-- A sequence goes on where its first part returns and ends where it fails. -/
theorem satisfies_bind {next : α → Activity σ β}
    {goal : Except InstantiationError β → Compilation σ → Prop}
    (first : activity.Satisfies before fun outcome middle =>
      match outcome with
      | .ok result => (next result).Satisfies middle goal
      | .error cause => goal (.error cause) middle) :
    (activity >>= next).Satisfies before goal := by
  unfold Satisfies at first ⊢
  simp only [bind, EStateM.bind]
  cases atActivity : activity before with
  | ok result middle =>
      rw [atActivity] at first
      exact first
  | error cause middle =>
      rw [atActivity] at first
      exact first

theorem satisfies_ofExcept {outcome : Except InstantiationError α} (reached : goal outcome before) :
    (ofExcept outcome).Satisfies before goal := by
  cases outcome with
  | ok result => exact reached
  | error cause => exact reached

theorem satisfies_outcome
    {goal : Except InstantiationError (Except InstantiationError α) → Compilation σ → Prop}
    (satisfies : activity.Satisfies before fun outcome after => goal (.ok outcome) after) :
    activity.outcome.Satisfies before goal := by
  unfold Satisfies at satisfies ⊢
  unfold outcome
  cases atActivity : activity before with
  | ok result after =>
      rw [atActivity] at satisfies
      exact satisfies
  | error cause after =>
      rw [atActivity] at satisfies
      exact satisfies

theorem satisfies_within {entity : SymbolId} {location : Location}
    (refuses : ∀ cause, before.session.enter entity location = .error cause →
      goal (.error cause) before)
    (works : ∀ entered, before.session.enter entity location = .ok entered →
      activity.Satisfies { before with session := entered } fun outcome after =>
        goal outcome (after.mapSession (·.leave entity))) :
    (within entity location activity).Satisfies before goal := by
  unfold Satisfies within
  cases enters : before.session.enter entity location with
  | error cause => exact refuses cause enters
  | ok entered =>
      have atWork := works entered enters
      unfold Satisfies at atWork
      cases atEnd : activity { before with session := entered } with
      | ok result after =>
          rw [atEnd] at atWork
          simp only [atEnd]
          exact atWork
      | error cause after =>
          rw [atEnd] at atWork
          simp only [atEnd]
          exact atWork

theorem satisfies_withSwitch {switch : Switch}
    (works : activity.Satisfies (before.mapSession (·.turn switch)) fun outcome after =>
      goal outcome (after.mapSession (·.putBack before.session switch))) :
    (withSwitch switch activity).Satisfies before goal := by
  unfold Satisfies withSwitch at *
  cases atEnd : activity (before.mapSession (·.turn switch)) with
  | ok result after =>
      rw [atEnd] at works
      exact works
  | error cause after =>
      rw [atEnd] at works
      exact works

end Outcomes

/-- An activity that changes no class and not the state of the analyzer. -/
def IsQuiet (activity : Activity σ α) : Prop :=
  ∀ before, activity.Reaches before (fun _ after => before.Quiet after) before.Quiet

theorem isQuiet_bind {first : Activity σ α} {next : α → Activity σ β} (firstQuiet : first.IsQuiet)
    (nextQuiet : ∀ result, (next result).IsQuiet) : (first >>= next).IsQuiet := by
  intro before
  apply reaches_bind (firstQuiet before)
  intro result middle quiet
  apply reaches_mono (nextQuiet result middle)
  · intro _ after later
    exact quiet.trans later
  · intro after later
    exact quiet.trans later

theorem isQuiet_pure (result : α) : IsQuiet (σ := σ) (pure result) :=
  fun before => Compilation.Quiet.refl before

theorem isQuiet_throw (cause : InstantiationError) : IsQuiet (σ := σ) (α := α) (throw cause) :=
  fun before => Compilation.Quiet.refl before

theorem isQuiet_ofExcept (outcome : Except InstantiationError α) :
    IsQuiet (σ := σ) (ofExcept outcome) := by
  cases outcome with
  | ok result => exact isQuiet_pure result
  | error cause => exact isQuiet_throw cause

theorem isQuiet_session : IsQuiet (σ := σ) session :=
  fun before => Compilation.Quiet.refl before

theorem isQuiet_program : IsQuiet (σ := σ) program :=
  fun before => Compilation.Quiet.refl before

theorem isQuiet_debug (message : Session → String) : IsQuiet (σ := σ) (debug message) :=
  fun _ => Compilation.Quiet.of_same rfl rfl

theorem isQuiet_logAll (lines : Session → List LogLine) : IsQuiet (σ := σ) (logAll lines) :=
  fun _ => Compilation.Quiet.of_same rfl rfl

theorem isQuiet_onTree (operation : SyntaxTree → α × SyntaxTree) :
    IsQuiet (σ := σ) (onTree operation) :=
  fun _ => Compilation.Quiet.of_same rfl rfl

theorem isQuiet_record (entity : SymbolId) (location : Location) :
    IsQuiet (σ := σ) (modifySession (·.record entity location)) := by
  intro before
  have sameProgram : (before.session.record entity location).program = before.session.program := by
    unfold Session.record
    split <;> rfl
  have quiet : before.Quiet (before.mapSession (·.record entity location)) :=
    .of_same rfl sameProgram
  exact quiet

theorem isQuiet_modifyProgram {change : Program → Program}
    (leaves : ∀ type program, Program.Leaves type program (change program)) :
    IsQuiet (σ := σ) (modifyProgram change) :=
  fun _ => ⟨rfl, fun type => leaves type _⟩

theorem isQuiet_onProgram {operation : Program → α × Program}
    (leaves : ∀ type program, Program.Leaves type program (operation program).2) :
    IsQuiet (σ := σ) (onProgram operation) :=
  fun _ => ⟨rfl, fun type => leaves type _⟩

theorem isQuiet_define (entry : SymbolId) :
    IsQuiet (σ := σ)
      (modifyProgram (·.modifyEntry entry fun symbol => { symbol with defined := true })) :=
  isQuiet_modifyProgram fun _ _ => Program.leaves_modifyEntry _ (fun _ => rfl) fun _ => rfl

theorem leaves_injectArgument {session after : Session} {context : DeclContext} {name : String}
    {kind : ParameterKind} {argument : TemplateArgument} {symbol : SymbolId}
    (injects : session.injectArgument context name kind argument = .ok (symbol, after))
    (type : TypeId) : Program.Leaves type session.program after.program := by
  obtain ⟨-, ways⟩ := Session.injectsArgument_of_injectArgument injects
  cases ways with
  | type named declares =>
      subst declares
      exact (Program.leaves_newType _).trans (Program.leaves_declareArgument _ _ _ _ _)
  | template named declares =>
      subst declares
      exact Program.leaves_declareArgument _ _ _ _ _
  | nonType named folded declares =>
      subst declares
      exact Program.leaves_declareArgument _ _ _ _ _

theorem isQuiet_injectArgument (context : DeclContext) (name : String) (kind : ParameterKind)
    (argument : TemplateArgument) :
    IsQuiet (σ := σ) (injectArgument context name kind argument) := by
  apply isQuiet_bind (isQuiet_logAll _)
  intro _ before
  apply reaches_bind reaches_session
  rintro _ start ⟨rfl, rfl⟩
  cases injects : start.session.injectArgument context name kind argument with
  | error cause => exact Compilation.Quiet.refl start
  | ok result =>
      obtain ⟨symbol, after⟩ := result
      exact ⟨rfl, leaves_injectArgument injects⟩

theorem isQuiet_injectDeductions (context : DeclContext) (parameters : List TemplateParameter)
    (deductions : List Deduction) :
    IsQuiet (σ := σ) (injectDeductions context parameters deductions) := by
  induction deductions with
  | nil => exact isQuiet_pure ()
  | cons deduction rest ih =>
      unfold injectDeductions
      split
      · apply isQuiet_bind isQuiet_program
        intro read
        apply isQuiet_bind (isQuiet_ofExcept _)
        intro name
        apply isQuiet_bind (isQuiet_injectArgument _ _ _ _)
        intro _
        exact ih
      · exact isQuiet_throw _

theorem isQuiet_injectArguments (context : DeclContext)
    (pairs : List (TemplateParameter × TemplateArgument)) :
    IsQuiet (σ := σ) (injectArguments context pairs) := by
  induction pairs with
  | nil => exact isQuiet_pure ()
  | cons pair rest ih =>
      apply isQuiet_bind isQuiet_program
      intro read
      apply isQuiet_bind (isQuiet_injectArgument _ _ _ _)
      intro _
      exact ih

theorem isQuiet_instantiationContext (entry : SymbolId)
    (parameters : Option (List TemplateParameter)) :
    IsQuiet (σ := σ) (instantiationContext entry parameters) := by
  apply isQuiet_bind isQuiet_session
  intro read
  split
  · apply isQuiet_bind isQuiet_program
    intro read
    exact isQuiet_throw _
  · dsimp only
    split
    · apply isQuiet_bind (isQuiet_debug _)
      intro _
      apply isQuiet_bind isQuiet_program
      intro read
      apply isQuiet_bind
      · apply isQuiet_onProgram
        intro type program
        exact Program.leaves_withScopes (ScopeTree.Lists.createChild _ _ _ _)
      · intro context
        apply isQuiet_bind (isQuiet_injectArguments _ _)
        intro _
        exact isQuiet_pure context
    · exact isQuiet_throw _

section Brackets

variable {work : Activity σ α} {before : Compilation σ} {returns : α → Compilation σ → Prop}
variable {fails : Compilation σ → Prop}

/-- What holds of the work of an instantiation holds of the instantiation, as far as entering and
leaving it do not matter. -/
theorem reaches_within {entity : SymbolId} {location : Location}
    (quietReturns : ∀ result after later, returns result after → after.Quiet later →
      returns result later)
    (quietFails : ∀ after later, fails after → after.Quiet later → fails later)
    (refuses : fails before)
    (works : ∀ entered : Compilation σ, entered.analyzerState = before.analyzerState →
      entered.session.program = before.session.program → work.Reaches entered returns fails) :
    (within entity location work).Reaches before returns fails := by
  simp only [Reaches, within]
  cases enters : before.session.enter entity location with
  | error cause => exact refuses
  | ok entered =>
      have sameProgram : entered.program = before.session.program := by
        unfold Session.enter at enters
        split at enters <;> cases enters
        rfl
      have atWork := works { before with session := entered } rfl sameProgram
      unfold Reaches at atWork
      cases atEnd : work { before with session := entered } with
      | ok result after =>
          rw [atEnd] at atWork
          simp only [atEnd]
          exact quietReturns result after _ atWork (.of_same rfl rfl)
      | error cause after =>
          rw [atEnd] at atWork
          simp only [atEnd]
          exact quietFails after _ atWork (.of_same rfl rfl)

theorem reaches_withSwitch {switch : Switch}
    (quietReturns : ∀ result after later, returns result after → after.Quiet later →
      returns result later)
    (quietFails : ∀ after later, fails after → after.Quiet later → fails later)
    (works : ∀ turned, before.Quiet turned → work.Reaches turned returns fails) :
    (withSwitch switch work).Reaches before returns fails := by
  have sameProgram : (before.session.turn switch).program = before.session.program := by
    cases switch <;> rfl
  have putBack : ∀ after : Compilation σ,
      after.Quiet (after.mapSession (·.putBack before.session switch)) := by
    intro after
    have sameLater : (after.session.putBack before.session switch).program =
        after.session.program := by
      cases switch <;> rfl
    exact ⟨rfl, (Compilation.Quiet.of_same rfl sameLater :
      after.Quiet { after with session := after.session.putBack before.session switch }).leaves⟩
  have atWork := works (before.mapSession (·.turn switch)) (.of_same rfl sameProgram)
  unfold Reaches at atWork
  simp only [Reaches, withSwitch]
  cases atEnd : work (before.mapSession (·.turn switch)) with
  | ok result after =>
      rw [atEnd] at atWork
      exact quietReturns result after _ atWork (putBack after)
  | error cause after =>
      rw [atEnd] at atWork
      exact quietFails after _ atWork (putBack after)

end Brackets

/-- A quiet activity leads from anything that quiet changes do not touch to the same. -/
theorem IsQuiet.reaches {activity : Activity σ α} (isQuiet : activity.IsQuiet)
    {holds fails : Compilation σ → Prop}
    (quietHolds : ∀ after later, holds after → after.Quiet later → holds later)
    (givesUp : ∀ after, holds after → fails after) {before : Compilation σ}
    (atStart : holds before) : activity.Reaches before (fun _ => holds) fails := by
  apply reaches_mono (isQuiet before)
  · intro _ after quiet
    exact quietHolds before after atStart quiet
  · intro after quiet
    exact givesUp after (quietHolds before after atStart quiet)

section FillClass

variable {analyzer : Analyzer σ} {perform : Request → Activity σ Unit} {request : Request}
variable {entry : SymbolId} {classType template : TypeId} {before : Compilation σ}

/-- The contract of preparing a class.  As long as no context is opened `unopened` holds, then
`opened` until the bases are recorded, and then `based`. -/
theorem reaches_prepareClass (unopened : Compilation σ → Prop)
    (opened based : DeclContext → Compilation σ → Prop) {fails : Compilation σ → Prop}
    (quietUnopened : ∀ after later, unopened after → after.Quiet later → unopened later)
    (quietOpened : ∀ inner after later, opened inner after → after.Quiet later →
      opened inner later)
    (givesUpUnopened : ∀ after, unopened after → fails after)
    (givesUpOpened : ∀ inner after, opened inner after → fails after)
    (solves : (solveClass analyzer perform request entry template).Reaches before
      (fun _ => unopened) fails)
    (opens : ∀ after, unopened after →
      opened (after.session.program.openInstance entry classType).1.2
        (after.withProgram (after.session.program.openInstance entry classType).2))
    (bases : ∀ clause inner after, opened inner after →
      (buildBases analyzer perform clause classType inner).Reaches after (fun _ => based inner)
        fails) :
    (prepareClass analyzer perform request entry classType template).Reaches before
      (fun prepared => based prepared.inner) fails := by
  apply reaches_bind solves
  intro solution solved atSolved
  apply reaches_bind (isQuiet_session.reaches quietUnopened givesUpUnopened atSolved)
  intro read solved atSolved
  split
  · apply reaches_bind (isQuiet_program.reaches quietUnopened givesUpUnopened atSolved)
    intro read solved atSolved
    exact givesUpUnopened solved atSolved
  · apply reaches_bind ((isQuiet_onTree _).reaches quietUnopened givesUpUnopened atSolved)
    intro copies copied atCopied
    apply reaches_bind (isQuiet_program.reaches quietUnopened givesUpUnopened atCopied)
    intro read copied atCopied
    have opening : (onProgram (·.openInstance entry classType)).Reaches copied
        (fun contexts => opened contexts.2) fails := opens copied atCopied
    apply reaches_bind opening
    intro contexts after atOpened
    apply reaches_bind
      ((isQuiet_debug _).reaches (quietOpened contexts.2) (givesUpOpened contexts.2) atOpened)
    intro _ after atOpened
    apply reaches_bind ((isQuiet_injectDeductions _ _ _).reaches (quietOpened contexts.2)
      (givesUpOpened contexts.2) atOpened)
    intro _ after atOpened
    apply reaches_bind
      ((isQuiet_debug _).reaches (quietOpened contexts.2) (givesUpOpened contexts.2) atOpened)
    intro _ after atOpened
    apply reaches_bind (bases _ contexts.2 after atOpened)
    intro _ after atBased
    exact atBased

/-- The contract of completing a class: `completed` holds from the completion on. -/
theorem reaches_completeClass {prepared : PreparedClass} {completed fails : Compilation σ → Prop}
    (quietCompleted : ∀ after later, completed after → after.Quiet later → completed later)
    (givesUpCompleted : ∀ after, completed after → fails after)
    (members : (buildMembers analyzer perform prepared.members classType prepared.inner).Reaches
      (before.withProgram (before.session.program.completeInstance entry classType prepared.inner))
      (fun _ => completed) fails)
    (finishes : ∀ after, completed after →
      ((analyzer.finishClass classType prepared.declaredIn request.location).run perform).Reaches
        after (fun _ => completed) fails) :
    (completeClass analyzer perform request entry classType prepared).Reaches before
      (fun _ => completed) fails := by
  have completing :
      (modifyProgram (·.completeInstance entry classType prepared.inner)).Reaches before
        (fun _ => (· = before.withProgram
          (before.session.program.completeInstance entry classType prepared.inner))) fails := rfl
  apply reaches_bind completing
  intro _ marked atMarked
  subst atMarked
  apply reaches_bind members
  intro _ after atCompleted
  apply reaches_bind ((isQuiet_define _).reaches quietCompleted givesUpCompleted atCompleted)
  intro _ after atCompleted
  apply reaches_bind (finishes after atCompleted)
  intro _ after atCompleted
  apply reaches_bind ((isQuiet_record _ _).reaches quietCompleted givesUpCompleted atCompleted)
  intro _ after atCompleted
  exact quietCompleted after _ atCompleted (.of_same rfl rfl)

theorem reaches_fillClass (unopened : Compilation σ → Prop)
    (opened based completed : DeclContext → Compilation σ → Prop) {fails : Compilation σ → Prop}
    (quietUnopened : ∀ after later, unopened after → after.Quiet later → unopened later)
    (quietOpened : ∀ inner after later, opened inner after → after.Quiet later →
      opened inner later)
    (quietCompleted : ∀ inner after later, completed inner after → after.Quiet later →
      completed inner later)
    (givesUpUnopened : ∀ after, unopened after → fails after)
    (givesUpOpened : ∀ inner after, opened inner after → fails after)
    (givesUpCompleted : ∀ inner after, completed inner after → fails after)
    (solves : (solveClass analyzer perform request entry template).Reaches before
      (fun _ => unopened) fails)
    (opens : ∀ after, unopened after →
      opened (after.session.program.openInstance entry classType).1.2
        (after.withProgram (after.session.program.openInstance entry classType).2))
    (bases : ∀ clause inner after, opened inner after →
      (buildBases analyzer perform clause classType inner).Reaches after (fun _ => based inner)
        fails)
    (members : ∀ list inner after, based inner after →
      (buildMembers analyzer perform list classType inner).Reaches
        (after.withProgram (after.session.program.completeInstance entry classType inner))
        (fun _ => completed inner) fails)
    (finishes : ∀ context inner after, completed inner after →
      ((analyzer.finishClass classType context request.location).run perform).Reaches after
        (fun _ => completed inner) fails) :
    (fillClass analyzer perform request entry classType template).Reaches before
      (fun _ after => ∃ inner, completed inner after) fails := by
  apply reaches_bind (reaches_prepareClass unopened opened based quietUnopened quietOpened
    givesUpUnopened givesUpOpened solves opens bases)
  intro prepared after atBased
  apply reaches_mono (reaches_completeClass (quietCompleted prepared.inner)
    (givesUpCompleted prepared.inner) (members prepared.members prepared.inner after atBased)
    (finishes prepared.declaredIn prepared.inner))
  · exact fun _ _ atCompleted => ⟨prepared.inner, atCompleted⟩
  · exact fun _ failed => failed

end FillClass

end Activity

end CppTemplates
