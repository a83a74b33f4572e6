import CppTemplates.Proofs.Instantiation.Erasure
import CppTemplates.Proofs.Program.Completion

/-!
# Watching the analyzer

What an analyzer is asked to do in the course of a run can be read off a log that it keeps beside
its own state.  The log tells which member lists were built and in which context, which classes
were overtaken while their template was being selected or their base clause built, and which
requests for classes were answered.  Keeping it does not change the run.
-/

namespace CppTemplates

def contextsOf (built : List (TypeId × DeclContext)) (type : TypeId) : List DeclContext :=
  (built.filter (·.1 = type)).map (·.2)

/-- A request for a class that was carried out: the sessions before and after, and the member lists
that had been built by then. -/
structure Answer where
  request : Request
  asked : Session
  answered : Session
  built : List (TypeId × DeclContext)

/-- What is noted of a run. -/
structure BuildLog where
  /-- The classes whose members were built, with the contexts they were built in. -/
  built : List (TypeId × DeclContext) := []
  /-- The classes whose instantiation went on although another one had meanwhile built the members
  or put its own context on record. -/
  overtaken : List TypeId := []
  /-- The requests for classes that were carried out. -/
  answers : List Answer := []

namespace BuildLog

variable (log : BuildLog)

def noteMembers (type : TypeId) (contexts : List DeclContext) : BuildLog :=
  { log with built := log.built ++ contexts.map (type, ·) }

def noteOvertaken (type : TypeId) : BuildLog :=
  { log with overtaken := log.overtaken ++ [type] }

def noteAnswer (request : Request) (asked : Session) (outcome : Except InstantiationError Unit)
    (answered : Session) : BuildLog :=
  match request.kind, outcome with
  | .classTemplate, .ok _ =>
      { log with answers := log.answers ++ [⟨request, asked, answered, log.built⟩] }
  | _, _ => log

/-- Once a template is selected, the members of the class must not have been built. -/
def noteSolution (type : Option TypeId) (outcome : Except InstantiationError (Option Solution))
    (_ : Session) : BuildLog :=
  match type, outcome with
  | some type, .ok (some _) =>
      if contextsOf log.built type = [] then log else log.noteOvertaken type
  | _, _ => log

/-- Once the bases are recorded, the members of the class must not have been built, and the context
that was opened for it must still be on record. -/
def noteBases (type : TypeId) (context : DeclContext) (outcome : Except InstantiationError Unit)
    (session : Session) : BuildLog :=
  match outcome with
  | .ok _ =>
      if contextsOf log.built type = [] ∧ session.program.innerContext? type = some context then
        log
      else
        log.noteOvertaken type
  | .error _ => log

variable (type : TypeId)

theorem contextsOf_noteMembers (other : TypeId) (contexts : List DeclContext) :
    contextsOf (log.noteMembers other contexts).built type =
      contextsOf log.built type ++ if other = type then contexts else [] := by
  induction contexts with
  | nil => simp [contextsOf, noteMembers]
  | cons context rest ih =>
      by_cases same : other = type
      · simp_all [contextsOf, noteMembers]
      · simp_all [contextsOf, noteMembers]

theorem noteSolution_same (ofType : Option TypeId)
    (outcome : Except InstantiationError (Option Solution)) (session : Session) :
    (log.noteSolution ofType outcome session).built = log.built ∧
      (log.noteSolution ofType outcome session).answers = log.answers ∧
        (type ∈ log.overtaken → type ∈ (log.noteSolution ofType outcome session).overtaken) := by
  unfold noteSolution
  split
  · split
    · exact ⟨rfl, rfl, id⟩
    · exact ⟨rfl, rfl, List.mem_append_left _⟩
  · exact ⟨rfl, rfl, id⟩

theorem noteBases_same (ofType : TypeId) (context : DeclContext)
    (outcome : Except InstantiationError Unit) (session : Session) :
    (log.noteBases ofType context outcome session).built = log.built ∧
      (log.noteBases ofType context outcome session).answers = log.answers ∧
        (type ∈ log.overtaken →
          type ∈ (log.noteBases ofType context outcome session).overtaken) := by
  unfold noteBases
  split
  · split
    · exact ⟨rfl, rfl, id⟩
    · exact ⟨rfl, rfl, List.mem_append_left _⟩
  · exact ⟨rfl, rfl, id⟩

variable {log} {type} {session : Session}

theorem unbuilt_of_noteSolution {solution : Solution}
    (notOvertaken : type ∉ (log.noteSolution (some type) (.ok (some solution)) session).overtaken) :
    contextsOf log.built type = [] := by
  apply Decidable.byContradiction
  intro isBuilt
  apply notOvertaken
  simp only [noteSolution, if_neg isBuilt, noteOvertaken]
  exact List.mem_append_right _ List.mem_cons_self

theorem unbuilt_of_noteBases {context : DeclContext}
    (notOvertaken : type ∉ (log.noteBases type context (.ok ()) session).overtaken) :
    contextsOf log.built type = [] ∧ session.program.innerContext? type = some context := by
  apply Decidable.byContradiction
  intro overtaken
  apply notOvertaken
  simp only [noteBases, if_neg overtaken, noteOvertaken]
  exact List.mem_append_right _ List.mem_cons_self

end BuildLog

namespace Compilation

variable {σ : Type}

def unwatched (compilation : Compilation (σ × BuildLog)) : Compilation σ where
  session := compilation.session
  analyzerState := compilation.analyzerState.1
  journal := compilation.journal

def watched (compilation : Compilation σ) (log : BuildLog) : Compilation (σ × BuildLog) where
  session := compilation.session
  analyzerState := (compilation.analyzerState, log)
  journal := compilation.journal

def log (compilation : Compilation (σ × BuildLog)) : BuildLog :=
  compilation.analyzerState.2

/-- Changes the log in view of the session. -/
def note (change : BuildLog → Session → BuildLog) (compilation : Compilation (σ × BuildLog)) :
    Compilation (σ × BuildLog) :=
  compilation.unwatched.watched (change compilation.log compilation.session)

theorem note_eq_self {change : BuildLog → Session → BuildLog}
    {compilation : Compilation (σ × BuildLog)}
    (unchanged : change compilation.log compilation.session = compilation.log) :
    compilation.note change = compilation := by
  unfold note
  rw [unchanged]
  rfl

end Compilation

variable {σ α : Type}

/-- An action that notes its own end and what it requests. -/
def Action.watched (close : BuildLog → Except InstantiationError α → Session → BuildLog) :
    Action σ α → Action (σ × BuildLog) α
  | .done outcome => .update (·.note fun log => close log outcome) (.done outcome)
  | .update change next =>
      .update (fun compilation => (change compilation.unwatched).watched compilation.log)
        (next.watched close)
  | .inspect next => .inspect fun compilation => (next compilation.unwatched).watched close
  | .instantiate request next =>
      .inspect fun asked =>
        .instantiate request fun outcome =>
          .update (·.note fun log => log.noteAnswer request asked.session outcome)
            ((next outcome).watched close)
  | .withSwitch switch work next =>
      .withSwitch switch (work.watched fun log _ _ => log) fun outcome =>
        (next outcome).watched close

/-- An analyzer that notes what it is asked to do. -/
def Analyzer.watched (analyzer : Analyzer σ) : Analyzer (σ × BuildLog) where
  solveClassTemplate context template requested location :=
    .inspect fun compilation =>
      (analyzer.solveClassTemplate context template requested location).watched
        fun log => log.noteSolution (compilation.session.program.classOf? requested)
  buildBaseClause clause type context :=
    (analyzer.buildBaseClause clause type context).watched fun log => log.noteBases type context
  buildMembers members type context :=
    .update (·.note fun log _ => log.noteMembers type [context])
      ((analyzer.buildMembers members type context).watched fun log _ _ => log)
  buildFunction definition context :=
    (analyzer.buildFunction definition context).watched fun log _ _ => log
  finishClass type context location :=
    (analyzer.finishClass type context location).watched fun log _ _ => log

namespace Activity

def final (activity : Activity σ α) (before : Compilation σ) : Compilation σ :=
  match activity before with
  | .ok _ after => after
  | .error _ after => after

/-- What is noted of the run of an action from the start on. -/
def buildLog (analyzer : Analyzer σ) (action : Action σ α) (before : Compilation σ) : BuildLog :=
  ((act analyzer.watched (action.watched fun log _ _ => log)).final (before.watched {})).log

/-- A watched activity does what the plain one does. -/
def Erases (watched : Activity (σ × BuildLog) α) (plain : Activity σ α) : Prop :=
  ∀ before, plain before.unwatched =
    match watched before with
    | .ok result after => .ok result after.unwatched
    | .error cause after => .error cause after.unwatched

end Activity

/-- A watched action only keeps a log beyond what it does anyway. -/
theorem Action.watched_logs (action : Action σ α)
    (close : BuildLog → Except InstantiationError α → Session → BuildLog) :
    (action.watched close).Logs action := by
  induction action generalizing close with
  | done outcome => exact .note (fun _ => rfl) (.done outcome)
  | update change next ih => exact .update (fun _ => rfl) (ih close)
  | inspect next ih => exact .inspect fun compilation => ih compilation.unlogged close
  | instantiate request next ih =>
      exact .peek fun asked => .instantiate request fun outcome =>
        .note (fun _ => rfl) (ih outcome close)
  | withSwitch switch work next workIh nextIh =>
      exact .withSwitch switch (workIh _) fun outcome => nextIh outcome close

theorem Analyzer.watched_logs (analyzer : Analyzer σ) : analyzer.watched.Logs analyzer where
  solveClassTemplate _ _ _ _ := .peek fun _ => Action.watched_logs _ _
  buildBaseClause _ _ _ := Action.watched_logs _ _
  buildMembers _ _ _ := .note (fun _ => rfl) (Action.watched_logs _ _)
  buildFunction _ _ := Action.watched_logs _ _
  finishClass _ _ _ := Action.watched_logs _ _

namespace Activity

theorem erases_act (analyzer : Analyzer σ) (action : Action σ α)
    (close : BuildLog → Except InstantiationError α → Session → BuildLog) :
    Erases (act analyzer.watched (action.watched close)) (act analyzer action) := by
  intro before
  refine (reflects_act analyzer.watched_logs (action.watched_logs close) before).trans ?_
  cases act analyzer.watched (action.watched close) before with
  | ok result after => rfl
  | error cause after => rfl

end Activity

end CppTemplates
