import Mathlib.Data.List.Induction
import CppTemplates.Proofs.Instantiation.Dialogue
import CppTemplates.Proofs.Instantiation.Erasure
import CppTemplates.Proofs.Instantiation.Watching

/-!
# The history of a run

The analyzer can write down what happens in a run: what it changes, when it turns a switch, what
it requests, and when it is called and replies.  With each event it notes the session and what is
still going on at that moment, innermost first.  The engine does not show itself in between, but
what it does there is determined: it takes its turns in the dialogue about the innermost request.
-/

namespace CppTemplates

/-- A request that is being carried out. -/
structure Pending where
  request : Request
  /-- The session in which the request was made. -/
  asked : Session
  /-- The callbacks that have ended. -/
  calls : List Call := []
  /-- The callback that has not ended, with the session at its beginning. -/
  current : Option (Callback × Session) := none

namespace Pending

variable (pending : Pending)

def latest : Session :=
  match pending.calls.getLast? with
  | some call => call.ended
  | none => pending.asked

def busy (callback : Callback) (called : Session) : Pending :=
  { pending with current := some (callback, called) }

def idle (call : Call) : Pending :=
  { pending with calls := pending.calls ++ [call], current := none }

/-- Whether the instantiation has been entered, which it is before the first callback. -/
def isEntered : Bool :=
  !pending.calls.isEmpty || pending.current.isSome

theorem latest_of_calls_nil (noCalls : pending.calls = []) : pending.latest = pending.asked := by
  simp [latest, noCalls]

theorem latest_of_calls {earlier : List Call} {last : Call}
    (calls : pending.calls = earlier ++ [last]) : pending.latest = last.ended := by
  simp [latest, calls]

theorem isEntered_of_calls {earlier : List Call} {last : Call}
    (calls : pending.calls = earlier ++ [last]) : pending.isEntered = true := by
  simp [isEntered, calls]

theorem isEntered_of_current {callback : Callback} {called : Session}
    (isBusy : pending.current = some (callback, called)) : pending.isEntered = true := by
  simp [isEntered, isBusy]

@[simp]
theorem isEntered_busy (callback : Callback) (called : Session) :
    (pending.busy callback called).isEntered = true := by
  simp [isEntered, busy]

@[simp]
theorem isEntered_idle (call : Call) : (pending.idle call).isEntered = true := by
  simp [isEntered, idle]

@[simp]
theorem latest_idle (call : Call) : (pending.idle call).latest = call.ended := by
  simp [latest, idle]

end Pending

/-- Something that goes on: a request that is being carried out, or work for which a switch is
turned. -/
inductive Frame where
  | request (pending : Pending)
  /-- Work with a switch turned, and the session from before. -/
  | switch (switch : Switch) (saved : Session)

/-- What can happen in a run. -/
inductive Event where
  | updated
  | turned (switch : Switch)
  | restored (switch : Switch)
  | asked (request : Request)
  | called (callback : Callback)
  | replied (reply : Reply)
  | answered (pending : Pending) (outcome : Except InstantiationError Unit)

/-- An event, with what goes on and the session right after it. -/
structure Moment where
  event : Event
  stack : List Frame
  session : Session

/-- What can happen next, if the analyzer changes programs only as allowed. -/
inductive Step (allowed : Program → Program → Prop) :
    List Frame → Session → Event → List Frame → Session → Prop
  | updated {stack : List Frame} {before : Session} {program : Program} {tree : SyntaxTree}
      (isAllowed : allowed before.program program) :
      Step allowed stack before .updated stack { before with program, tree }
  | turned {stack : List Frame} {before : Session} (switch : Switch) :
      Step allowed stack before (.turned switch) (.switch switch before :: stack)
        (before.turn switch)
  | restored {switch : Switch} {saved before : Session} {rest : List Frame} :
      Step allowed (.switch switch saved :: rest) before (.restored switch) rest
        (before.putBack saved switch)
  | asked {stack : List Frame} {before : Session} (request : Request) :
      Step allowed stack before (.asked request) (.request { request, asked := before } :: stack)
        before
  | called {pending : Pending} {rest : List Frame} {callback : Callback} {called : Session}
      {stage : Stage} (isIdle : pending.current = none)
      (turn : Dialogue pending.request pending.asked pending.calls
        (.call callback called stage)) :
      Step allowed (.request pending :: rest) pending.latest (.called callback)
        (.request (pending.busy callback called) :: rest) called
  | replied {pending : Pending} {rest : List Frame} {callback : Callback} {called : Session}
      (isBusy : pending.current = some (callback, called)) (reply : Reply) (ended : Session) :
      Step allowed (.request pending :: rest) ended (.replied reply)
        (.request (pending.idle ⟨callback, called, reply, ended⟩) :: rest) ended
  | answered {pending : Pending} {rest : List Frame} {outcome : Except InstantiationError Unit}
      {after : Session} (isIdle : pending.current = none)
      (turn : Dialogue pending.request pending.asked pending.calls (.answer outcome after)) :
      Step allowed (.request pending :: rest) pending.latest (.answered pending outcome) rest after

theorem Step.mono {allowed more : Program → Program → Prop}
    (weaker : ∀ before after, allowed before after → more before after)
    {stack later : List Frame} {before after : Session} {event : Event}
    (step : Step allowed stack before event later after) :
    Step more stack before event later after := by
  cases step with
  | updated isAllowed => exact .updated (weaker _ _ isAllowed)
  | turned switch => exact .turned switch
  | restored => exact .restored
  | asked request => exact .asked request
  | called isIdle turn => exact .called isIdle turn
  | replied isBusy reply => exact .replied isBusy reply _
  | answered isIdle turn => exact .answered isIdle turn

def lastSession (start : Session) (moments : List Moment) : Session :=
  (moments.getLast?.map (·.session)).getD start

/-- Steps lead from a session in which nothing goes on through some moments. -/
inductive Path (allowed : Program → Program → Prop) (start : Session) :
    List Moment → List Frame → Session → Prop
  | start : Path allowed start [] [] start
  | step {moments : List Moment} {stack later : List Frame} {before after : Session}
      {event : Event} (path : Path allowed start moments stack before)
      (step : Step allowed stack before event later after) :
      Path allowed start (moments ++ [⟨event, later, after⟩]) later after

namespace Path

variable {allowed : Program → Program → Prop} {start : Session} {moments : List Moment}
variable {stack : List Frame} {session : Session}

theorem eq_lastSession (path : Path allowed start moments stack session) :
    session = lastSession start moments := by
  cases path with
  | start => rfl
  | step => simp [lastSession]

theorem exists_step (path : Path allowed start moments stack session) {moment : Moment}
    (member : moment ∈ moments) :
    ∃ earlier stack before, Path allowed start earlier stack before ∧
      Step allowed stack before moment.event moment.stack moment.session := by
  induction path with
  | start => cases member
  | step path step ih =>
      rcases List.mem_append.mp member with old | new
      · exact ih old
      · rw [List.mem_singleton] at new
        subst new
        exact ⟨_, _, _, path, step⟩

theorem snoc_inv {moment : Moment}
    (path : Path allowed start (moments ++ [moment]) stack session) :
    moment.stack = stack ∧ moment.session = session ∧
      ∃ earlierStack before, Path allowed start moments earlierStack before ∧
        Step allowed earlierStack before moment.event stack session := by
  generalize isPath : moments ++ [moment] = all at path
  cases path with
  | start => simp at isPath
  | step path step =>
      obtain ⟨rfl, same⟩ := List.append_inj' isPath rfl
      cases same
      exact ⟨rfl, rfl, _, _, path, step⟩

theorem exists_of_append {later : List Moment}
    (path : Path allowed start (moments ++ later) stack session) :
    ∃ stack session, Path allowed start moments stack session := by
  induction later using List.reverseRecOn generalizing stack session with
  | nil =>
      rw [List.append_nil] at path
      exact ⟨stack, session, path⟩
  | append_singleton later last ih =>
      rw [← List.append_assoc] at path
      obtain ⟨-, -, _, _, pathBefore, -⟩ := path.snoc_inv
      exact ih pathBefore

theorem exists_step_of_append {moment : Moment} {later : List Moment}
    (path : Path allowed start (moments ++ moment :: later) stack session) :
    ∃ earlierStack before, Path allowed start moments earlierStack before ∧
      Step allowed earlierStack before moment.event moment.stack moment.session := by
  rw [← List.singleton_append, ← List.append_assoc] at path
  obtain ⟨_, _, pathHere⟩ := path.exists_of_append
  obtain ⟨rfl, rfl, earlierStack, before, pathBefore, step⟩ := pathHere.snoc_inv
  exact ⟨earlierStack, before, pathBefore, step⟩

/-- What holds at a moment holds from there on, if every step keeps it. -/
theorem persists {holds : Session → Prop} {earlier later : List Moment} {first : Moment}
    (path : Path allowed start (earlier ++ first :: later) stack session)
    (atFirst : holds first.session)
    (keeps : ∀ moments stack before, ∀ moment ∈ later, Path allowed start moments stack before →
      Step allowed stack before moment.event moment.stack moment.session → holds before →
        holds moment.session) :
    holds session ∧ ∀ moment ∈ later, holds moment.session := by
  induction later using List.reverseRecOn generalizing stack session with
  | nil =>
      obtain ⟨-, rfl, -⟩ := path.snoc_inv
      exact ⟨atFirst, fun _ member => nomatch member⟩
  | append_singleton later last ih =>
      rw [← List.cons_append, ← List.append_assoc] at path
      obtain ⟨rfl, rfl, earlierStack, before, pathBefore, step⟩ := path.snoc_inv
      obtain ⟨holdsBefore, holdsEarlier⟩ := ih pathBefore
        fun moments stack before moment member =>
          keeps moments stack before moment (List.mem_append_left _ member)
      have holdsLast := keeps _ _ _ last (by simp) pathBefore step holdsBefore
      refine ⟨holdsLast, fun moment member => ?_⟩
      rcases List.mem_append.mp member with old | new
      · exact holdsEarlier moment old
      · rw [List.mem_singleton] at new
        subst new
        exact holdsLast

end Path

/-- What is noted of a run so far. -/
structure History where
  stack : List Frame := []
  moments : List Moment := []

namespace History

variable (history : History)

def note (event : Event) (stack : List Frame) (session : Session) : History where
  stack
  moments := history.moments ++ [⟨event, stack, session⟩]

def noteUpdate (session : Session) : History :=
  history.note .updated history.stack session

def noteTurn (switch : Switch) (saved session : Session) : History :=
  history.note (.turned switch) (.switch switch saved :: history.stack) session

def noteRestored (switch : Switch) (session : Session) : History :=
  history.note (.restored switch) history.stack.tail session

def noteRequest (request : Request) (session : Session) : History :=
  history.note (.asked request) (.request { request, asked := session } :: history.stack) session

def noteCallback (callback : Callback) (session : Session) : History :=
  match history.stack with
  | .request pending :: rest =>
      history.note (.called callback) (.request (pending.busy callback session) :: rest) session
  | _ => history

def noteReply (reply : Reply) (session : Session) : History :=
  match history.stack with
  | .request pending :: rest =>
      match pending.current with
      | some (callback, called) =>
          history.note (.replied reply)
            (.request (pending.idle ⟨callback, called, reply, session⟩) :: rest) session
      | none => history
  | _ => history

def noteAnswer (outcome : Except InstantiationError Unit) (session : Session) : History :=
  match history.stack with
  | .request pending :: rest => history.note (.answered pending outcome) rest session
  | _ => history

end History

namespace Compilation

variable {σ : Type}

def withHistory (compilation : Compilation σ) (history : History) :
    Compilation (σ × History) where
  session := compilation.session
  analyzerState := (compilation.analyzerState, history)
  journal := compilation.journal

def history (compilation : Compilation (σ × History)) : History :=
  compilation.analyzerState.2

/-- Continues the history in view of the session. -/
def write (change : History → Session → History) (compilation : Compilation (σ × History)) :
    Compilation (σ × History) :=
  compilation.unlogged.withHistory (change compilation.history compilation.session)

end Compilation

variable {σ α : Type}

namespace Action

/-- An action that writes down what it does and what its requests lead to. -/
def recorded (close : History → Except InstantiationError α → Session → History) :
    Action σ α → Action (σ × History) α
  | .done outcome => .update (·.write fun history => close history outcome) (.done outcome)
  | .update change next =>
      .update (fun compilation => (change compilation.unlogged).withHistory compilation.history)
        (.update (·.write History.noteUpdate) (next.recorded close))
  | .inspect next => .inspect fun compilation => (next compilation.unlogged).recorded close
  | .instantiate request next =>
      .update (·.write fun history => history.noteRequest request)
        (.instantiate request fun outcome =>
          .update (·.write fun history => history.noteAnswer outcome)
            ((next outcome).recorded close))
  | .withSwitch switch work next =>
      .inspect fun saved =>
        .withSwitch switch
          (.update (·.write fun history => history.noteTurn switch saved.session)
            (work.recorded fun history _ _ => history))
          fun outcome =>
            .update (·.write fun history => history.noteRestored switch)
              ((next outcome).recorded close)

/-- An action that writes down that it is a callback. -/
def asCallback (callback : Callback) (solution : α → Option Solution) (action : Action σ α) :
    Action (σ × History) α :=
  .update (·.write fun history => history.noteCallback callback)
    (action.recorded fun history outcome => history.noteReply (outcome.map solution))

end Action

/-- An analyzer that writes down what happens. -/
def Analyzer.recorded (analyzer : Analyzer σ) : Analyzer (σ × History) where
  solveClassTemplate context template requested location :=
    (analyzer.solveClassTemplate context template requested location).asCallback
      (.solveClassTemplate context template requested location) id
  buildBaseClause clause type context :=
    (analyzer.buildBaseClause clause type context).asCallback
      (.buildBaseClause clause type context) fun _ => none
  buildMembers members type context :=
    (analyzer.buildMembers members type context).asCallback
      (.buildMembers members type context) fun _ => none
  buildFunction definition context :=
    (analyzer.buildFunction definition context).asCallback
      (.buildFunction definition context) fun _ => none
  finishClass type context location :=
    (analyzer.finishClass type context location).asCallback
      (.finishClass type context location) fun _ => none

namespace Activity

/-- The run of an action that also writes its history. -/
def recordedRun (analyzer : Analyzer σ) (action : Action σ α) : Activity (σ × History) α :=
  act analyzer.recorded (action.recorded fun history _ _ => history)

def history (analyzer : Analyzer σ) (action : Action σ α) (before : Compilation σ) :
    List Moment :=
  ((recordedRun analyzer action).final (before.withHistory {})).history.moments

end Activity

theorem Action.recorded_logs (action : Action σ α)
    (close : History → Except InstantiationError α → Session → History) :
    (action.recorded close).Logs action := by
  induction action generalizing close with
  | done outcome => exact .note (fun _ => rfl) (.done outcome)
  | update change next ih => exact .update (fun _ => rfl) (.note (fun _ => rfl) (ih close))
  | inspect next ih => exact .inspect fun compilation => ih compilation.unlogged close
  | instantiate request next ih =>
      exact .note (fun _ => rfl) (.instantiate request fun outcome =>
        .note (fun _ => rfl) (ih outcome close))
  | withSwitch switch work next workIh nextIh =>
      exact .peek fun saved => .withSwitch switch (.note (fun _ => rfl) (workIh _)) fun outcome =>
        .note (fun _ => rfl) (nextIh outcome close)

theorem Action.asCallback_logs (action : Action σ α) (callback : Callback)
    (solution : α → Option Solution) : (action.asCallback callback solution).Logs action :=
  .note (fun _ => rfl) (Action.recorded_logs _ _)

theorem Analyzer.recorded_logs (analyzer : Analyzer σ) : analyzer.recorded.Logs analyzer where
  solveClassTemplate _ _ _ _ := Action.asCallback_logs _ _ _
  buildBaseClause _ _ _ := Action.asCallback_logs _ _ _
  buildMembers _ _ _ := Action.asCallback_logs _ _ _
  buildFunction _ _ := Action.asCallback_logs _ _ _
  finishClass _ _ _ := Action.asCallback_logs _ _ _

theorem Activity.Reflects.unlogged_final {ω : Type} {logged : Activity (σ × ω) α}
    {plain : Activity σ α} (reflects : logged.Reflects plain) (before : Compilation (σ × ω)) :
    (logged.final before).unlogged = plain.final before.unlogged := by
  unfold final
  rw [reflects before]
  cases logged before <;> rfl

/-- A run that writes its history does what the run does. -/
theorem Activity.recordedRun_reflects (analyzer : Analyzer σ) (action : Action σ α) :
    (recordedRun analyzer action).Reflects (act analyzer action) :=
  reflects_act analyzer.recorded_logs (action.recorded_logs _)

end CppTemplates
