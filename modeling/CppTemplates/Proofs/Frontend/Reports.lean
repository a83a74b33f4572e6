import Mathlib.Data.List.DropRight
import Mathlib.Data.List.Forall2
import Mathlib.Data.List.Induction
import CppTemplates.Frontend
import CppTemplates.Proofs.Instantiation.Discipline

/-!
# What the front end reports

A run of a front end is a sequence of calls of its user.  Each call is answered by folding or by
instantiation alone, and leaves their session.  Beside that, the front end keeps account of the
calls that failed: a diagnostic for each, in their order, until the diagnostics are handed over.
What goes wrong within a call and does not make it fail is not on the account.
-/

namespace CppTemplates

/-- What the user of a front end does. -/
inductive FrontendCall where
  | evaluate (context : DeclContext) (expression : NodeId)
  | instantiate (request : Request)
  | takeDiagnostics
  /-- The user changes the session, to declare entities. -/
  | declare (change : Session → Session)

inductive FrontendAnswer where
  | value (outcome : Except EvaluationError Value)
  | instantiated (outcome : Except InstantiationError Unit)
  | handedOver (diagnostics : List Diagnostic)
  | declared

structure FrontendEvent (σ : Type) where
  call : FrontendCall
  before : Compilation σ
  answer : FrontendAnswer
  after : Compilation σ

variable {σ : Type}

namespace Frontend

variable (frontend : Frontend σ)

def answer : FrontendCall → FrontendAnswer × Frontend σ
  | .evaluate context expression =>
      let (outcome, next) := frontend.evaluateConstantExpression context expression
      (.value outcome, next)
  | .instantiate request =>
      let (outcome, next) := frontend.instantiate request
      (.instantiated outcome, next)
  | .takeDiagnostics =>
      let (diagnostics, next) := frontend.takeDiagnostics
      (.handedOver diagnostics, next)
  | .declare change =>
      (.declared, { frontend with compilation := frontend.compilation.mapSession change })

def event (call : FrontendCall) : FrontendEvent σ where
  call
  before := frontend.compilation
  answer := (frontend.answer call).1
  after := (frontend.answer call).2.compilation

/-- Answers calls one after the other. -/
def run (calls : List FrontendCall) : List (FrontendEvent σ) × Frontend σ :=
  calls.foldl (fun reached call =>
    (reached.1 ++ [reached.2.event call], (reached.2.answer call).2)) ([], frontend)

theorem run_concat (calls : List FrontendCall) (call : FrontendCall) :
    frontend.run (calls ++ [call]) =
      ((frontend.run calls).1 ++ [(frontend.run calls).2.event call],
        ((frontend.run calls).2.answer call).2) := by
  simp [run]

end Frontend

namespace FrontendEvent

def isHandover (event : FrontendEvent σ) : Bool :=
  match event.call with
  | .takeDiagnostics => true
  | _ => false

def isFailure (event : FrontendEvent σ) : Bool :=
  match event.answer with
  | .value (.error _) | .instantiated (.error _) => true
  | _ => false

/-- The diagnostics that the user got. -/
def received (event : FrontendEvent σ) : List Diagnostic :=
  match event.answer with
  | .handedOver diagnostics => diagnostics
  | _ => []

/-- The call did what folding or instantiation does.  The journal aside, it has left what they
leave. -/
def IsPlain (analyzer : Analyzer σ) (event : FrontendEvent σ) : Prop :=
  match event.call with
  | .evaluate context expression =>
      event.answer = .value (evaluate event.before.session.tree event.before.session.program
        context expression) ∧
      event.after = { event.before with journal := event.after.journal }
  | .instantiate request =>
      match Activity.perform analyzer request event.before with
      | .ok _ after => event.answer = .instantiated (.ok ()) ∧ event.after = after
      | .error cause after =>
          event.answer = .instantiated (.error cause) ∧
          event.after = { after with journal := event.after.journal }
  | .takeDiagnostics => event.after = event.before
  | .declare change => event.after = event.before.mapSession change

end FrontendEvent

/-- A diagnostic reports a call that failed: with the severity of the error, with its message,
after which comes what the call was about if that is to be printed, and with the place from which an
instantiation was requested. -/
inductive Reports (printsContext : Bool) : FrontendEvent σ → Diagnostic → Prop
  | evaluation (context : DeclContext) (expression : NodeId) (before after : Compilation σ)
      (cause : EvaluationError) :
      Reports printsContext
        ⟨.evaluate context expression, before, .value (.error cause), after⟩
        { severity := cause.severity
          message := cause.message ++
            if printsContext then "\n  in '" ++ after.session.tree.display expression ++ "'" else ""
          location := none }
  | instantiation (request : Request) (before after : Compilation σ)
      (cause : InstantiationError) :
      Reports printsContext
        ⟨.instantiate request, before, .instantiated (.error cause), after⟩
        { severity := cause.severity
          message := cause.message ++
            if printsContext then
              "\n  while instantiating '" ++ after.session.program.symbolName request.entry ++ "'"
            else ""
          location := some request.location }

/-- What a call does to the account. -/
inductive Posts (printsContext : Bool) (event : FrontendEvent σ) :
    List Diagnostic → List Diagnostic → Prop
  | handover {posted : List Diagnostic} (handsOver : event.isHandover = true)
      (gets : event.answer = .handedOver posted) : Posts printsContext event posted []
  | failure {posted : List Diagnostic} {diagnostic : Diagnostic}
      (isOther : event.isHandover = false) (fails : event.isFailure = true)
      (reports : Reports printsContext event diagnostic) :
      Posts printsContext event posted (posted ++ [diagnostic])
  | quiet {posted : List Diagnostic} (isOther : event.isHandover = false)
      (succeeds : event.isFailure = false) (getsNone : event.received = []) :
      Posts printsContext event posted posted

namespace Frontend

variable (frontend : Frontend σ)

theorem withContext_eq (message context : String) :
    frontend.withContext message context =
      message ++ if frontend.configuration.printContext then "\n  " ++ context else "" := by
  unfold withContext
  split <;> simp [String.append_assoc]

theorem append_quotation {opening whole : String} (name : String)
    (isWhole : whole = "\n  " ++ opening) :
    "\n  " ++ (opening ++ name ++ "'") = whole ++ name ++ "'" := by
  rw [isWhole, String.append_assoc, String.append_assoc, String.append_assoc]

theorem settings_answer (call : FrontendCall) :
    (frontend.answer call).2.analyzer = frontend.analyzer ∧
      (frontend.answer call).2.configuration = frontend.configuration := by
  cases call with
  | evaluate context expression =>
      simp only [answer, evaluateConstantExpression]
      split <;> exact ⟨rfl, rfl⟩
  | instantiate request =>
      simp only [answer, instantiate]
      split <;> exact ⟨rfl, rfl⟩
  | _ => exact ⟨rfl, rfl⟩

theorem isPlain_event (call : FrontendCall) :
    (frontend.event call).IsPlain frontend.analyzer := by
  cases call with
  | evaluate context expression =>
      simp only [FrontendEvent.IsPlain, event, answer, evaluateConstantExpression]
      split
      · next value folds => exact ⟨by rw [folds], rfl⟩
      · next cause fails => exact ⟨by rw [fails], rfl⟩
  | instantiate request =>
      simp only [FrontendEvent.IsPlain, event, answer, instantiate]
      cases Activity.perform frontend.analyzer request frontend.compilation <;> exact ⟨rfl, rfl⟩
  | _ => rfl

theorem posts_evaluate (context : DeclContext) (expression : NodeId) :
    Posts frontend.configuration.printContext (frontend.event (.evaluate context expression))
      frontend.diagnostics (frontend.answer (.evaluate context expression)).2.diagnostics := by
  simp only [event, answer, evaluateConstantExpression]
  split
  · exact .quiet rfl rfl rfl
  · next cause fails =>
      refine .failure rfl rfl ?_
      rw [withContext_eq, append_quotation _ (rfl : "\n  in '" = _)]
      exact .evaluation context expression _ _ cause

theorem posts_instantiate (request : Request) :
    Posts frontend.configuration.printContext (frontend.event (.instantiate request))
      frontend.diagnostics (frontend.answer (.instantiate request)).2.diagnostics := by
  simp only [event, answer, instantiate]
  split
  · exact .quiet rfl rfl rfl
  · next cause after fails =>
      refine .failure rfl rfl ?_
      rw [withContext_eq, append_quotation _ (rfl : "\n  while instantiating '" = _)]
      exact .instantiation request _ _ cause

/-- A call that fails is posted, and diagnostics that are handed over are struck off. -/
theorem posts_answer (call : FrontendCall) :
    Posts frontend.configuration.printContext (frontend.event call) frontend.diagnostics
      (frontend.answer call).2.diagnostics := by
  cases call with
  | evaluate context expression => exact frontend.posts_evaluate context expression
  | instantiate request => exact frontend.posts_instantiate request
  | takeDiagnostics => exact .handover rfl rfl
  | declare change => exact .quiet rfl rfl rfl

end Frontend

def compilationAfter (start : Compilation σ) (events : List (FrontendEvent σ)) : Compilation σ :=
  (events.getLast?.map (·.after)).getD start

/-- The calls that failed since diagnostics were handed over for the last time. -/
def openFailures (events : List (FrontendEvent σ)) : List (FrontendEvent σ) :=
  (events.rtakeWhile fun event => !event.isHandover).filter (·.isFailure)

/-- How a front end stands after some events. -/
structure IsAccount (start last : Frontend σ) (events : List (FrontendEvent σ)) : Prop where
  analyzer : last.analyzer = start.analyzer
  configuration : last.configuration = start.configuration
  /-- Each call goes on where the one before has ended, and does what folding or instantiation does
  there. -/
  plain : ∀ earlier event later, events = earlier ++ event :: later →
    event.before = compilationAfter start.compilation earlier ∧ event.IsPlain start.analyzer
  reached : last.compilation = compilationAfter start.compilation events
  /-- What is on the account are the calls that failed since it was handed over. -/
  posted : List.Forall₂ (Reports start.configuration.printContext) (openFailures events)
    last.diagnostics
  /-- The same was handed over whenever it was asked for. -/
  handedOver : ∀ earlier event later, events = earlier ++ event :: later →
    event.isHandover = true →
      event.answer = .handedOver event.received ∧
        List.Forall₂ (Reports start.configuration.printContext) (openFailures earlier)
          event.received
  /-- Nothing is lost and nothing comes twice. -/
  complete : List.Forall₂ (Reports start.configuration.printContext)
    (events.filter (·.isFailure)) (events.flatMap (·.received) ++ last.diagnostics)

/-- A place in a longer list is its end or a place in the shorter one. -/
theorem split_concat {α : Type} {events earlier later : List α} {event last : α}
    (split : events ++ [last] = earlier ++ event :: later) :
    (events = earlier ∧ last = event) ∨ ∃ between, events = earlier ++ event :: between := by
  rcases List.eq_nil_or_concat' later with rfl | ⟨between, final, rfl⟩
  · obtain ⟨same, isLast⟩ := List.append_inj' split rfl
    exact .inl ⟨same, List.singleton_inj.mp isLast⟩
  · rw [← List.cons_append, ← List.append_assoc] at split
    exact .inr ⟨between, (List.append_inj' split rfl).1⟩

theorem openFailures_handover {events : List (FrontendEvent σ)} {event : FrontendEvent σ}
    (handsOver : event.isHandover = true) : openFailures (events ++ [event]) = [] := by
  simp [openFailures, handsOver]

theorem openFailures_other {events : List (FrontendEvent σ)} {event : FrontendEvent σ}
    (isOther : event.isHandover = false) :
    openFailures (events ++ [event]) =
      openFailures events ++ [event].filter (·.isFailure) := by
  simp [openFailures, isOther]

theorem Reports.received_eq_nil {printsContext : Bool} {event : FrontendEvent σ}
    {diagnostic : Diagnostic} (reports : Reports printsContext event diagnostic) :
    event.received = [] := by
  cases reports <;> rfl

theorem FrontendEvent.isFailure_eq_false_of_handover {event : FrontendEvent σ}
    {posted : List Diagnostic} (gets : event.answer = .handedOver posted) :
    event.isFailure = false := by
  simp [isFailure, gets]

namespace IsAccount

variable {start last : Frontend σ} {events : List (FrontendEvent σ)}

theorem refl (isEmpty : start.diagnostics = []) : IsAccount start start [] where
  analyzer := rfl
  configuration := rfl
  plain earlier event later split := by simp at split
  reached := rfl
  posted := by
    rw [isEmpty]
    exact .nil
  handedOver earlier event later split := by simp at split
  complete := by
    rw [isEmpty]
    exact .nil

theorem answer (account : IsAccount start last events) (call : FrontendCall) :
    IsAccount start (last.answer call).2 (events ++ [last.event call]) := by
  obtain ⟨sameAnalyzer, sameConfiguration⟩ := last.settings_answer call
  have posts := last.posts_answer call
  rw [account.configuration] at posts
  have posted := account.posted
  have complete := account.complete
  refine ⟨sameAnalyzer.trans account.analyzer, sameConfiguration.trans account.configuration,
    ?plain, ?reached, ?posted, ?handedOver, ?complete⟩
  case plain =>
    intro earlier event later split
    rcases split_concat split with ⟨rfl, rfl⟩ | ⟨between, isSplit⟩
    · exact ⟨account.reached, account.analyzer ▸ last.isPlain_event call⟩
    · exact account.plain earlier event between isSplit
  case reached => simp [compilationAfter, Frontend.event]
  case posted =>
    generalize (last.answer call).2.diagnostics = now at posts ⊢
    cases posts with
    | handover handsOver gets =>
        rw [openFailures_handover handsOver]
        exact .nil
    | failure isOther fails reports =>
        rw [openFailures_other isOther, List.filter_cons_of_pos fails]
        exact List.rel_append posted (.cons reports .nil)
    | quiet isOther succeeds _ =>
        rw [openFailures_other isOther, List.filter_cons_of_neg (by simp [succeeds])]
        simpa using posted
  case handedOver =>
    intro earlier event later split handsOver
    rcases split_concat split with ⟨rfl, rfl⟩ | ⟨between, isSplit⟩
    · generalize (last.answer call).2.diagnostics = now at posts
      cases posts with
      | handover _ gets =>
          have isReceived : (last.event call).received = last.diagnostics := by
            simp [FrontendEvent.received, gets]
          rw [isReceived]
          exact ⟨gets, posted⟩
      | failure isOther => simp [isOther] at handsOver
      | quiet isOther => simp [isOther] at handsOver
    · exact account.handedOver earlier event between isSplit handsOver
  case complete =>
    rw [List.filter_append, List.flatMap_append]
    generalize (last.answer call).2.diagnostics = now at posts ⊢
    cases posts with
    | handover handsOver gets =>
        have succeeds := FrontendEvent.isFailure_eq_false_of_handover gets
        simpa [succeeds, FrontendEvent.received, gets] using complete
    | failure isOther fails reports =>
        rw [List.filter_cons_of_pos fails, List.flatMap_singleton, reports.received_eq_nil,
          List.append_nil, ← List.append_assoc]
        exact List.rel_append complete (.cons reports .nil)
    | quiet isOther succeeds getsNone => simpa [succeeds, getsNone] using complete

end IsAccount

namespace Frontend

theorem isAccount_run {start : Frontend σ} (isEmpty : start.diagnostics = [])
    (calls : List FrontendCall) :
    (start.run calls).1.map (·.call) = calls ∧
      IsAccount start (start.run calls).2 (start.run calls).1 := by
  induction calls using List.reverseRecOn with
  | nil => exact ⟨rfl, .refl isEmpty⟩
  | append_singleton calls call ih =>
      obtain ⟨sameCalls, account⟩ := ih
      rw [run_concat]
      exact ⟨by simp [sameCalls, event], account.answer call⟩

/-- Whatever is called in whatever order, and whatever the analyzer does: each call is answered as
folding or instantiation by itself answers it and leaves what they leave, and the diagnostics are
those of the calls that failed since they were handed over for the last time, one for each and in
their order. -/
theorem failures_reported_once (program : Program) (tree : SyntaxTree) (analyzer : Analyzer σ)
    (analyzerState : σ) (configuration : Configuration) (journal : Journal)
    (calls : List FrontendCall) :
    let start := Frontend.create program tree analyzer analyzerState configuration journal
    (start.run calls).1.map (·.call) = calls ∧
      IsAccount start (start.run calls).2 (start.run calls).1 :=
  isAccount_run rfl calls

end Frontend

namespace Sample

/-- The members of the class request something that is no class, and do not mind the error. -/
def heedless : Analyzer Unit :=
  { Analyzer.idle Unit with
    buildMembers := fun _ _ _ =>
      .instantiate (requestFor .classTemplate functionOfInt.1) fun _ => .done (.ok ()) }

def heedlessFrontend : Frontend Unit :=
  Frontend.create functionOfChar.2 bounded.session.tree heedless () {}

/-- The first request for the class is carried out, with nothing to report.  The second one fails,
and that is handed over. -/
example :
    (heedlessFrontend.run
      [.instantiate (requestFor .classTemplate classOfInt.1),
        .instantiate (requestFor .classTemplate classOfInt.1),
        .takeDiagnostics]).1.map (fun event => (event.isFailure, event.received.length)) =
      [(false, 0), (true, 0), (false, 1)] := by decide +kernel

end Sample

end CppTemplates
