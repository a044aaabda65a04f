import EngenhoPromessa.Controllers.DispatchRuns
import EngenhoPromessa.Controllers.OutcomePersistence
import EngenhoPromessa.Controllers.Published

/-
  The process with all five controllers: four of them turn
  objects into calls and events, and the dispatcher executes
  actions, keeps rows of them and announces these.

  Every controller may see the cluster as it was some changes
  ago, and everyone else may change it at any time. The store
  is reached by the dispatcher alone.

  Key definitions include:
    * `Controller.handle`
    * `Platform`
    * `Platform.dispatch`
    * `Platform.step`

  Key theorems include:
    * `Platform.step_cases`
    * `Platform.store_execute`
    * `Platform.announced_execute`
-/

------------------------------------------------------------
-- Four Controllers
------------------------------------------------------------

namespace EngenhoPromessa

/- The controllers whose work is calls and events. -/
inductive Controller where
  | imageValidation
  | ephemeralTenant
  | scanJob
  | outcomeChain
deriving DecidableEq, Repr

/- The dispatches among the events. -/
def ValidationEvent.asDispatched :
    ValidationEvent → Option ReconcilerDispatched
| .reconcilerDispatched event => some event
| .phaseChanged _ => none
| .findingRecorded _ => none
| .decisionEmitted _ => none

/- The validation of a name in a copy of the cluster. -/
def Cluster.validationIn
    [Chrono]
    [SerdeJson]
    (copy : Cluster)
    («namespace» name : String) :
    Option AkeylessImageValidation := do
  let stored ← copy.validations.find? (fun o =>
    o.isNamed «namespace» name)
  Api.readValidation stored

/- The tenant a controller finds in its copy. -/
def Cluster.tenantIn
    [Chrono]
    (copy : Cluster)
    («namespace» name : String) :
    Option AkeylessEphemeralTenant := do
  let stored ← copy.tenants.find? (fun o =>
    o.isNamed «namespace» name)
  Api.readTenant stored

/- The scan job a controller finds in its copy. -/
def Cluster.scanJobIn
    [Chrono]
    [SerdeJson]
    (copy : Cluster)
    («namespace» name : String) : Option ScanJob := do
  let stored ← copy.scanJobs.find? (fun o =>
    o.isNamed «namespace» name)
  Api.readScanJob stored

namespace Controller

open Fallible

/-
  Reconcile an object, if it is there. The answer is for the
  queue.
-/
def handleSome
    {α β : Type}
    (reconcile : α → Kube β) : Option α → Kube Unit
| none => pure ()
| some obj => do
    let _ ← reconcile obj
    pure ()

/- A missing object makes no turn. -/
theorem preserves_handleSome
    {α β : Type}
    {P : World → Prop}
    {reconcile : α → Kube β}
    (hReconcile : ∀ obj, Preserves P (reconcile obj))
    (obj : Option α) :
    Preserves P (handleSome reconcile obj) := by
  cases obj with
  | none => exact preserves_pure P _
  | some obj =>
      exact preserves_bind (hReconcile obj)
        (fun _ => preserves_pure P _)

variable [Chrono] [SerdeJson] [Blake3] [PromessaSerde]

/- One turn on the object of a name in a copy. -/
def handle
    (ctx : ReconcileCtx)
    (copy : Cluster)
    («namespace» name : String) : Controller → Kube Unit
| .imageValidation =>
    handleSome (ImageValidation.reconcile ctx)
      (copy.validationIn «namespace» name)
| .ephemeralTenant =>
    handleSome (EphemeralTenant.reconcile ctx)
      (copy.tenantIn «namespace» name)
| .scanJob =>
    handleSome (ScanJobController.reconcile ctx)
      (copy.scanJobIn «namespace» name)
| .outcomeChain =>
    handleSome (OutcomeChain.handle ctx)
      (copy.validationIn «namespace» name)

/- None of the four announces a dispatch. -/
theorem preserves_published_handle
    (controller : Controller)
    (ctx : ReconcileCtx)
    (copy : Cluster)
    («namespace» name : String) :
    Preserves
      (AllPublished (fun e => e.asDispatched = none))
      (controller.handle ctx copy «namespace» name) := by
  cases controller with
  | imageValidation =>
      exact preserves_handleSome
        (fun obj =>
          ImageValidation.preserves_published_reconcile ctx
            obj (fun _ _ => rfl) (fun _ _ => rfl)) _
  | ephemeralTenant =>
      exact preserves_handleSome
        (EphemeralTenant.preserves_published_reconcile ctx)
        _
  | scanJob =>
      exact preserves_handleSome
        (ScanJobController.preserves_published_reconcile
          (fun _ => rfl) ctx) _
  | outcomeChain =>
      exact preserves_handleSome
        (OutcomeChain.preserves_published_handle ctx) _

end Controller

end EngenhoPromessa

------------------------------------------------------------
-- The Process
------------------------------------------------------------

namespace EngenhoPromessa

/-
  The state of the cluster and of the process. The steps of
  actions executed so far are kept with the run they belong
  to; no controller reads them.
-/
structure Platform (σ : Type) where
  cluster : Cluster
  earlier : List Cluster
  published : List ValidationEvent
  store : ValidationStore
  dedupe : ActionDispatcher.DedupeSet
  substrate : σ
  executed : List (String × TypedAction)

namespace Platform

variable {σ : Type}

/- A platform before its first event. -/
def start (cluster : Cluster) (substrate : σ) :
    Platform σ where
  cluster := cluster
  earlier := []
  published := []
  store := .empty
  dedupe := .empty
  substrate := substrate
  executed := []

/-
  A turn of a controller, an event of the dispatcher's watch,
  or a change by someone else. The two first see a copy of
  some age.
-/
inductive Event where
  | turn
      (controller : Controller)
      (ctx : ReconcileCtx)
      (age : Nat)
      («namespace» name : String)
      (faults : List ApiFault)
  | dispatch
      (ctx : ReconcileCtx)
      (age : Nat)
      («namespace» name : String)
  | change (f : Cluster → Cluster)

/- The cluster as it was `age` changes ago. -/
def copy (s : Platform σ) (age : Nat) : Option Cluster :=
  (s.cluster :: s.earlier)[age]?

/- The old cluster stays readable as an older copy. -/
def replaceCluster
    (s : Platform σ)
    (cluster : Cluster) : Platform σ :=
  { s with
    cluster := cluster
    earlier := s.cluster :: s.earlier }

variable [Chrono] [PromessaSerde]

/- The validation an event of the watch carries. -/
def delivered
    [SerdeJson]
    (s : Platform σ)
    (age : Nat)
    («namespace» name : String) :
    Option AkeylessImageValidation := do
  let cluster ← s.copy age
  cluster.validationIn «namespace» name

/-
  The run, the decision and the action that the dispatcher
  goes on with, unless it skips the object.
-/
def toExecute
    (s : Platform σ)
    (obj : AkeylessImageValidation) :
    Option ((String × GateDecision) × TypedAction) := do
  let delivery ← ActionDispatcher.decisionOf obj
  let action ← (ActionDispatcher.handle s.dedupe obj).2
  return (delivery, action)

/- The dispatcher notes a decision. -/
def record
    (s : Platform σ)
    (obj : AkeylessImageValidation) : Platform σ :=
  { s with
    dedupe := (ActionDispatcher.handle s.dedupe obj).1 }

variable [SerdeJson] [ErrorText] [OutcomeSerde]

/- Execute an action, and keep and announce its rows. -/
def execute
    (executor : ActionExecutor (StateM σ))
    (ctx : ReconcileCtx)
    (s : Platform σ)
    (uid : String)
    (gate : GateDecision)
    (action : TypedAction) : Platform σ :=
  let (outcome, substrate) :=
    (executor.execute ctx.env action).run s.substrate
  let (store, events) :=
    ActionDispatcher.persistOutcome ctx.clock uid
      gate.decidedAt action outcome s.store
  { s with
    substrate := substrate
    store := store
    published := s.published ++
      events.map ValidationEvent.reconcilerDispatched
    executed := s.executed ++
      (ActionDispatcher.executedSteps executor ctx.env
        s.substrate action).map (fun step => (uid, step)) }

/- The dispatcher's handling of an object. -/
def dispatch
    (executor : ActionExecutor (StateM σ))
    (ctx : ReconcileCtx)
    (s : Platform σ)
    (obj : AkeylessImageValidation) : Platform σ :=
  match s.toExecute obj with
  | none => s.record obj
  | some ((uid, gate), action) =>
      (s.record obj).execute executor ctx uid gate action

variable [Blake3]

/-
  A turn works on a copy of some age and writes to the
  cluster of now.
-/
def step
    (executor : ActionExecutor (StateM σ))
    (s : Platform σ) : Event → Platform σ
| .turn controller ctx age «namespace» name faults =>
    match s.copy age with
    | none => s
    | some cluster =>
        let w :=
          ((controller.handle ctx cluster «namespace»
            name).exec
              { cluster := s.cluster
                faults := faults
                calls := []
                published := [] }).2
        { s.replaceCluster w.cluster with
          published := s.published ++ w.published }
| .dispatch ctx age «namespace» name =>
    match s.delivered age «namespace» name with
    | none => s
    | some obj => s.dispatch executor ctx obj
| .change f => s.replaceCluster (f s.cluster)

end Platform

end EngenhoPromessa

------------------------------------------------------------
-- What A Step Records
------------------------------------------------------------

namespace EngenhoPromessa

namespace Platform

variable {σ : Type}

/- The dispatches announced so far. -/
def announced (s : Platform σ) : List ReconcilerDispatched :=
  s.published.filterMap ValidationEvent.asDispatched

/- Nothing was executed, kept or announced in between. -/
structure SameRecords (s t : Platform σ) : Prop where
  store_same : t.store = s.store
  announced_same : t.announced = s.announced
  executed_same : t.executed = s.executed

theorem sameRecords_refl (s : Platform σ) :
    SameRecords s s :=
  ⟨rfl, rfl, rfl⟩

variable [Chrono] [SerdeJson] [PromessaSerde]

/- What an event leads the dispatcher to execute. -/
def executionOf
    (s : Platform σ) :
    Event → Option ((String × GateDecision) × TypedAction)
| .dispatch _ age «namespace» name =>
    (s.delivered age «namespace» name).bind s.toExecute
| .turn _ _ _ _ _ _ => none
| .change _ => none

variable [ErrorText] [OutcomeSerde]

omit [Chrono] [SerdeJson] in
/- Rows are added for the run, and none to the runs. -/
theorem store_execute
    (executor : ActionExecutor (StateM σ))
    (ctx : ReconcileCtx)
    (s : Platform σ)
    (uid : String)
    (gate : GateDecision)
    (action : TypedAction) :
    let t := s.execute executor ctx uid gate action
    t.store.validationRuns = s.store.validationRuns ∧
      ∃ new, t.store.reconcilerOutcomes =
          s.store.reconcilerOutcomes ++ new ∧
        (new = [] ↔ action.isEmptyCompose = true) ∧
        ∀ row ∈ new, row.validationRunUid = uid := by
  rcases ActionDispatcher.store_persistRows ctx.clock uid
      gate.decidedAt 0 s.store
      (ActionDispatcher.outcomeRows action
        ((executor.execute ctx.env action).run
          s.substrate).1) with
    ⟨hRuns, new, hNew, hLength, hUid⟩
  refine ⟨hRuns, new, hNew, ?_, hUid⟩
  rw [← ActionDispatcher.outcomeRows_execute_eq_nil_iff
      executor ctx.env action s.substrate,
    ← List.length_eq_zero_iff, hLength,
    List.length_eq_zero_iff]

/- The event tells of the step. -/
def Announces
    (step : String × TypedAction)
    (event : ReconcilerDispatched) : Prop :=
  event.validationRunUid = step.1 ∧
    event.actionKind = ActionDispatcher.actionLabel step.2

omit [Chrono] [SerdeJson] [PromessaSerde] [ErrorText]
  [OutcomeSerde] in
/- Rows of the steps' kinds are events that tell of them. -/
theorem forall₂_announces
    {rows : List ActionDispatcher.OutcomeRow}
    {steps : List TypedAction}
    (hKinds :
      rows.map ActionDispatcher.OutcomeRow.actionKind =
        steps.map ActionDispatcher.actionLabel)
    {uid : String}
    {event :
      Nat → ActionDispatcher.OutcomeRow →
        ReconcilerDispatched}
    (hUid : ∀ k row, (event k row).validationRunUid = uid)
    (hKind :
      ∀ k row, (event k row).actionKind = row.actionKind) :
    List.Forall₂ Announces
      (steps.map (fun step => (uid, step)))
      (rows.mapIdx event) := by
  induction rows generalizing steps event with
  | nil =>
      obtain rfl : steps = [] :=
        List.map_eq_nil_iff.mp hKinds.symm
      exact List.Forall₂.nil
  | cons row rows ih =>
      cases steps with
      | nil => simp at hKinds
      | cons step steps =>
          rcases List.cons.inj hKinds with ⟨hHead, hTail⟩
          rw [List.map_cons, List.mapIdx_cons]
          exact List.Forall₂.cons
            ⟨hUid 0 row, (hKind 0 row).trans hHead⟩
            (ih hTail (fun k => hUid (k + 1))
              (fun k => hKind (k + 1)))

omit [Chrono] [SerdeJson] in
/-
  Each step is announced once, in order, if the run has a row
  to read; of an empty composition there is nothing to tell.
-/
theorem announced_execute
    (executor : ActionExecutor (StateM σ))
    (ctx : ReconcileCtx)
    (s : Platform σ)
    {uid : String}
    (gate : GateDecision)
    {action : TypedAction}
    (hRecorded :
      (s.store.validationRunByUid uid).isSome = true ∨
        action.isEmptyCompose = true) :
    let t := s.execute executor ctx uid gate action
    ∃ steps events, t.executed = s.executed ++ steps ∧
      t.announced = s.announced ++ events ∧
      List.Forall₂ Announces steps events := by
  have hKinds :=
    ActionDispatcher.map_actionKind_outcomeRows_execute
      executor ctx.env action s.substrate
  have hTold :
      List.Forall₂ Announces
        ((ActionDispatcher.executedSteps executor ctx.env
          s.substrate action).map (fun step => (uid, step)))
        (ActionDispatcher.persistOutcome ctx.clock uid
          gate.decidedAt action
          ((executor.execute ctx.env action).run
            s.substrate).1 s.store).2 := by
    unfold ActionDispatcher.persistOutcome
    rcases hRecorded with hRow | hEmpty
    · rcases Option.isSome_iff_exists.mp hRow with
        ⟨run, hRun⟩
      rw [ActionDispatcher.events_persistRows_of_run hRun]
      exact forall₂_announces hKinds (fun _ _ => rfl)
        (fun _ _ => rfl)
    · have hRows :=
        (ActionDispatcher.outcomeRows_execute_eq_nil_iff
          executor ctx.env action s.substrate).mpr hEmpty
      rw [hRows] at hKinds ⊢
      rw [List.map_eq_nil_iff.mp hKinds.symm]
      exact List.Forall₂.nil
  have hEvents :
      ∀ events : List ReconcilerDispatched,
        (events.map
            ValidationEvent.reconcilerDispatched).filterMap
              ValidationEvent.asDispatched =
          events := by
    intro events
    rw [List.filterMap_map]
    exact List.filterMap_some
  exact ⟨_, _, rfl,
    List.filterMap_append.trans
      (congrArg (s.announced ++ ·) (hEvents _)),
    hTold⟩

variable [Blake3]

/-
  An event leaves the records as they are, or has an action
  executed for a run.
-/
theorem step_cases
    (executor : ActionExecutor (StateM σ))
    (s : Platform σ)
    (e : Event) :
    (s.executionOf e = none ∧
      SameRecords s (s.step executor e)) ∨
    ∃ ctx r uid gate action,
      s.executionOf e = some ((uid, gate), action) ∧
      SameRecords s r ∧
      s.step executor e =
        r.execute executor ctx uid gate action := by
  cases e with
  | turn controller ctx age «namespace» name faults =>
      refine Or.inl ⟨rfl, ?_⟩
      cases hCopy : s.copy age with
      | none =>
          simp only [step, hCopy]
          exact sameRecords_refl s
      | some cluster =>
          have hPublished :=
            controller.preserves_published_handle ctx
              cluster «namespace» name
              { cluster := s.cluster
                faults := faults
                calls := []
                published := [] }
              (fun e hMem => absurd hMem (by simp))
          simp only [step, hCopy]
          refine ⟨rfl, ?_, rfl⟩
          rw [announced, List.filterMap_append,
            List.filterMap_eq_nil_iff.mpr hPublished,
            List.append_nil]
          rfl
  | dispatch ctx age «namespace» name =>
      cases hDelivered : s.delivered age «namespace» name with
      | none =>
          simp only [step, executionOf, hDelivered]
          exact Or.inl ⟨rfl, sameRecords_refl s⟩
      | some obj =>
          simp only [step, executionOf, hDelivered, dispatch,
            Option.bind_some]
          cases hExecute : s.toExecute obj with
          | none => exact Or.inl ⟨rfl, rfl, rfl, rfl⟩
          | some execution =>
              rcases execution with ⟨⟨uid, gate⟩, action⟩
              exact Or.inr ⟨ctx, s.record obj, uid, gate,
                action, rfl, ⟨rfl, rfl, rfl⟩, rfl⟩
  | change f => exact Or.inl ⟨rfl, rfl, rfl, rfl⟩

end Platform

end EngenhoPromessa
