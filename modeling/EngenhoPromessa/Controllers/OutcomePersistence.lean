import EngenhoPromessa.Controllers.Cluster
import EngenhoPromessa.ReconcilerEngine.Executor
import EngenhoPromessa.Text.Str
import EngenhoPromessa.ValidationStore.Store

/-
  What the action dispatcher records of an executed action: a
  row per step in the store, and for each row an event, whose
  image identity is read from the row of the validation run.
  Without that row no event is published.

  Key definitions include:
    * `ActionDispatcher.outcomeRow`
    * `ActionDispatcher.outcomeRows`
    * `ActionDispatcher.emitReconcilerDispatched`
    * `ActionDispatcher.persistOutcome`

  Key theorems include:
    * `ActionDispatcher.outcomeRows_execute_eq_nil_iff`
    * `ActionDispatcher.store_persistRows`
    * `ActionDispatcher.events_persistRows_of_run`
-/

------------------------------------------------------------
-- Rows
------------------------------------------------------------

namespace EngenhoPromessa

/- The JSON form of errors, and outcomes read back. -/
class OutcomeSerde [PromessaSerde] where
  errorToValue : ReconcilerError → Option Json
  outcomeFromValue : Json → Option ErasedOutcome
  outcomeFromValue_toValue :
    ∀ o, outcomeFromValue (PromessaSerde.outcomeToValue o) =
      some o

namespace TypedAction

/- A composition without steps. -/
def isEmptyCompose : TypedAction → Bool
| .compose [] => true
| _ => false

end TypedAction

namespace ActionDispatcher

/- One row of the audit log. -/
structure OutcomeRow where
  actionKind : String
  reconcilerKind : Option String
  actionPayload : Json
  outcome : String
  outcomeFlag : Option String
  outcomePayload : Option Json

/- The label of an action. -/
def actionLabel : TypedAction → String
| .fluxCommit _ _ => "FluxCommit"
| .reconcilerApply _ _ => "ReconcilerApply"
| .magmaApply _ => "MagmaApply"
| .cofreRotate _ => "CofreRotate"
| .crachaPatch _ => "CrachaPatch"
| .custom _ _ => "Custom"
| .compose _ => "Compose"
| .noop => "Noop"

variable [PromessaSerde] [OutcomeSerde]

/- The row of one action and what it answered. -/
def outcomeRow
    (action : TypedAction)
    (outcome : ErasedOutcome) : OutcomeRow :=
  let (label, flag, payload) :
      String × Option String × Option Json :=
    match outcome with
    | .applied receipt => ("applied", none, some receipt)
    | .alreadyConverged => ("already-converged", none, none)
    | .flagGated flag => ("flag-gated", some flag, none)
    | .failed error =>
        ("failed", none,
          some ((OutcomeSerde.errorToValue error).getD .null))
  { actionKind := actionLabel action
    reconcilerKind :=
      match action with
      | .reconcilerApply reconciler _ =>
          some reconciler.debugName
      | _ => none
    actionPayload :=
      (PromessaSerde.actionToValue action).getD .null
    outcome := label
    outcomeFlag := flag
    outcomePayload := payload }

/- `from_value::<ComposeReceipt>`, by the outcomes in it. -/
def composeReceiptFromValue
    (receipt : Json) : Option (List ErasedOutcome) := do
  match ← receipt.structValues ["steps"] with
  | [.arr elems] =>
      elems.mapM OutcomeSerde.outcomeFromValue
  | _ => none

/- A row per step of a `Compose`, in the receipt's order. -/
def outcomeRows
    (action : TypedAction)
    (outcome : ErasedOutcome) : List OutcomeRow :=
  match action, outcome with
  | .compose steps, .applied receipt =>
      match composeReceiptFromValue receipt with
      | some outcomes =>
          (steps.zip outcomes).map (fun s =>
            outcomeRow s.1 s.2)
      | none => [outcomeRow action outcome]
  | _, _ => [outcomeRow action outcome]

/- The outcomes of a compose read back from its receipt. -/
theorem composeReceiptFromValue_composeReceipt
    (outcomes : List ErasedOutcome) :
    composeReceiptFromValue
        (ActionExecutor.composeReceipt outcomes) =
      some outcomes := by
  have hElems :
      (outcomes.map PromessaSerde.outcomeToValue).mapM
          OutcomeSerde.outcomeFromValue =
        some outcomes := by
    induction outcomes with
    | nil => rfl
    | cons o outcomes ih =>
        simp [List.mapM_cons,
          OutcomeSerde.outcomeFromValue_toValue, ih]
  simp [composeReceiptFromValue,
    ActionExecutor.composeReceipt, Json.structValues, hElems]

end ActionDispatcher

end EngenhoPromessa

------------------------------------------------------------
-- The Rows Of An Execution
------------------------------------------------------------

namespace EngenhoPromessa

namespace ActionDispatcher

variable [PromessaSerde]

/- Every step but none has a receipt. -/
theorem executeSteps_eq_nil_iff
    {σ : Type}
    (run :
      List Nat → TypedAction.Leaf → StateM σ ErasedOutcome)
    (pos : List Nat)
    (i : Nat)
    (steps : List TypedAction)
    (s : σ) :
    ((ActionExecutor.executeSteps run pos i steps).run
        s).1 = [] ↔ steps = [] := by
  cases steps with
  | nil => exact ⟨fun _ => rfl, fun _ => rfl⟩
  | cons step steps =>
      rw [ActionExecutor.executeSteps]
      rcases hStep : (ActionExecutor.executeWith run
        (pos ++ [i]) step).run s with ⟨outcome, s₁⟩
      rw [ActionExecutor.run_bind_of_run hStep]
      split
      · rcases hRest : (ActionExecutor.executeSteps run pos
          (i + 1) steps).run s₁ with ⟨outcomes, s₂⟩
        rw [ActionExecutor.run_bind_of_run hRest]
        exact iff_of_false (List.cons_ne_nil _ _)
          (List.cons_ne_nil _ _)
      · exact iff_of_false (List.cons_ne_nil _ _)
          (List.cons_ne_nil _ _)

variable [OutcomeSerde] [ErrorText]

/-
  The steps of an action that its execution begins: each of
  them has a receipt.
-/
def executedSteps
    {σ : Type}
    (executor : ActionExecutor (StateM σ))
    (env : Env)
    (s : σ) : TypedAction → List TypedAction
| .compose steps =>
    steps.take ((ActionExecutor.executeSteps
      (fun _ leaf => executor.executeLeaf env leaf) [] 0
      steps).run s).1.length
| .fluxCommit path patch => [.fluxCommit path patch]
| .reconcilerApply reconciler spec =>
    [.reconcilerApply reconciler spec]
| .magmaApply payload => [.magmaApply payload]
| .cofreRotate payload => [.cofreRotate payload]
| .crachaPatch payload => [.crachaPatch payload]
| .custom kind payload => [.custom kind payload]
| .noop => [.noop]

omit [ErrorText] in
/- A compose's rows carry the labels of its first steps. -/
theorem map_actionKind_zip
    (steps : List TypedAction)
    (outcomes : List ErasedOutcome) :
    ((steps.zip outcomes).map (fun s =>
        outcomeRow s.1 s.2)).map OutcomeRow.actionKind =
      (steps.take outcomes.length).map actionLabel := by
  induction steps generalizing outcomes with
  | nil => simp
  | cons step steps ih =>
      cases outcomes with
      | nil => rfl
      | cons o outcomes =>
          simp only [List.zip_cons_cons, List.map_cons, ih,
            List.length_cons, List.take_succ_cons]
          rfl

/- The rows of an execution are those of its steps. -/
theorem map_actionKind_outcomeRows_execute
    {σ : Type}
    (executor : ActionExecutor (StateM σ))
    (env : Env)
    (action : TypedAction)
    (s : σ) :
    (outcomeRows action
        ((executor.execute env action).run s).1).map
          OutcomeRow.actionKind =
      (executedSteps executor env s action).map
        actionLabel := by
  cases action with
  | compose steps =>
      rcases hSteps : (ActionExecutor.executeSteps
          (fun _ leaf => executor.executeLeaf env leaf) [] 0
          steps).run s with ⟨outcomes, s'⟩
      rw [ActionExecutor.execute, ActionExecutor.executeWith,
        ActionExecutor.run_bind_of_run hSteps]
      change (outcomeRows (.compose steps)
        (.applied (ActionExecutor.composeReceipt
          outcomes))).map _ = _
      simp only [outcomeRows,
        composeReceiptFromValue_composeReceipt, executedSteps,
        hSteps]
      exact map_actionKind_zip steps outcomes
  | fluxCommit path patch => rfl
  | reconcilerApply reconciler spec => rfl
  | magmaApply payload => rfl
  | cofreRotate payload => rfl
  | crachaPatch payload => rfl
  | custom kind payload => rfl
  | noop => rfl

/- Only an empty composition is executed without a row. -/
theorem outcomeRows_execute_eq_nil_iff
    {σ : Type}
    (executor : ActionExecutor (StateM σ))
    (env : Env)
    (action : TypedAction)
    (s : σ) :
    outcomeRows action
        ((executor.execute env action).run s).1 = [] ↔
      action.isEmptyCompose = true := by
  cases action with
  | compose steps =>
      have hReceipts := executeSteps_eq_nil_iff
        (fun _ leaf => executor.executeLeaf env leaf) [] 0
        steps s
      rcases hSteps : (ActionExecutor.executeSteps
          (fun _ leaf => executor.executeLeaf env leaf) [] 0
          steps).run s with ⟨outcomes, s'⟩
      rw [hSteps] at hReceipts
      rw [ActionExecutor.execute, ActionExecutor.executeWith,
        ActionExecutor.run_bind_of_run hSteps]
      change outcomeRows (.compose steps)
        (.applied (ActionExecutor.composeReceipt outcomes)) =
          [] ↔ _
      simp only [outcomeRows,
        composeReceiptFromValue_composeReceipt,
        List.map_eq_nil_iff, List.zip_eq_nil_iff]
      rw [hReceipts, or_self]
      cases steps with
      | nil => simp [TypedAction.isEmptyCompose]
      | cons step steps =>
          simp [TypedAction.isEmptyCompose]
  | fluxCommit path patch =>
      simp [outcomeRows, TypedAction.isEmptyCompose]
  | reconcilerApply reconciler spec =>
      simp [outcomeRows, TypedAction.isEmptyCompose]
  | magmaApply payload =>
      simp [outcomeRows, TypedAction.isEmptyCompose]
  | cofreRotate payload =>
      simp [outcomeRows, TypedAction.isEmptyCompose]
  | crachaPatch payload =>
      simp [outcomeRows, TypedAction.isEmptyCompose]
  | custom kind payload =>
      simp [outcomeRows, TypedAction.isEmptyCompose]
  | noop => simp [outcomeRows, TypedAction.isEmptyCompose]

end ActionDispatcher

end EngenhoPromessa

------------------------------------------------------------
-- Persistence
------------------------------------------------------------

namespace EngenhoPromessa

namespace ActionDispatcher

/- What is written for a row. -/
def outcomeWrite
    (uid : String)
    (decidedAt : DateTime)
    (row : OutcomeRow) : ReconcilerOutcomeWrite where
  validationRunUid := uid
  actionKind := row.actionKind
  reconcilerKind := row.reconcilerKind
  actionPayload := row.actionPayload
  outcome := row.outcome
  outcomeFlag := row.outcomeFlag
  outcomePayload := row.outcomePayload
  gateDecisionDecidedAt := decidedAt

/-
  What is published for a row: the service is read from the
  run's image.
-/
def reconcilerDispatched
    (observedAt : DateTime)
    (uid : String)
    (run : ValidationRunModel)
    (row : OutcomeRow) : ReconcilerDispatched where
  validationRunUid := uid
  service :=
    (Str.stripPrefix "akeyless-" run.imageRepo).getD
      run.imageRepo
  imageDigest := run.imageDigest
  imageRepo := run.imageRepo
  observedAt := observedAt
  actionKind := row.actionKind
  reconcilerKind := row.reconcilerKind
  outcome := row.outcome
  outcomeFlag := row.outcomeFlag

/- A run that is not in the store has no event. -/
def emitReconcilerDispatched
    (db : ValidationStore)
    (observedAt : DateTime)
    (uid : String)
    (row : OutcomeRow) : Option ReconcilerDispatched :=
  match db.validationRunByUid uid with
  | none => none
  | some run =>
      some (reconcilerDispatched observedAt uid run row)

/- The loop over the rows, from the `i`th on. -/
def persistRows
    (clock : ClockRead → DateTime)
    (uid : String)
    (decidedAt : DateTime)
    (i : Nat)
    (db : ValidationStore) :
    List OutcomeRow →
      ValidationStore × List ReconcilerDispatched
| [] => (db, [])
| row :: rows =>
    let db := db.appendReconcilerOutcome
      (clock (.appendedAt i)) (outcomeWrite uid decidedAt row)
    let event := emitReconcilerDispatched db
      (clock (.emittedAt i)) uid row
    let (db, events) :=
      persistRows clock uid decidedAt (i + 1) db rows
    (db, event.toList ++ events)

/- `persist_outcome`: a row for each leaf that was executed. -/
def persistOutcome
    [PromessaSerde]
    [OutcomeSerde]
    (clock : ClockRead → DateTime)
    (uid : String)
    (decidedAt : DateTime)
    (action : TypedAction)
    (outcome : ErasedOutcome)
    (db : ValidationStore) :
    ValidationStore × List ReconcilerDispatched :=
  persistRows clock uid decidedAt 0 db
    (outcomeRows action outcome)

end ActionDispatcher

end EngenhoPromessa

------------------------------------------------------------
-- What Persistence Leaves
------------------------------------------------------------

namespace EngenhoPromessa

namespace ActionDispatcher

/- The rows are appended in order, each at its time. -/
theorem persistRows_fst_eq
    (clock : ClockRead → DateTime)
    (uid : String)
    (decidedAt : DateTime)
    (i : Nat)
    (db : ValidationStore)
    (rows : List OutcomeRow) :
    (persistRows clock uid decidedAt i db rows).1 =
      { db with
        reconcilerOutcomes :=
          db.reconcilerOutcomes ++
            rows.mapIdx (fun k row =>
              ValidationStore.insertOutcome
                (clock (.appendedAt (i + k)))
                (outcomeWrite uid decidedAt row)) } := by
  induction rows generalizing i db with
  | nil => simp [persistRows]
  | cons row rows ih =>
      rw [persistRows, ih, List.mapIdx_cons]
      simp [ValidationStore.appendReconcilerOutcome,
        Nat.add_assoc, Nat.add_comm 1]

/- Rows are appended, one for each, and nothing else. -/
theorem store_persistRows
    (clock : ClockRead → DateTime)
    (uid : String)
    (decidedAt : DateTime)
    (i : Nat)
    (db : ValidationStore)
    (rows : List OutcomeRow) :
    let db' :=
      (persistRows clock uid decidedAt i db rows).1
    db'.validationRuns = db.validationRuns ∧
      ∃ new, db'.reconcilerOutcomes =
          db.reconcilerOutcomes ++ new ∧
        new.length = rows.length ∧
        ∀ row ∈ new, row.validationRunUid = uid := by
  rw [persistRows_fst_eq]
  refine ⟨rfl, _, rfl, List.length_mapIdx, ?_⟩
  intro row hRow
  rcases List.mem_mapIdx.mp hRow with ⟨k, hk, rfl⟩
  rfl

/- With the run's row in the store, each row is announced. -/
theorem events_persistRows_of_run
    {db : ValidationStore}
    {uid : String}
    {run : ValidationRunModel}
    (hRun : db.validationRunByUid uid = some run)
    (clock : ClockRead → DateTime)
    (decidedAt : DateTime)
    (i : Nat)
    (rows : List OutcomeRow) :
    (persistRows clock uid decidedAt i db rows).2 =
      rows.mapIdx (fun k row =>
        reconcilerDispatched (clock (.emittedAt (i + k))) uid
          run row) := by
  induction rows generalizing i db with
  | nil => rfl
  | cons row rows ih =>
      have hKept :
          (db.appendReconcilerOutcome (clock (.appendedAt i))
            (outcomeWrite uid decidedAt
              row)).validationRunByUid uid = some run := hRun
      have hRest := ih (i := i + 1) hKept
      simp only [persistRows, emitReconcilerDispatched,
        ValidationStore.validationRunByUid_append, hRun,
        hRest, List.mapIdx_cons, Option.toList_some,
        List.singleton_append, Nat.add_zero]
      simp [Nat.add_assoc, Nat.add_comm 1]

/- Without it none is. -/
theorem events_persistRows_of_no_run
    {db : ValidationStore}
    {uid : String}
    (hNone : db.validationRunByUid uid = none)
    (clock : ClockRead → DateTime)
    (decidedAt : DateTime)
    (i : Nat)
    (rows : List OutcomeRow) :
    (persistRows clock uid decidedAt i db rows).2 = [] := by
  induction rows generalizing i db with
  | nil => rfl
  | cons row rows ih =>
      have hKept :
          (db.appendReconcilerOutcome (clock (.appendedAt i))
            (outcomeWrite uid decidedAt
              row)).validationRunByUid uid = none := hNone
      have hRest := ih (i := i + 1) hKept
      simp only [persistRows, emitReconcilerDispatched,
        ValidationStore.validationRunByUid_append, hNone,
        hRest, Option.toList_none, List.append_nil]

end ActionDispatcher

end EngenhoPromessa
