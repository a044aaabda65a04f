import EngenhoPromessa.Controllers.Platform
import EngenhoPromessa.Controllers.StaleReads

/-
  Whether the dispatches of a process can be traced: each row
  of an outcome to the row of its run, and each executed step
  to its event.

  The rows of the runs are for the validation controller to
  write, at every transition, but no controller writes them.
  So a process that begins with an empty store is traceable
  exactly as long as it executes nothing.

  Key definitions include:
    * `Platform.Traceable`
    * `Platform.IsRecorded`
    * `Platform.DispatchesNothing`

  Key theorems include:
    * `Platform.traceable_run_iff_isRecorded`
    * `Platform.traceable_run_iff`
-/

------------------------------------------------------------
-- Traceable States
------------------------------------------------------------

namespace EngenhoPromessa

namespace Platform

variable {σ : Type}

/-
  Every stored outcome has its run, and every executed step
  its announcement.
-/
structure Traceable (s : Platform σ) : Prop where
  outcomes_have_run :
    ∀ row ∈ s.store.reconcilerOutcomes,
      ∃ run ∈ s.store.validationRuns,
        run.uid = row.validationRunUid
  steps_announced :
    List.Forall₂ Announces s.executed s.announced

/- An outcome refers to a run that is not in the store. -/
def Dangling (s : Platform σ) : Prop :=
  ∃ row ∈ s.store.reconcilerOutcomes,
    ∀ run ∈ s.store.validationRuns,
      run.uid ≠ row.validationRunUid

/- A dangling outcome breaks the trace. -/
theorem not_traceable_of_dangling
    {s : Platform σ}
    (hDangling : s.Dangling) :
    ¬ s.Traceable := by
  intro hTraceable
  rcases hDangling with ⟨row, hRow, hNone⟩
  rcases hTraceable.outcomes_have_run row hRow with
    ⟨run, hRun, hUid⟩
  exact hNone run hRun hUid

theorem traceable_start
    (cluster : Cluster)
    (substrate : σ) :
    (start cluster substrate).Traceable where
  outcomes_have_run := by simp [start, ValidationStore.empty]
  steps_announced := .nil

variable [Chrono] [SerdeJson] [PromessaSerde]

/- What the event has executed is of a run with a row. -/
def IsRecorded (s : Platform σ) (e : Event) : Prop :=
  ∀ uid gate action,
    s.executionOf e = some ((uid, gate), action) →
    (s.store.validationRunByUid uid).isSome = true ∨
      action.isEmptyCompose = true

/- At most an empty composition is executed. -/
def DispatchesNothing (s : Platform σ) (e : Event) : Prop :=
  ∀ delivery action,
    s.executionOf e = some (delivery, action) →
    action.isEmptyCompose = true

end Platform

end EngenhoPromessa

------------------------------------------------------------
-- Steps
------------------------------------------------------------

namespace EngenhoPromessa

namespace Platform

variable {σ : Type}
variable [Chrono] [SerdeJson] [Blake3] [PromessaSerde]
variable [ErrorText] [OutcomeSerde]

/- No controller writes the row of a run. -/
theorem validationRuns_step
    (executor : ActionExecutor (StateM σ))
    (s : Platform σ)
    (e : Event) :
    (s.step executor e).store.validationRuns =
      s.store.validationRuns := by
  rcases step_cases executor s e with
    ⟨_, hSame⟩ | ⟨ctx, r, uid, gate, action, _, hSame, hStep⟩
  · rw [hSame.store_same]
  · rw [hStep,
      (store_execute executor ctx r uid gate action).1,
      hSame.store_same]

/- A recorded step keeps the trace. -/
theorem traceable_step
    {executor : ActionExecutor (StateM σ)}
    {s : Platform σ}
    {e : Event}
    (hTraceable : s.Traceable)
    (hRecorded : s.IsRecorded e) :
    (s.step executor e).Traceable := by
  rcases step_cases executor s e with
    ⟨_, hSame⟩ |
      ⟨ctx, r, uid, gate, action, hExecution, hSame, hStep⟩
  · constructor
    · rw [hSame.store_same]
      exact hTraceable.outcomes_have_run
    · rw [hSame.announced_same, hSame.executed_same]
      exact hTraceable.steps_announced
  · have hRow := hRecorded uid gate action hExecution
    rw [← hSame.store_same] at hRow
    rcases store_execute executor ctx r uid gate action with
      ⟨hRuns, new, hOutcomes, hEmpty, hUid⟩
    rcases announced_execute executor ctx r gate hRow with
      ⟨steps, events, hExecuted, hAnnounced, hTold⟩
    rw [hStep]
    constructor
    · rw [hRuns, hOutcomes, hSame.store_same]
      intro row hMem
      rcases List.mem_append.mp hMem with hOld | hNew
      · exact hTraceable.outcomes_have_run row hOld
      · rcases hRow with hRow | hRow
        · rcases Option.isSome_iff_exists.mp hRow with
            ⟨run, hRun⟩
          rw [hSame.store_same] at hRun
          rcases ValidationStore.uid_of_validationRunByUid
            hRun with ⟨hMem, hRunUid⟩
          exact ⟨run, hMem,
            hRunUid.trans (hUid row hNew).symm⟩
        · rw [hEmpty.mpr hRow] at hNew
          exact absurd hNew (by simp)
    · rw [hExecuted, hAnnounced, hSame.executed_same,
        hSame.announced_same]
      exact List.rel_append hTraceable.steps_announced hTold

/- A step that is not recorded leaves a dangling row. -/
theorem dangling_step_of_not_isRecorded
    (executor : ActionExecutor (StateM σ))
    {s : Platform σ}
    {e : Event}
    (hNot : ¬ s.IsRecorded e) :
    (s.step executor e).Dangling := by
  simp only [IsRecorded, not_forall, not_or] at hNot
  rcases hNot with
    ⟨uid, gate, action, hExecution, hNoRow, hNotEmpty⟩
  rcases step_cases executor s e with
    ⟨hNone, _⟩ |
      ⟨ctx, r, uid', gate', action', hExecution', hSame,
        hStep⟩
  · rw [hNone] at hExecution
    simp at hExecution
  · rw [hExecution] at hExecution'
    obtain ⟨⟨rfl, rfl⟩, rfl⟩ :
        (uid = uid' ∧ gate = gate') ∧ action = action' := by
      simpa using hExecution'
    rcases store_execute executor ctx r uid gate action with
      ⟨hRuns, new, hOutcomes, hEmpty, hUid⟩
    have hNew : new ≠ [] := fun hNil =>
      hNotEmpty (hEmpty.mp hNil)
    rcases List.exists_mem_of_ne_nil new hNew with
      ⟨row, hRow⟩
    rw [hStep]
    refine ⟨row, ?_, ?_⟩
    · rw [hOutcomes]
      exact List.mem_append_right _ hRow
    · rw [hRuns, hSame.store_same, hUid row hRow]
      intro run hRun hSameUid
      exact hNoRow (List.find?_isSome.mpr
        ⟨run, hRun, decide_eq_true hSameUid⟩)

/- What dangles keeps dangling. -/
theorem dangling_step
    (executor : ActionExecutor (StateM σ))
    {s : Platform σ}
    (e : Event)
    (hDangling : s.Dangling) :
    (s.step executor e).Dangling := by
  rcases hDangling with ⟨row, hRow, hNone⟩
  refine ⟨row, ?_, ?_⟩
  · rcases step_cases executor s e with
      ⟨_, hSame⟩ |
        ⟨ctx, r, uid, gate, action, _, hSame, hStep⟩
    · rwa [hSame.store_same]
    · rcases (store_execute executor ctx r uid gate
        action).2 with ⟨new, hOutcomes, _⟩
      rw [hStep, hOutcomes, hSame.store_same]
      exact List.mem_append_left _ hRow
  · rwa [validationRuns_step]

end Platform

end EngenhoPromessa

------------------------------------------------------------
-- Runs
------------------------------------------------------------

namespace EngenhoPromessa

namespace Platform

variable {σ : Type}
variable [Chrono] [SerdeJson] [Blake3] [PromessaSerde]
variable [ErrorText] [OutcomeSerde]

/-
  From any traceable state, whatever rows its store has: the
  state after a run is traceable exactly if each step of the
  run was recorded.
-/
theorem traceable_run_iff_isRecorded
    (executor : ActionExecutor (StateM σ))
    {s : Platform σ}
    (hTraceable : s.Traceable)
    (events : List Event) :
    (Run.run (step executor) s events).Traceable ↔
      Run.Allowed (step executor) IsRecorded s events :=
  Run.invariant_run_iff Traceable Dangling
    (fun _ _ hBefore hOk => traceable_step hBefore hOk)
    (fun _ _ _ hNot =>
      dangling_step_of_not_isRecorded executor hNot)
    (fun _ e hBefore => dangling_step executor e hBefore)
    (fun _ hDangling => not_traceable_of_dangling hDangling)
    hTraceable

omit [Blake3] [ErrorText] [OutcomeSerde] in
/- An upsert of the run would be enough. -/
theorem isRecorded_of_upsert
    {s : Platform σ}
    {e : Event}
    {db : ValidationStore}
    {now : DateTime}
    {write : ValidationRunWrite}
    (hStore : s.store = db.upsertValidationRun now write)
    (hOwn :
      ∀ uid gate action,
        s.executionOf e = some ((uid, gate), action) →
        uid = write.uid) :
    s.IsRecorded e := by
  intro uid gate action hExecution
  rw [hOwn uid gate action hExecution, hStore]
  exact Or.inl
    (ValidationStore.validationRunByUid_upsert db now write)

omit [Blake3] [ErrorText] [OutcomeSerde] in
/- Without rows of runs, nothing executed is recorded. -/
theorem isRecorded_iff_dispatchesNothing
    {s : Platform σ}
    (hRuns : s.store.validationRuns = [])
    (e : Event) :
    s.IsRecorded e ↔ s.DispatchesNothing e := by
  have hNoRow :
      ∀ uid, s.store.validationRunByUid uid = none := by
    intro uid
    rw [ValidationStore.validationRunByUid, hRuns]
    rfl
  simp [IsRecorded, DispatchesNothing, hNoRow]

/-
  A process that begins with an empty store is traceable
  after a run exactly if no event of it had an action
  executed, an empty composition apart.
-/
theorem traceable_run_iff
    (executor : ActionExecutor (StateM σ))
    (cluster : Cluster)
    (substrate : σ)
    (events : List Event) :
    (Run.run (step executor) (start cluster substrate)
        events).Traceable ↔
      Run.Allowed (step executor) DispatchesNothing
        (start cluster substrate) events := by
  rw [traceable_run_iff_isRecorded executor
    (traceable_start cluster substrate)]
  exact Run.allowed_congr
    (fun s => s.store.validationRuns = [])
    (fun s e hRuns =>
      (validationRuns_step executor s e).trans hRuns)
    (fun s e hRuns =>
      isRecorded_iff_dispatchesNothing hRuns e)
    rfl events

end Platform

end EngenhoPromessa

------------------------------------------------------------
-- A Dispatch That Leaves No Trace
------------------------------------------------------------

namespace EngenhoPromessa

namespace Reference

/- Reading an error back. -/
def decodeError : Json → Option ReconcilerError
| .obj [(variant, .obj [("detail", .str detail)])] =>
    match variant with
    | "InvalidSpec" => some (.invalidSpec detail)
    | "Internal" => some (.internal detail)
    | "Transient" => some (.transient detail)
    | "SubstrateRefused" => some (.substrateRefused detail)
    | _ => none
| _ => none

/- Reading an outcome back. -/
def decodeOutcome : Json → Option ErasedOutcome
| .str "AlreadyConverged" => some .alreadyConverged
| .obj [("Applied", .obj [("receipt", receipt)])] =>
    some (.applied receipt)
| .obj [("FlagGated", .obj [("flag", .str flag)])] =>
    some (.flagGated flag)
| .obj [("Failed", .obj [("error", error)])] =>
    (decodeError error).map .failed
| _ => none

/- What is written of an outcome reads back. -/
theorem decodeOutcome_encodeOutcome (o : ErasedOutcome) :
    decodeOutcome (encodeOutcome o) = some o := by
  cases o with
  | applied receipt => rfl
  | alreadyConverged => rfl
  | flagGated flag => rfl
  | failed error =>
      cases error with
      | invalidSpec detail => rfl
      | internal detail => rfl
      | transient detail => rfl
      | substrateRefused detail => rfl

instance outcomeSerde : OutcomeSerde where
  errorToValue error := some (encodeError error)
  outcomeFromValue := decodeOutcome
  outcomeFromValue_toValue := decodeOutcome_encodeOutcome

/- An executor whose three reconcilers have nothing to do. -/
def executor : ActionExecutor (StateM Unit) where
  engine := ReconcilerEngine.withDefaults
    { cartorioAdmit := fun _ => pure .alreadyConverged
      ghcrTagRevoke := fun _ => pure .alreadyConverged
      harborMirror := fun _ => pure .alreadyConverged }
  fluxCommit := none

/- A cluster with one new validation. -/
def withValidation : Cluster :=
  { emptyCluster with
    validations :=
      [{ metadata := metadata "auth-00"
         spec := validationSpec
         status := none }] }

/- A turn on a fresh copy, without faults. -/
def turn
    (controller : Controller)
    (name : String) : Platform.Event :=
  .turn controller ctx 0 "validation" name []

/- Another party attests every scan job. -/
def attestScans (cluster : Cluster) : Cluster :=
  { cluster with
    scanJobs := cluster.scanJobs.map (fun o =>
      { o with
        status := some (.obj
          [("phase", .str "Attested")]) }) }

/- From creation to the end, which is dispatched. -/
def dispatchedRun : Platform Unit :=
  Run.run (Platform.step executor)
    (.start withValidation ())
    [turn .imageValidation "auth-00",
      turn .ephemeralTenant "eph-auth-00",
      turn .imageValidation "auth-00",
      .change attestScans,
      turn .imageValidation "auth-00",
      turn .imageValidation "auth-00",
      turn .imageValidation "auth-00",
      turn .imageValidation "auth-00",
      .dispatch ctx 0 "validation" "auth-00"]

end Reference

namespace Platform

/-
  The validation went through all of its transitions, and the
  first step of its action has failed: there is a row of that
  outcome, but none of the run, and no event.
-/
theorem not_traceable_dispatchedRun :
    Reference.dispatchedRun.executed.length = 1 ∧
      Reference.dispatchedRun.store.reconcilerOutcomes.map
          ReconcilerOutcomeModel.validationRunUid =
        ["uid-auth-00"] ∧
      Reference.dispatchedRun.store.validationRuns.length =
        0 ∧
      Reference.dispatchedRun.announced = [] ∧
      ¬ Reference.dispatchedRun.Traceable := by
  refine ⟨by decide +kernel, by decide +kernel,
    by decide +kernel, by decide +kernel, ?_⟩
  intro hTraceable
  exact absurd hTraceable.outcomes_have_run
    (by decide +kernel)

end Platform

end EngenhoPromessa
