import EngenhoPromessa.Controllers.Calls
import EngenhoPromessa.Controllers.ImageValidation
import EngenhoPromessa.Controllers.OutcomeChain

/-
  The kinds of events each controller publishes.

  Calls publish nothing, so only the functions that emit
  events count: the validation controller announces phases
  and decisions, the scan job controller findings, and the
  two others nothing.

  Key definitions include:
    * `AllPublished`

  Key theorems include:
    * `ImageValidation.preserves_published_reconcile`
    * `ScanJobController.preserves_published_reconcile`
-/

------------------------------------------------------------
-- Calls And Events
------------------------------------------------------------

namespace EngenhoPromessa

open Fallible

/- Every event published so far satisfies `P`. -/
def AllPublished
    (P : ValidationEvent → Prop)
    (w : World) : Prop :=
  ∀ e ∈ w.published, P e

variable {P : ValidationEvent → Prop}

namespace Kube

/- A call publishes nothing. -/
theorem keeps_published_call
    {α : Type}
    (c : ApiCall)
    (serve : Cluster → Except KubeError α × Cluster) :
    Keeps World.published (call c serve) := by
  intro w
  simp only [call, exec_ofExec]
  cases w.fault 0 with
  | none => rfl
  | refused => rfl
  | lost => rfl

/- So it preserves what holds of every published event. -/
theorem preserves_published_call
    {α : Type}
    (c : ApiCall)
    (serve : Cluster → Except KubeError α × Cluster) :
    Preserves (AllPublished P) (call c serve) :=
  preserves_of_keeps (keeps_published_call c serve)
    (fun events => ∀ e ∈ events, P e)

/- Publishing preserves what holds of its event. -/
theorem preserves_published_publish
    {event : ValidationEvent}
    (hEvent : P event) :
    Preserves (AllPublished P) (publish event) := by
  intro w hAll e hMem
  rcases List.mem_append.mp hMem with hOld | hNew
  · exact hAll e hOld
  · rwa [List.mem_singleton.mp hNew]

end Kube

end EngenhoPromessa

------------------------------------------------------------
-- The Validation Controller
------------------------------------------------------------

namespace EngenhoPromessa

namespace ImageValidation

open Fallible Kube

variable {P : ValidationEvent → Prop}
variable [Chrono] [SerdeJson] [Blake3] [PromessaSerde]

omit [SerdeJson] [Blake3] [PromessaSerde] in
theorem keeps_published_handlePending
    (ctx : ReconcileCtx)
    (obj : AkeylessImageValidation) :
    Keeps World.published (handlePending ctx obj) :=
  keeps_handlePending (fun _ _ => keeps_published_call _ _)
    (fun _ _ => keeps_published_call _ _)

omit [Blake3] [PromessaSerde] in
/- The provisioning phase publishes nothing. -/
theorem keeps_published_handleProvisioning
    (ctx : ReconcileCtx)
    (obj : AkeylessImageValidation) :
    Keeps World.published (handleProvisioning ctx obj) :=
  keeps_handleProvisioning
    (fun _ _ => keeps_published_call _ _)
    (keeps_published_handlePending ctx obj)
    (keeps_provisionScanJob
      (fun _ _ => keeps_published_call _ _)
      (fun _ _ => keeps_published_call _ _))

omit [Blake3] [PromessaSerde] in
theorem keeps_published_childScanJobs
    (obj : AkeylessImageValidation) :
    Keeps World.published (childScanJobs obj) :=
  keeps_bind (keeps_published_call _ _)
    (fun _ => keeps_pure _ _)

/- The handlers publish nothing. -/
theorem keeps_published_nextStatus
    (ctx : ReconcileCtx)
    (obj : AkeylessImageValidation) :
    Keeps World.published (nextStatus ctx obj) :=
  keeps_nextStatus (keeps_published_handlePending ctx obj)
    (fun _ => keeps_published_handleProvisioning ctx obj)
    (keeps_published_childScanJobs obj)

/- What is published carries the service of the object. -/
omit [Chrono] [SerdeJson] [Blake3] [PromessaSerde] in
theorem preserves_published_emitPostPatch
    (ctx : ReconcileCtx)
    (obj : AkeylessImageValidation)
    (hPhase :
      ∀ e, e.service = obj.spec.service → P (.phaseChanged e))
    (hDecision :
      ∀ e, e.service = obj.spec.service →
        P (.decisionEmitted e))
    (previousPhase : AkeylessImageValidationPhase)
    (newStatus : AkeylessImageValidationStatus) :
    Preserves (AllPublished P)
      (emitPostPatch ctx obj previousPhase newStatus) := by
  apply preserves_bind
  · unfold emitPhaseChanged
    cases newStatus.phase with
    | none => exact preserves_pure _ _
    | some newPhase =>
        dsimp only
        split
        · exact preserves_pure _ _
        · exact preserves_published_publish (hPhase _ rfl)
  · intro _
    unfold emitDecision
    cases newStatus.gateDecision with
    | none => exact preserves_pure _ _
    | some gd =>
        dsimp only
        split
        · exact preserves_pure _ _
        · exact preserves_published_publish (hDecision _ rfl)

/-
  A validation's turn publishes phase and decision events of
  its own service.
-/
theorem preserves_published_reconcile
    (ctx : ReconcileCtx)
    (obj : AkeylessImageValidation)
    (hPhase :
      ∀ e, e.service = obj.spec.service → P (.phaseChanged e))
    (hDecision :
      ∀ e, e.service = obj.spec.service →
        P (.decisionEmitted e)) :
    Preserves (AllPublished P) (reconcile ctx obj) := by
  unfold reconcile
  dsimp only
  split
  · exact preserves_pure _ _
  · refine preserves_bind
      (preserves_of_keeps
        (keeps_published_nextStatus ctx obj)
        (fun events => ∀ e ∈ events, P e))
      (fun next => ?_)
    cases next with
    | none => exact preserves_pure _ _
    | some newStatus =>
        refine preserves_bind (preserves_published_call _ _)
          (fun _ => ?_)
        exact preserves_bind
          (preserves_published_emitPostPatch ctx obj hPhase
            hDecision _ newStatus)
          (fun _ => preserves_pure _ _)

end ImageValidation

end EngenhoPromessa

------------------------------------------------------------
-- The Three Others
------------------------------------------------------------

namespace EngenhoPromessa

open Fallible Kube

variable {P : ValidationEvent → Prop} [Chrono]

/- A scan job's turn publishes findings events. -/
theorem ScanJobController.preserves_published_reconcile
    [SerdeJson]
    [Blake3]
    (hFinding : ∀ e, P (.findingRecorded e))
    (ctx : ReconcileCtx)
    (sj : ScanJob) :
    Preserves (AllPublished P)
      (ScanJobController.reconcile ctx sj) :=
  ScanJobController.preserves_reconcile
    { read := fun _ _ => preserves_published_call _ _
      createJob := fun _ _ => preserves_published_call _ _
      createConfigMap := fun _ _ =>
        preserves_published_call _ _
      patchScanJobStatus := fun _ _ _ =>
        preserves_published_call _ _
      findingRecorded := fun e =>
        preserves_published_publish (hFinding e) }
    ctx sj

/- A tenant's turn publishes nothing, -/
theorem EphemeralTenant.preserves_published_reconcile
    (ctx : ReconcileCtx)
    (obj : AkeylessEphemeralTenant) :
    Preserves (AllPublished P)
      (EphemeralTenant.reconcile ctx obj) :=
  EphemeralTenant.preserves_reconcile
    { read := fun _ _ => preserves_published_call _ _
      patchTenantStatus := fun _ _ _ =>
        preserves_published_call _ _ }
    ctx obj

/- and neither does the receipt writer. -/
theorem OutcomeChain.preserves_published_handle
    [Blake3]
    (ctx : ReconcileCtx)
    (obj : AkeylessImageValidation) :
    Preserves (AllPublished P)
      (OutcomeChain.handle ctx obj) := by
  unfold OutcomeChain.handle
  split
  · exact preserves_pure _ _
  · split
    · exact preserves_pure _ _
    · split
      · exact preserves_pure _ _
      · exact preserves_unwrapOr
          (preserves_published_call _ _) ()

end EngenhoPromessa
