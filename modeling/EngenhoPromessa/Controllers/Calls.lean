import EngenhoPromessa.Controllers.EphemeralTenant
import EngenhoPromessa.Controllers.ScanJob

/-
  The calls of the scan job and of the tenant controller:
  what each of them preserves, a whole step preserves.

  Key definitions include:
    * `ScanJobController.CallsPreserve`
    * `EphemeralTenant.CallsPreserve`

  Key theorems include:
    * `ScanJobController.preserves_reconcile`
    * `EphemeralTenant.preserves_reconcile`
-/

------------------------------------------------------------
-- The Scan Job Controller
------------------------------------------------------------

namespace EngenhoPromessa

namespace ScanJobController

open Fallible

/- What the controller may call does not break `P`. -/
structure CallsPreserve (P : World → Prop) : Prop where
  read :
    ∀ {α : Type} (c : ApiCall)
      (serve : Cluster → Except KubeError α),
      Preserves P (Kube.read c serve)
  createJob :
    ∀ «namespace» job,
      Preserves P (Api.createJob «namespace» job)
  createConfigMap :
    ∀ «namespace» cm,
      Preserves P (Api.createConfigMap «namespace» cm)
  patchScanJobStatus :
    ∀ «namespace» name patch,
      Preserves P
        (Api.patchScanJobStatus «namespace» name patch)
  findingRecorded :
    ∀ e, Preserves P (Kube.publish (.findingRecorded e))

variable {P : World → Prop}
variable [Chrono] [SerdeJson] [Blake3]

/- Collecting results makes only calls that keep `P`. -/
theorem preserves_collectResults
    (hCalls : CallsPreserve P)
    (ctx : ReconcileCtx)
    (sj : ScanJob) :
    Preserves P (collectResults ctx sj) := by
  have hSnapshot :
      ∀ cm, Preserves P (keepSnapshot sj cm) := by
    intro cm
    refine preserves_bind (hCalls.read _ _)
      (fun existing => ?_)
    split
    · exact preserves_unwrapOr
        (hCalls.createConfigMap _ _) ()
    · exact preserves_pure _ _
  refine preserves_bind (hCalls.read _ _) (fun job => ?_)
  cases job with
  | none => exact preserves_pure _ _
  | some job =>
      dsimp only
      split
      · exact preserves_pure _ _
      · refine preserves_bind (hCalls.read _ _)
          (fun pods => ?_)
        cases pods with
        | nil => exact preserves_pure _ _
        | cons pod pods =>
            apply preserves_bind
            · refine preserves_bind
                (preserves_unwrapOr (hCalls.read _ _) "")
                (fun logs => ?_)
              exact preserves_bind (hSnapshot _)
                (fun _ => preserves_pure _ _)
            · exact fun _ => preserves_pure _ _

omit [SerdeJson] [Blake3] in
/- Announcing findings makes only calls that keep `P`. -/
theorem preserves_emitFindingsRecorded
    (hCalls : CallsPreserve P)
    (ctx : ReconcileCtx)
    (sj : ScanJob)
    (findings : List ScanFinding) :
    Preserves P (emitFindingsRecorded ctx sj findings) := by
  have hParent :
      Preserves P
        (Api.getValidation sj.metadata.namespaceOrDefault
          sj.spec.parentValidation) :=
    hCalls.read _ _
  unfold emitFindingsRecorded
  split
  · exact preserves_pure _ _
  · refine preserves_bind
      (preserves_unwrapOr hParent none) (fun parent => ?_)
    cases parent with
    | none => exact preserves_pure _ _
    | some parent =>
        exact preserves_forM
          (fun _ => hCalls.findingRecorded _) _

/-
  A turn of the scan-job controller makes only calls that
  keep `P`.
-/
theorem preserves_reconcile
    (hCalls : CallsPreserve P)
    (ctx : ReconcileCtx)
    (sj : ScanJob) :
    Preserves P (reconcile ctx sj) := by
  have hPatch :
      ∀ phase findings attestation,
        Preserves P
          (patchPhase sj.metadata.namespaceOrDefault
            sj.metadata.nameAny phase findings
            attestation) :=
    fun _ _ _ => hCalls.patchScanJobStatus _ _ _
  have hAnswer :
      ∀ n : Nat, Preserves P (pure n : Kube Nat) :=
    fun n => preserves_pure _ n
  unfold reconcile
  cases sj.phase.getD .pending with
  | pending =>
      apply preserves_bind
      · refine preserves_bind (hCalls.read _ _)
          (fun existing => ?_)
        split
        · exact preserves_pure _ _
        · exact hCalls.createJob _ _
      · intro _
        exact preserves_bind (hPatch _ _ _)
          (fun _ => hAnswer 15)
  | forking =>
      exact preserves_bind (hPatch _ _ _)
        (fun _ => hAnswer 15)
  | execing =>
      exact preserves_bind (hPatch _ _ _)
        (fun _ => hAnswer 15)
  | running =>
      refine preserves_bind
        (preserves_collectResults hCalls ctx sj)
        (fun result => ?_)
      rcases result with _ | ⟨findings, hash⟩
      · exact hAnswer 15
      · refine preserves_bind (hPatch _ _ _)
          (fun _ => ?_)
        exact preserves_bind
          (preserves_emitFindingsRecorded hCalls ctx sj
            findings)
          (fun _ => hAnswer 15)
  | attested => exact hAnswer 3600
  | reconverging => exact hAnswer 3600
  | exiting => exact hAnswer 3600
  | failed => exact hAnswer 3600
  | zombie => exact hAnswer 3600
  | reaped => exact hAnswer 3600

end ScanJobController

end EngenhoPromessa

------------------------------------------------------------
-- The Tenant Controller
------------------------------------------------------------

namespace EngenhoPromessa

namespace EphemeralTenant

open Fallible

/- Every call a tenant's turn can make keeps `P`. -/
structure CallsPreserve (P : World → Prop) : Prop where
  read :
    ∀ {α : Type} (c : ApiCall)
      (serve : Cluster → Except KubeError α),
      Preserves P (Kube.read c serve)
  patchTenantStatus :
    ∀ «namespace» name patch,
      Preserves P
        (Api.patchTenantStatus «namespace» name patch)

variable {P : World → Prop} [Chrono]

/-
  A turn of the tenant controller makes only calls that keep
  `P`.
-/
theorem preserves_reconcile
    (hCalls : CallsPreserve P)
    (ctx : ReconcileCtx)
    (obj : AkeylessEphemeralTenant) :
    Preserves P (reconcile ctx obj) := by
  have hAssess : Preserves P (assess ctx obj) := by
    apply preserves_bind
    · unfold assessTarget
      split
      · exact preserves_pure _ _
      · split
        · exact preserves_pure _ _
        · refine preserves_bind (hCalls.read _ _)
            (fun service => ?_)
          split
          · exact preserves_pure _ _
          · exact preserves_pure _ _
    · exact fun _ => preserves_pure _ _
  apply preserves_bind
  · unfold nextStatus
    cases obj.currentPhase with
    | pending => exact hAssess
    | infraProvisioning => exact hAssess
    | chartRendering => exact hAssess
    | podsRunning => exact hAssess
    | ready => exact preserves_pure _ _
    | scanning => exact preserves_pure _ _
    | teardown => exact preserves_pure _ _
    | reaped => exact preserves_pure _ _
    | failed => exact preserves_pure _ _
  · rintro ⟨_ | new, requeue⟩
    · exact preserves_pure _ _
    · exact preserves_bind (hCalls.patchTenantStatus _ _ _)
        (fun _ => preserves_pure _ _)

end EphemeralTenant

end EngenhoPromessa
