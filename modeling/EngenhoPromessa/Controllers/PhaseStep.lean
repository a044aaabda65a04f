import EngenhoPromessa.Controllers.ImageValidation

/-
  What one reconcile step of the image validation controller
  can do.

  `Advance` lists the statuses a handler can answer with and
  what the cluster was like when it did. A step leaves the
  stored validations alone or patches one such status into
  the object it was called for.

  Key definitions include:
    * `ImageValidation.childrenIn`
    * `ImageValidation.Advance`

  Key theorems include:
    * `ImageValidation.advance_of_exec_nextStatus`
    * `ImageValidation.exec_reconcile_validations`
-/

------------------------------------------------------------
-- What The Handlers Leave Alone
------------------------------------------------------------

namespace EngenhoPromessa

namespace ImageValidation

open Fallible

/- The stored validations of a world. -/
def validations (w : World) :
    List (Stored AkeylessImageValidationSpec) :=
  w.cluster.validations

variable [Chrono] [SerdeJson]

omit [SerdeJson] in
theorem keeps_validations_handlePending
    (ctx : ReconcileCtx)
    (obj : AkeylessImageValidation) :
    Keeps validations (handlePending ctx obj) :=
  keeps_handlePending (fun _ _ => Kube.keeps_read _ _ _)
    Api.keeps_validations_createTenant

/- Providing a scan job leaves validations alone. -/
theorem keeps_validations_provisionScanJob
    (ctx : ReconcileCtx)
    (obj : AkeylessImageValidation)
    (tenant : AkeylessEphemeralTenant)
    (scanner : RequiredScanner) :
    Keeps validations
      (provisionScanJob ctx obj tenant scanner) :=
  keeps_provisionScanJob (fun _ _ => Kube.keeps_read _ _ _)
    Api.keeps_validations_createScanJob tenant scanner

theorem keeps_validations_handleProvisioning
    (ctx : ReconcileCtx)
    (obj : AkeylessImageValidation) :
    Keeps validations (handleProvisioning ctx obj) :=
  keeps_handleProvisioning (fun _ _ => Kube.keeps_read _ _ _)
    (keeps_validations_handlePending ctx obj)
    (keeps_validations_provisionScanJob ctx obj)

theorem keeps_validations_childScanJobs
    (obj : AkeylessImageValidation) :
    Keeps validations (childScanJobs obj) := by
  apply keeps_bind (Kube.keeps_read _ _ _)
  intro items
  exact keeps_pure _ _

variable [Blake3] [PromessaSerde]

/-
  Deciding a status leaves validations alone; storing it is
  what changes one.
-/
theorem keeps_validations_nextStatus
    (ctx : ReconcileCtx)
    (obj : AkeylessImageValidation) :
    Keeps validations (nextStatus ctx obj) :=
  keeps_nextStatus (keeps_validations_handlePending ctx obj)
    (fun _ => keeps_validations_handleProvisioning ctx obj)
    (keeps_validations_childScanJobs obj)

end ImageValidation

end EngenhoPromessa

------------------------------------------------------------
-- What The Handlers Answer
------------------------------------------------------------

namespace EngenhoPromessa

namespace ImageValidation

open Fallible

variable [Chrono] [SerdeJson] [Blake3] [PromessaSerde]

omit [SerdeJson] [Blake3] [PromessaSerde] in
/- The pending phase answers with a provisioned status. -/
theorem exec_handlePending_eq_ok
    {ctx : ReconcileCtx}
    {obj : AkeylessImageValidation}
    {w w' : World}
    {new : Option AkeylessImageValidationStatus}
    (hRun : (handlePending ctx obj).exec w = (.ok new, w')) :
    new = some (provisionedStatus ctx obj) := by
  rcases exec_bind_eq_ok.mp hRun with
    ⟨existing, w₁, _, hRest⟩
  cases existing with
  | none =>
      rcases exec_bind_eq_ok.mp hRest with ⟨_, w₂, _, hPure⟩
      exact (exec_pure_eq_ok.mp hPure).1.symm
  | some tenant => exact (exec_pure_eq_ok.mp hRest).1.symm

/- The children of a validation, when all of them decode. -/
def childrenIn
    (cluster : Cluster)
    (obj : AkeylessImageValidation) :
    Option (List ScanJob) :=
  ((cluster.scanJobs.filter (fun o =>
      o.metadata.namespaceOrDefault =
        obj.metadata.namespaceOrDefault)).mapM
    Api.readScanJob).map (fun items =>
      items.filter (fun sj =>
        sj.spec.parentValidation = obj.metadata.nameAny))

/- The tenant the validation refers to, if it exists. -/
def tenantIn
    (cluster : Cluster)
    (obj : AkeylessImageValidation) :
    Option (Stored AkeylessEphemeralTenantSpec) :=
  cluster.tenants.find? (fun o =>
    o.isNamed obj.metadata.namespaceOrDefault
      (tenantRef obj))

/-
  The statuses a handler can answer with, each with the phase
  it started from and what it saw of the cluster.
-/
inductive Advance
    (ctx : ReconcileCtx)
    (cluster : Cluster)
    (obj : AkeylessImageValidation) :
    AkeylessImageValidationStatus → Prop where
  | provisionFirst
      (hPhase : obj.currentPhase = .pending) :
      Advance ctx cluster obj (provisionedStatus ctx obj)
  | provisionAgain
      (hPhase : obj.currentPhase = .provisioning ∨
        obj.currentPhase = .scanning ∧
          childrenIn cluster obj = some [])
      (hTenant : tenantIn cluster obj = none) :
      Advance ctx cluster obj (provisionedStatus ctx obj)
  | scan
      (summaries : List ScanJobSummary)
      (tenant : AkeylessEphemeralTenant)
      (hPhase : obj.currentPhase = .provisioning ∨
        obj.currentPhase = .scanning ∧
          childrenIn cluster obj = some [])
      (hTenant :
        (tenantIn cluster obj).bind Api.readTenant =
          some tenant)
      (hReady : isReady tenant = true)
      (hSome : summaries ≠ []) :
      Advance ctx cluster obj (scanningStatus obj summaries)
  | watch
      (children : List ScanJob)
      (hPhase : obj.currentPhase = .scanning)
      (hChildren : childrenIn cluster obj = some children)
      (hSome : children ≠ []) :
      Advance ctx cluster obj (scannedStatus obj children)
  | aggregate
      (children : List ScanJob)
      (hPhase : obj.currentPhase = .aggregating)
      (hChildren : childrenIn cluster obj = some children) :
      Advance ctx cluster obj (aggregatedStatus obj children)
  | attest
      (hPhase : obj.currentPhase = .attesting) :
      Advance ctx cluster obj (attestedStatus obj)
  | gate
      (children : List ScanJob)
      (hPhase : obj.currentPhase = .gating)
      (hChildren : childrenIn cluster obj = some children) :
      Advance ctx cluster obj
        (gatedStatus ctx
          (securitySpecFor ctx.env obj.spec.promessaRef) obj
          children)

omit [Blake3] [PromessaSerde] in
/- The children listed are those the cluster holds. -/
theorem exec_childScanJobs_eq_ok
    {obj : AkeylessImageValidation}
    {w w' : World}
    {children : List ScanJob}
    (hRun : (childScanJobs obj).exec w = (.ok children, w')) :
    childrenIn w.cluster obj = some children ∧
      w'.cluster = w.cluster := by
  rcases exec_bind_eq_ok.mp hRun with
    ⟨items, w₁, hList, hPure⟩
  rcases exec_pure_eq_ok.mp hPure with ⟨hItems, rfl⟩
  rcases Kube.exec_read_eq_ok.mp hList with
    ⟨_, hServe, hWorld⟩
  dsimp only at hServe
  split at hServe
  · rename_i decoded hDecoded
    obtain rfl : decoded = items := by simpa using hServe
    refine ⟨?_, by rw [hWorld, World.cluster_called]⟩
    rw [childrenIn, hDecoded, Option.map_some, hItems]
  · simp at hServe

omit [Blake3] [PromessaSerde] in
/-
  A provisioning answer comes from a missing tenant, or from
  a ready one and some scan jobs.
-/
theorem exec_handleProvisioning_eq_ok
    {ctx : ReconcileCtx}
    {obj : AkeylessImageValidation}
    {w w' : World}
    {new : AkeylessImageValidationStatus}
    (hRun :
      (handleProvisioning ctx obj).exec w =
        (.ok (some new), w')) :
    new = provisionedStatus ctx obj ∧
        tenantIn w.cluster obj = none ∨
      ∃ summaries tenant,
        new = scanningStatus obj summaries ∧
          (tenantIn w.cluster obj).bind Api.readTenant =
            some tenant ∧
          isReady tenant = true ∧ summaries ≠ [] := by
  rcases exec_bind_eq_ok.mp hRun with
    ⟨existing, w₁, hGet, hRest⟩
  rcases Api.exec_getTenant_eq_ok hGet with
    ⟨hFound, hTenant⟩
  cases existing with
  | none =>
      have hNew := exec_handlePending_eq_ok hRest
      exact Or.inl ⟨Option.some.inj hNew,
        hFound rfl⟩
  | some tenant =>
      cases hReady : isReady tenant with
      | false => simp [hReady] at hRest
      | true =>
          simp only [hReady] at hRest
          rcases exec_bind_eq_ok.mp hRest with
            ⟨summaries, w₂, hScanners, hPure⟩
          have hNew := (exec_pure_eq_ok.mp hPure).1
          have hSome : summaries ≠ [] := by
            rintro rfl
            have hLength :=
              length_of_exec_mapM_eq_ok hScanners
            have hNil := List.eq_nil_of_length_eq_zero
              hLength.symm
            have hTrivy := trivy_mem_requiredScanners
              ctx.env obj.spec.promessaRef
            rw [BTreeSet.mem_def, hNil] at hTrivy
            simp at hTrivy
          exact Or.inr ⟨summaries, tenant,
            (Option.some.inj hNew).symm, hTenant, hReady,
            hSome⟩

omit [Blake3] in
/- A gating answer judges the children the cluster holds. -/
theorem exec_handleGating_eq_ok
    {ctx : ReconcileCtx}
    {obj : AkeylessImageValidation}
    {w w' : World}
    {new : Option AkeylessImageValidationStatus}
    (hRun : (handleGating ctx obj).exec w = (.ok new, w')) :
    ∃ children, childrenIn w.cluster obj = some children ∧
      new = some (gatedStatus ctx
        (securitySpecFor ctx.env obj.spec.promessaRef) obj
        children) := by
  rcases exec_bind_eq_ok.mp hRun with
    ⟨children, w₁, hList, hPure⟩
  exact ⟨children, (exec_childScanJobs_eq_ok hList).1,
    (exec_pure_eq_ok.mp hPure).1.symm⟩

/- Every answer of a handler is one of the listed ones. -/
theorem advance_of_exec_nextStatus
    {ctx : ReconcileCtx}
    {obj : AkeylessImageValidation}
    {w w' : World}
    {new : AkeylessImageValidationStatus}
    (hRun :
      (nextStatus ctx obj).exec w = (.ok (some new), w')) :
    Advance ctx w.cluster obj new := by
  unfold nextStatus at hRun
  cases hPhase : obj.currentPhase with
  | pending =>
      simp only [hPhase] at hRun
      have hNew := exec_handlePending_eq_ok hRun
      rw [Option.some.inj hNew]
      exact .provisionFirst hPhase
  | provisioning =>
      simp only [hPhase] at hRun
      rcases exec_handleProvisioning_eq_ok hRun with
        ⟨rfl, hTenant⟩ |
          ⟨summaries, tenant, rfl, hTenant, hReady, hSome⟩
      · exact .provisionAgain (Or.inl hPhase) hTenant
      · exact .scan summaries tenant (Or.inl hPhase)
          hTenant hReady hSome
  | scanning =>
      simp only [hPhase] at hRun
      rcases exec_bind_eq_ok.mp hRun with
        ⟨children, w₁, hList, hRest⟩
      rcases exec_childScanJobs_eq_ok hList with
        ⟨hChildren, hCluster⟩
      cases children with
      | nil =>
          rcases exec_handleProvisioning_eq_ok hRest with
            ⟨rfl, hTenant⟩ |
              ⟨summaries, tenant, rfl, hTenant, hReady,
                hSome⟩
          · rw [hCluster] at hTenant
            exact .provisionAgain
              (Or.inr ⟨hPhase, hChildren⟩) hTenant
          · rw [hCluster] at hTenant
            exact .scan summaries tenant
              (Or.inr ⟨hPhase, hChildren⟩) hTenant hReady
              hSome
      | cons child children =>
          have hNew := (exec_pure_eq_ok.mp hRest).1
          rw [← Option.some.inj hNew]
          exact .watch _ hPhase hChildren (by simp)
  | aggregating =>
      simp only [hPhase] at hRun
      rcases exec_bind_eq_ok.mp hRun with
        ⟨children, w₁, hList, hPure⟩
      have hNew := (exec_pure_eq_ok.mp hPure).1
      rw [← Option.some.inj hNew]
      exact .aggregate children hPhase
        (exec_childScanJobs_eq_ok hList).1
  | attesting =>
      simp only [hPhase] at hRun
      have hNew := (exec_pure_eq_ok.mp hRun).1
      rw [← Option.some.inj hNew]
      exact .attest hPhase
  | gating =>
      simp only [hPhase] at hRun
      rcases exec_handleGating_eq_ok hRun with
        ⟨children, hChildren, hNew⟩
      rw [Option.some.inj hNew]
      exact .gate children hPhase hChildren
  | passed => simp [hPhase] at hRun
  | failed => simp [hPhase] at hRun
  | quarantined => simp [hPhase] at hRun

end ImageValidation

end EngenhoPromessa

------------------------------------------------------------
-- What A Step Stores
------------------------------------------------------------

namespace EngenhoPromessa

namespace ImageValidation

open Fallible

/- Events leave the cluster alone. -/
theorem keeps_emitPostPatch
    {γ : Type}
    (view : Cluster → γ)
    (ctx : ReconcileCtx)
    (obj : AkeylessImageValidation)
    (previousPhase : AkeylessImageValidationPhase)
    (newStatus : AkeylessImageValidationStatus) :
    Keeps (fun w => view w.cluster)
      (emitPostPatch ctx obj previousPhase newStatus) := by
  apply keeps_bind
  · unfold emitPhaseChanged
    cases newStatus.phase with
    | none => exact keeps_pure _ _
    | some newPhase =>
        dsimp only
        split
        · exact keeps_pure _ _
        · exact Kube.keeps_publish _ _
  · intro _
    unfold emitDecision
    cases newStatus.gateDecision with
    | none => exact keeps_pure _ _
    | some gd =>
        dsimp only
        split
        · exact keeps_pure _ _
        · exact Kube.keeps_publish _ _

variable [Chrono] [SerdeJson] [Blake3] [PromessaSerde]

/- What follows a handler's answer stores it or does not. -/
omit [SerdeJson] [Blake3] [PromessaSerde] in
theorem exec_storeAnswer
    (ctx : ReconcileCtx)
    (obj : AkeylessImageValidation)
    (previousPhase : AkeylessImageValidationPhase)
    (new : AkeylessImageValidationStatus)
    (requeue : Nat)
    (w : World) :
    let store : Kube Nat := do
      Api.patchValidationStatus (patchScope ctx obj)
        obj.metadata.nameAny
        (.obj [("status", new.toValue)])
      emitPostPatch ctx obj previousPhase new
      return requeue
    validations (store.exec w).2 = validations w ∨
      Stored.patchNamed
          (ctx.namespace.getD
            obj.metadata.namespaceOrDefault)
          obj.metadata.nameAny
          (.obj [("status", new.toValue)])
          (validations w) =
        some (validations (store.exec w).2) := by
  intro store
  have hAfter :
      Keeps validations
        (emitPostPatch ctx obj previousPhase new) :=
    keeps_emitPostPatch Cluster.validations ctx obj
      previousPhase new
  have hPatch :
      validations (store.exec w).2 =
        validations ((Api.patchValidationStatus
          (patchScope ctx obj) obj.metadata.nameAny
          (.obj [("status", new.toValue)])).exec w).2 :=
    view_exec_bind _ (fun _ =>
      keeps_bind hAfter (fun _ => keeps_pure _ _)) w
  rw [hPatch]
  exact Api.exec_patchValidationStatus _ _ _ w

/-
  A step keeps the stored validations, or patches the object
  it was called for with the answer of its handler.
-/
theorem exec_reconcile_validations
    (ctx : ReconcileCtx)
    (obj : AkeylessImageValidation)
    (w : World) :
    validations ((reconcile ctx obj).exec w).2 =
        validations w ∨
      ∃ new, Advance ctx w.cluster obj new ∧
        Stored.patchNamed
            (ctx.namespace.getD
              obj.metadata.namespaceOrDefault)
            obj.metadata.nameAny
            (.obj [("status", new.toValue)])
            (validations w) =
          some (validations
            ((reconcile ctx obj).exec w).2) := by
  unfold reconcile
  cases hTerminal : obj.currentPhase.isTerminal with
  | true =>
      left
      simp [hTerminal]
  | false =>
      simp only [hTerminal, Bool.false_eq_true, if_false]
      rcases hNext : (nextStatus ctx obj).exec w with
        ⟨answer, w₁⟩
      have hKeep : validations w₁ = validations w :=
        keeps_of_exec_eq
          (keeps_validations_nextStatus ctx obj) hNext
      rw [exec_bind, hNext]
      cases answer with
      | error e => exact Or.inl hKeep
      | ok next =>
          cases next with
          | none => exact Or.inl hKeep
          | some new =>
              rcases exec_storeAnswer ctx obj
                  obj.currentPhase new 15 w₁ with
                hSame | hPatched
              · exact Or.inl (hSame.trans hKeep)
              · refine Or.inr ⟨new,
                  advance_of_exec_nextStatus hNext, ?_⟩
                rw [← hKeep]
                exact hPatched

end ImageValidation

end EngenhoPromessa
