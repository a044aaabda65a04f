import EngenhoPromessa.Controllers.Calls
import EngenhoPromessa.Controllers.Provisioning
import EngenhoPromessa.Controllers.ScanRuns
import EngenhoPromessa.Controllers.TenantRuns
import EngenhoPromessa.Controllers.ValidationProgress

/-
  What a turn of each controller does to the objects that are
  stored, seen from an object it may or may not be about.

  A turn patches at most the object it was called for. Only
  the turns of a validation create objects, and each is new
  under its name.

  Key definitions include:
    * `Stored.key`
    * `ImageValidation.KeptByTenant`
    * `ImageValidation.KeptByScans`

  Key theorems include:
    * `Stored.exists_eq_of_patchNamed`
    * `ImageValidation.exec_reconcile_cases`
    * `ImageValidation.preserves_tenants_nextStatus`
    * `ImageValidation.preserves_scanJobs_nextStatus`
-/

------------------------------------------------------------
-- Patched Lists
------------------------------------------------------------

namespace EngenhoPromessa

namespace Stored

variable {S : Type}

/- What makes a resource the only one of its kind. -/
def key (o : Stored S) : String × String :=
  (o.metadata.namespaceOrDefault, o.metadata.nameAny)

theorem isNamed_iff
    {o : Stored S}
    {«namespace» name : String} :
    o.isNamed «namespace» name = true ↔
      o.key = («namespace», name) := by
  simp [isNamed, key]

/- What is found has the name it was looked for by. -/
theorem key_of_find?
    {«namespace» name : String}
    {os : List (Stored S)}
    {o : Stored S}
    (hFind :
      os.find? (fun o => o.isNamed «namespace» name) =
        some o) :
    o.key = («namespace», name) := by
  have hNamed := List.find?_some hFind
  exact isNamed_iff.mp hNamed

@[simp] theorem key_patchStatus
    (o : Stored S)
    (patch : Json) :
    (o.patchStatus patch).key = o.key := rfl

/- A patch replaces the first resource of its name. -/
theorem exists_eq_of_patchNamed
    {«namespace» name : String}
    {patch : Json}
    {os os' : List (Stored S)}
    (hPatch :
      patchNamed «namespace» name patch os = some os') :
    ∃ before o after,
      os = before ++ o :: after ∧
        o.key = («namespace», name) ∧
        os.find? (fun o => o.isNamed «namespace» name) =
          some o ∧
        os' = before ++ o.patchStatus patch :: after := by
  induction os generalizing os' with
  | nil => simp [patchNamed] at hPatch
  | cons o os ih =>
      rw [patchNamed] at hPatch
      split at hPatch
      · rename_i hNamed
        exact ⟨[], o, os, rfl, isNamed_iff.mp hNamed,
          by simp [hNamed], (Option.some.inj hPatch).symm⟩
      · rename_i hOther
        rcases Option.map_eq_some_iff.mp hPatch with
          ⟨rest, hRest, rfl⟩
        rcases ih hRest with
          ⟨before, p, after, rfl, hKey, hFind, rfl⟩
        exact ⟨o :: before, p, after, rfl, hKey,
          by simpa [List.find?_cons, hOther] using hFind, rfl⟩

/- The others stay, and the one is there, patched. -/
theorem found_of_patchNamed
    {«namespace» name : String}
    {patch : Json}
    {os os' : List (Stored S)}
    (hPatch :
      patchNamed «namespace» name patch os = some os') :
    ∃ p, os.find? (fun o => o.isNamed «namespace» name) =
        some p ∧
      p.patchStatus patch ∈ os' ∧
      (∀ o ∈ os', o ∈ os ∨ o = p.patchStatus patch) ∧
      ∀ o ∈ os, o ∈ os' ∨ o = p := by
  rcases exists_eq_of_patchNamed hPatch with
    ⟨before, p, after, rfl, _, hFind, rfl⟩
  refine ⟨p, hFind, by simp, ?_, ?_⟩
  · intro o hMem
    rw [List.mem_append, List.mem_cons] at hMem ⊢
    tauto
  · intro o hMem
    rw [List.mem_append, List.mem_cons] at hMem ⊢
    tauto

/-
  What a patch leaves of the resources that are picked by
  their metadata and spec alone.
-/
theorem filter_patchNamed
    {«namespace» name : String}
    {patch : Json}
    {os os' : List (Stored S)}
    {p : Stored S → Bool}
    (hPatch :
      patchNamed «namespace» name patch os = some os')
    (hStatus : ∀ o, p (o.patchStatus patch) = p o)
    (hOther :
      ∀ o ∈ os, o.key = («namespace», name) → p o = false) :
    os'.filter p = os.filter p := by
  rcases exists_eq_of_patchNamed hPatch with
    ⟨before, o, after, rfl, hKey, _, rfl⟩
  have hNot : p o = false :=
    hOther o (List.mem_append_right _ List.mem_cons_self) hKey
  simp [List.filter_append, hStatus, hNot]

/- A patch of another name does not show. -/
theorem find?_patchNamed_of_ne
    {«namespace» name «namespace'» name' : String}
    {patch : Json}
    {os os' : List (Stored S)}
    (hPatch :
      patchNamed «namespace'» name' patch os = some os')
    (hNe : («namespace'», name') ≠ («namespace», name)) :
    os'.find? (fun o => o.isNamed «namespace» name) =
      os.find? (fun o => o.isNamed «namespace» name) := by
  rcases exists_eq_of_patchNamed hPatch with
    ⟨before, o, after, rfl, hKey, _, rfl⟩
  have hNot : o.isNamed «namespace» name = false := by
    rw [Bool.eq_false_iff, Ne, isNamed_iff, hKey]
    exact hNe
  have hNot' :
      (o.patchStatus patch).isNamed «namespace» name =
        false := hNot
  simp [List.find?_append, hNot, hNot']

/- A patch keeps every name. -/
theorem map_key_patchNamed
    {«namespace» name : String}
    {patch : Json}
    {os os' : List (Stored S)}
    (hPatch :
      patchNamed «namespace» name patch os = some os') :
    os'.map key = os.map key := by
  rcases exists_eq_of_patchNamed hPatch with
    ⟨before, o, after, rfl, _, _, rfl⟩
  simp

end Stored

end EngenhoPromessa

------------------------------------------------------------
-- The Validation Controller
------------------------------------------------------------

namespace EngenhoPromessa

namespace ImageValidation

open Fallible ScanJobController EphemeralTenant

/- A tenant as it is stored when it is created. -/
def newTenant
    (obj : AkeylessImageValidation) :
    Stored AkeylessEphemeralTenantSpec where
  metadata := (buildTenant obj).metadata
  spec := (buildTenant obj).spec
  status := none

variable [Chrono] [SerdeJson]
variable {ctx : ReconcileCtx} {obj : AkeylessImageValidation}

omit [SerdeJson] in
/- Storing an answer changes validations only. -/
theorem keeps_storeAnswer
    {γ : Type}
    (view : Cluster → γ)
    (hView :
      ∀ cluster validations,
        view { cluster with validations := validations } =
          view cluster)
    (previousPhase : AkeylessImageValidationPhase)
    (new : AkeylessImageValidationStatus)
    (requeue : Nat) :
    Keeps (fun w => view w.cluster) (do
      Api.patchValidationStatus (patchScope ctx obj)
        obj.metadata.nameAny
        (.obj [("status", new.toValue)])
      emitPostPatch ctx obj previousPhase new
      return requeue) := by
  apply keeps_bind
  · refine Kube.keeps_call view _ (fun cluster => ?_)
    split
    · rfl
    · split
      · exact hView cluster _
      · rfl
  · intro _
    exact keeps_bind
      (keeps_emitPostPatch view ctx obj previousPhase new)
      (fun _ => keeps_pure _ _)

/- What is kept of the tenants when one is created anew. -/
def KeptByTenant
    (obj : AkeylessImageValidation)
    (P : List (Stored AkeylessEphemeralTenantSpec) → Prop) :
    Prop :=
  ∀ ts, P ts →
    ts.any (fun o =>
      o.isNamed obj.metadata.namespaceOrDefault
        (tenantName obj)) = false →
    P (ts ++ [newTenant obj])

/- What is kept of the scan jobs when one is created anew. -/
def KeptByScans
    (ctx : ReconcileCtx)
    (obj : AkeylessImageValidation)
    (P : List (Stored ScanJobSpec) → Prop) : Prop :=
  ∀ jobs tenant scanner, P jobs →
    jobs.any (isScanOf obj.metadata scanner) = false →
    P (jobs ++
      [newlyStored (ownScanJob ctx obj tenant scanner)])

omit [SerdeJson] in
/- The pending phase keeps what its tenant keeps. -/
theorem preserves_tenants_handlePending
    {P : List (Stored AkeylessEphemeralTenantSpec) → Prop}
    (hKept : KeptByTenant obj P) :
    Preserves (fun w => P (tenants w))
      (handlePending ctx obj) := by
  apply preserves_bind
  · exact preserves_of_keeps
      (Kube.keeps_read Cluster.tenants _ _) P
  · intro existing
    cases existing with
    | some tenant => exact preserves_pure _ _
    | none =>
        apply preserves_bind
        · refine Kube.preserves_call
            (P := fun cluster => P cluster.tenants) _
            (fun cluster hP => ?_)
          split
          · exact hP
          · rename_i hFree
            exact hKept _ hP (Bool.eq_false_iff.mpr hFree)
        · exact fun _ => preserves_pure _ _

/- Providing a scan job changes no tenant. -/
theorem keeps_tenants_provisionScanJob
    (tenant : AkeylessEphemeralTenant)
    (scanner : RequiredScanner) :
    Keeps tenants
      (provisionScanJob ctx obj tenant scanner) := by
  refine keeps_provisionScanJob
    (fun _ _ => Kube.keeps_read Cluster.tenants _ _)
    (fun _ _ => Kube.keeps_call Cluster.tenants _
      (fun cluster => ?_)) tenant scanner
  split
  · rfl
  · rfl

/- The provisioning phase keeps what its tenant keeps. -/
theorem preserves_tenants_handleProvisioning
    {P : List (Stored AkeylessEphemeralTenantSpec) → Prop}
    (hKept : KeptByTenant obj P) :
    Preserves (fun w => P (tenants w))
      (handleProvisioning ctx obj) := by
  apply preserves_bind
  · exact preserves_of_keeps
      (Kube.keeps_read Cluster.tenants _ _) P
  · intro existing
    cases existing with
    | none => exact preserves_tenants_handlePending hKept
    | some tenant =>
        dsimp only
        split
        · exact preserves_pure _ _
        · refine preserves_of_keeps (keeps_bind
            (keeps_mapM
              (keeps_tenants_provisionScanJob tenant) _)
            (fun _ => keeps_pure _ _)) P

/- The provisioning phase keeps what its scan jobs keep. -/
theorem preserves_scanJobs_handleProvisioning
    {P : List (Stored ScanJobSpec) → Prop}
    (hKept : KeptByScans ctx obj P) :
    Preserves (fun w => P (scanJobs w))
      (handleProvisioning ctx obj) := by
  have hProvision :
      ∀ tenant scanner,
        Preserves (fun w => P (scanJobs w))
          (provisionScanJob ctx obj tenant scanner) := by
    intro tenant scanner
    apply preserves_bind
    · exact preserves_of_keeps
        (Kube.keeps_read Cluster.scanJobs _ _) P
    · intro existing
      cases existing with
      | some sj => exact preserves_pure _ _
      | none =>
          apply preserves_bind
          · refine Kube.preserves_call
              (P := fun cluster => P cluster.scanJobs) _
              (fun cluster hP => ?_)
            split
            · exact hP
            · rename_i hFree
              exact hKept _ tenant scanner hP
                (Bool.eq_false_iff.mpr hFree)
          · exact fun _ => preserves_pure _ _
  apply preserves_bind
  · exact preserves_of_keeps
      (Kube.keeps_read Cluster.scanJobs _ _) P
  · intro existing
    cases existing with
    | none =>
        exact preserves_of_keeps
          (keeps_scanJobs_handlePending ctx obj) P
    | some tenant =>
        dsimp only
        split
        · exact preserves_pure _ _
        · exact preserves_bind
            (preserves_mapM (hProvision tenant) _)
            (fun _ => preserves_pure _ _)

variable [Blake3] [PromessaSerde]

/- What the parts of the handlers preserve, they preserve. -/
theorem preserves_nextStatus
    {Q : World → Prop}
    (hPending : Preserves Q (handlePending ctx obj))
    (hProvisioning : Preserves Q (handleProvisioning ctx obj))
    (hChildren : Preserves Q (childScanJobs obj)) :
    Preserves Q (nextStatus ctx obj) := by
  unfold nextStatus
  cases obj.currentPhase with
  | pending => exact hPending
  | provisioning => exact hProvisioning
  | scanning =>
      refine preserves_bind hChildren (fun children => ?_)
      split
      · exact hProvisioning
      · exact preserves_pure _ _
  | aggregating =>
      exact preserves_bind hChildren
        (fun _ => preserves_pure _ _)
  | attesting => exact preserves_pure _ _
  | gating =>
      exact preserves_bind hChildren
        (fun _ => preserves_pure _ _)
  | passed => exact preserves_pure _ _
  | failed => exact preserves_pure _ _
  | quarantined => exact preserves_pure _ _

variable (ctx) in
/- Every phase keeps what its tenant keeps. -/
theorem preserves_tenants_nextStatus
    {P : List (Stored AkeylessEphemeralTenantSpec) → Prop}
    (hKept : KeptByTenant obj P) :
    Preserves (fun w => P (tenants w)) (nextStatus ctx obj) :=
  preserves_nextStatus
    (preserves_tenants_handlePending hKept)
    (preserves_tenants_handleProvisioning hKept)
    (preserves_of_keeps
      (keeps_bind (Kube.keeps_read Cluster.tenants _ _)
        (fun _ => keeps_pure _ _)) P)

variable (ctx) in
/- Every phase keeps what its scan jobs keep. -/
theorem preserves_scanJobs_nextStatus
    {P : List (Stored ScanJobSpec) → Prop}
    (hKept : KeptByScans ctx obj P) :
    Preserves (fun w => P (scanJobs w))
      (nextStatus ctx obj) :=
  preserves_nextStatus
    (preserves_of_keeps
      (keeps_scanJobs_handlePending ctx obj) P)
    (preserves_scanJobs_handleProvisioning hKept)
    (preserves_of_keeps
      (keeps_scanJobs_childScanJobs obj) P)

variable (ctx obj) in
/-
  A step answers with the handler of its phase, and then
  stores the answer or does not.
-/
theorem exec_reconcile_cases
    (hOpen : obj.currentPhase.isTerminal = false)
    (w : World) :
    ∃ answer w₁,
      (nextStatus ctx obj).exec w = (answer, w₁) ∧
        tenants ((reconcile ctx obj).exec w).2 =
          tenants w₁ ∧
        scanJobs ((reconcile ctx obj).exec w).2 =
          scanJobs w₁ ∧
        (validations ((reconcile ctx obj).exec w).2 =
            validations w ∨
          ∃ new, answer = .ok (some new) ∧
            Stored.patchNamed
                (ctx.namespace.getD
                  obj.metadata.namespaceOrDefault)
                obj.metadata.nameAny
                (.obj [("status", new.toValue)])
                (validations w) =
              some (validations
                ((reconcile ctx obj).exec w).2)) := by
  rcases hNext : (nextStatus ctx obj).exec w with
    ⟨answer, w₁⟩
  have hKeep : validations w₁ = validations w :=
    keeps_of_exec_eq (keeps_validations_nextStatus ctx obj)
      hNext
  refine ⟨answer, w₁, rfl, ?_⟩
  unfold reconcile
  simp only [hOpen, Bool.false_eq_true, if_false]
  rw [exec_bind, hNext]
  rcases answer with e | _ | new
  · exact ⟨rfl, rfl, .inl hKeep⟩
  · exact ⟨rfl, rfl, .inl hKeep⟩
  · refine ⟨keeps_storeAnswer Cluster.tenants
      (fun _ _ => rfl) _ new 15 w₁,
      keeps_storeAnswer Cluster.scanJobs
        (fun _ _ => rfl) _ new 15 w₁, ?_⟩
    rcases exec_storeAnswer ctx obj obj.currentPhase new 15
      w₁ with hSame | hPatched
    · exact .inl (hSame.trans hKeep)
    · rw [← hKeep]
      exact .inr ⟨new, rfl, hPatched⟩

/- A validation at its end is left alone. -/
theorem exec_reconcile_of_terminal
    (ctx : ReconcileCtx)
    (hEnded : obj.currentPhase.isTerminal = true)
    (w : World) :
    ((reconcile ctx obj).exec w).2 = w := by
  unfold reconcile
  simp [hEnded]

end ImageValidation

end EngenhoPromessa

------------------------------------------------------------
-- What An Answer Was Preceded By
------------------------------------------------------------

namespace EngenhoPromessa

namespace ImageValidation

open Fallible ScanJobController EphemeralTenant

variable [Chrono] [SerdeJson]
variable {ctx : ReconcileCtx} {obj : AkeylessImageValidation}

omit [SerdeJson] in
/- A pending validation that goes on has its tenant. -/
theorem tenant_of_exec_handlePending
    {w w' : World}
    {answer : Option AkeylessImageValidationStatus}
    (hRun :
      (handlePending ctx obj).exec w = (.ok answer, w')) :
    ((tenants w').find? (fun o =>
      o.isNamed obj.metadata.namespaceOrDefault
        (tenantName obj))).isSome = true := by
  rcases exec_bind_eq_ok.mp hRun with
    ⟨existing, w₁, hGet, hRest⟩
  have hSame : tenants w₁ = tenants w :=
    keeps_of_exec_eq (Kube.keeps_read Cluster.tenants _ _)
      hGet
  rcases Api.exec_getTenant_eq_ok hGet with ⟨_, hFound⟩
  cases existing with
  | some tenant =>
      rcases Option.bind_eq_some_iff.mp hFound with
        ⟨o, hFind, _⟩
      rw [← (exec_pure_eq_ok.mp hRest).2, hSame, tenants,
        hFind]
      rfl
  | none =>
      rcases exec_bind_eq_ok.mp hRest with
        ⟨u, w₂, hCreate, hPure⟩
      rw [← (exec_pure_eq_ok.mp hPure).2]
      simp only [Api.createTenant, Kube.call, exec_ofExec]
        at hCreate
      split at hCreate
      · rename_i hFault
        split at hCreate
        · simp at hCreate
        · rw [← (Prod.mk.inj hCreate).2]
          simp [tenants, Stored.isNamed, buildTenant,
            ObjectMeta.namespaceOrDefault,
            ObjectMeta.nameAny]
      · simp at hCreate
      · simp at hCreate

variable [Blake3] [PromessaSerde]

variable (ctx) in
/- A validation with scan jobs does not provision again. -/
theorem scanJobs_exec_nextStatus_of_scanning
    (hPhase : obj.currentPhase = .scanning)
    {w : World}
    (hSome : childrenIn w.cluster obj ≠ some []) :
    scanJobs ((nextStatus ctx obj).exec w).2 =
      scanJobs w := by
  have hKeep := keeps_scanJobs_childScanJobs obj w
  unfold nextStatus
  simp only [hPhase, handleScanning]
  rw [exec_bind]
  rcases hList : (childScanJobs obj).exec w with
    ⟨e | children, w₁⟩
  · rw [hList] at hKeep
    exact hKeep
  · rw [hList] at hKeep
    have hChildren := (exec_childScanJobs_eq_ok hList).1
    cases children with
    | nil => exact absurd hChildren hSome
    | cons child children => exact hKeep

variable (ctx) in
/- After its scans are done it schedules none. -/
theorem scanJobs_exec_nextStatus_of_scanned
    (hPhase : obj.currentPhase.rank ≤ 3)
    (w : World) :
    scanJobs ((nextStatus ctx obj).exec w).2 =
      scanJobs w := by
  have hList := keeps_scanJobs_childScanJobs obj
  unfold nextStatus
  cases hCurrent : obj.currentPhase with
  | pending =>
      simp [hCurrent,
        AkeylessImageValidationPhase.rank] at hPhase
  | provisioning =>
      simp [hCurrent,
        AkeylessImageValidationPhase.rank] at hPhase
  | scanning =>
      simp [hCurrent,
        AkeylessImageValidationPhase.rank] at hPhase
  | aggregating =>
      exact keeps_bind hList (fun _ => keeps_pure _ _) w
  | attesting => rfl
  | gating =>
      exact keeps_bind hList (fun _ => keeps_pure _ _) w
  | passed => rfl
  | failed => rfl
  | quarantined => rfl

/- The scans are scheduled before they are waited for. -/
theorem exists_scan_of_exec_nextStatus
    (hPhase : obj.currentPhase = .provisioning)
    {w w' : World}
    {new : AkeylessImageValidationStatus}
    (hRun :
      (nextStatus ctx obj).exec w = (.ok (some new), w'))
    (hNew : new.phase = some .scanning) :
    ∃ scanner, (scanJobs w').any
      (isScanOf obj.metadata scanner) = true := by
  let required :=
    (securitySpecFor ctx.env
      obj.spec.promessaRef).requiredScanners
  have hNext :
      nextStatus ctx obj = provisionFor required ctx obj := by
    rw [nextStatus, hPhase]
    rfl
  rcases exec_provisionFor required ctx obj w with
    ⟨missing, cs, hProvisions⟩
  rw [← hNext, hRun] at hProvisions
  rcases hProvisions.answered new rfl with
    rfl | ⟨_, hMissing⟩
  · simp [provisionedStatus] at hNew
  · refine ⟨.trivy, ?_⟩
    rw [hProvisions.jobs_eq, List.any_append,
      Bool.or_eq_true]
    by_cases hThere : (scanJobs w).any
        (isScanOf obj.metadata .trivy) = true
    · exact .inl hThere
    · right
      rw [any_of_forall₂
        (distinguishes_isScanOf obj.metadata obj.spec)
        hProvisions.built, hMissing]
      refine List.mem_filter.mpr
        ⟨BTreeSet.mem_def.mp (trivy_mem_requiredScanners
          ctx.env obj.spec.promessaRef), ?_⟩
      simpa using hThere

end ImageValidation

end EngenhoPromessa

------------------------------------------------------------
-- What The Others Leave Alone
------------------------------------------------------------

namespace EngenhoPromessa

open Fallible

theorem keeps_of_preserves
    {σ ε α γ : Type}
    {view : σ → γ}
    {x : Fallible σ ε α}
    (hPreserves : ∀ v, Preserves (fun s => view s = v) x) :
    Keeps view x :=
  fun s => hPreserves (view s) s rfl

/-
  A step on a scan job leaves the scan jobs alone, or what
  it was about is there and is patched.
-/
theorem ScanJobController.exec_reconcile_cases
    [Chrono]
    [SerdeJson]
    [Blake3]
    (hEmpty : PrintsEmptyList)
    (ctx : ReconcileCtx)
    (sj : ScanJob)
    (w : World) :
    scanJobs ((reconcile ctx sj).exec w).2 = scanJobs w ∨
      ∃ phase findings attestation,
        Patches ctx sj phase findings attestation ∧
          Stored.patchNamed sj.metadata.namespaceOrDefault
              sj.metadata.nameAny
              (.obj [("status", Json.record
                (phaseFields phase findings attestation))])
              (scanJobs w) =
            some (scanJobs ((reconcile ctx sj).exec w).2) := by
  rcases scanJobs_exec_reconcile hEmpty ctx sj w with
    hSame | ⟨phase, findings, attestation, hPatches, hEq⟩
  · exact .inl hSame
  · unfold patchedJobs at hEq
    cases hPatch : Stored.patchNamed
        sj.metadata.namespaceOrDefault sj.metadata.nameAny
        (.obj [("status", Json.record
          (phaseFields phase findings attestation))])
        (scanJobs w) with
    | none =>
        rw [hPatch, Option.getD_none] at hEq
        exact .inl hEq
    | some jobs =>
        rw [hPatch, Option.getD_some] at hEq
        exact .inr ⟨phase, findings, attestation, hPatches,
          hEq.symm ▸ hPatch⟩

/- Scan jobs are not about validations and tenants. -/
theorem ScanJobController.keeps_reconcile
    [Chrono]
    [SerdeJson]
    [Blake3]
    (ctx : ReconcileCtx)
    (sj : ScanJob) :
    Keeps
      (fun w =>
        (w.cluster.validations, w.cluster.tenants))
      (reconcile ctx sj) := by
  refine keeps_of_preserves (fun v =>
    preserves_reconcile ?_ ctx sj)
  refine
    { read := fun c serve => ?_
      createJob := fun ns job => ?_
      createConfigMap := fun ns cm => ?_
      patchScanJobStatus := fun ns name patch => ?_
      findingRecorded := fun e w hSame => hSame }
  · exact preserves_of_keeps
      (Kube.keeps_read
        (fun c => (c.validations, c.tenants)) _ _) (· = v)
  · refine preserves_of_keeps
      (Kube.keeps_call
        (fun c => (c.validations, c.tenants)) _
        (fun cluster => ?_)) (· = v)
    split
    · rfl
    · rfl
  · refine preserves_of_keeps
      (Kube.keeps_call
        (fun c => (c.validations, c.tenants)) _
        (fun cluster => ?_)) (· = v)
    split
    · rfl
    · rfl
  · refine preserves_of_keeps
      (Kube.keeps_call
        (fun c => (c.validations, c.tenants)) _
        (fun cluster => ?_)) (· = v)
    split
    · rfl
    · rfl

/- Tenants are not about validations and scan jobs. -/
theorem EphemeralTenant.keeps_reconcile
    [Chrono]
    (ctx : ReconcileCtx)
    (obj : AkeylessEphemeralTenant) :
    Keeps
      (fun w =>
        (w.cluster.validations, w.cluster.scanJobs))
      (reconcile ctx obj) := by
  refine keeps_of_preserves (fun v =>
    preserves_reconcile ?_ ctx obj)
  refine
    { read := fun c serve => ?_
      patchTenantStatus := fun ns name patch => ?_ }
  · exact preserves_of_keeps
      (Kube.keeps_read
        (fun c => (c.validations, c.scanJobs)) _ _) (· = v)
  · refine preserves_of_keeps
      (Kube.keeps_call
        (fun c => (c.validations, c.scanJobs)) _
        (fun cluster => ?_)) (· = v)
    split
    · rfl
    · rfl

/- Receipts are not about tenants and scan jobs. -/
theorem OutcomeChain.keeps_handle
    [Chrono]
    [Blake3]
    (ctx : ReconcileCtx)
    (obj : AkeylessImageValidation) :
    Keeps
      (fun w => (w.cluster.tenants, w.cluster.scanJobs))
      (handle ctx obj) := by
  unfold handle
  split
  · exact keeps_pure _ _
  · split
    · exact keeps_pure _ _
    · split
      · exact keeps_pure _ _
      · refine keeps_unwrapOr
          (Kube.keeps_call
            (fun c => (c.tenants, c.scanJobs)) _
            (fun cluster => ?_)) ()
        split
        · rfl
        · split
          · rfl
          · rfl

end EngenhoPromessa
