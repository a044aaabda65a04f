import EngenhoPromessa.Controllers.PipelineTurns

/-
  Turns of the tenant and the scan jobs of a validation, and
  of the outcome chain, seen by the cluster they change.

  They keep a sound cluster sound, too, and lead none of its
  objects back. A tenant whose target is there is ready
  after a turn, and a scan job that is not held up is one
  phase further.

  Key theorems include:
    * `Pipeline.tenant_turn`
    * `Pipeline.tenantIsReady_tenant_turn`
    * `Pipeline.scan_turn`
    * `Pipeline.scanRank_scan_turn`
    * `Pipeline.receipt_turn`
-/

------------------------------------------------------------
-- A Turn Of The Tenant
------------------------------------------------------------

namespace EngenhoPromessa

namespace Pipeline

open Fallible ImageValidation

variable [Chrono] [SerdeJson] [Blake3]
variable {«namespace» name : String}
variable {cluster cluster' : Cluster}

/- What suffices if the validation is not written. -/
theorem sound_of_validationIn_eq
    (hSound : Sound «namespace» name cluster)
    (hSame :
      cluster'.validationIn «namespace» name =
        cluster.validationIn «namespace» name)
    (hForm :
      ∀ o, tenantFind «namespace» name cluster'.tenants =
          some o →
        TenantRun.TenantInvariant (fun _ => True)
          (TenantRun.onObject o))
    (hTenant :
      (tenantFind «namespace» name
          cluster.tenants).isSome = true →
        (tenantFind «namespace» name
          cluster'.tenants).isSome = true)
    (hOrderly : Orderly «namespace» name cluster'.scanJobs)
    (hWay :
      ∀ o ∈ scans «namespace» name cluster'.scanJobs,
        ScanRun.ProgressInvariant (ScanRun.onObject o))
    (hScans :
      scans «namespace» name cluster.scanJobs ≠ [] →
        scans «namespace» name cluster'.scanJobs ≠ []) :
    Sound «namespace» name cluster' := by
  have hPhase :
      phaseOf «namespace» name cluster' =
        phaseOf «namespace» name cluster := by
    rw [phaseOf, hSame, phaseOf]
  exact
    { validation := by
        rw [hSame]
        exact hSound.validation
      tenant_form := hForm
      tenant_there := fun hLater =>
        hTenant (hSound.tenant_there (by rwa [← hPhase]))
      orderly := hOrderly
      on_their_way := hWay
      scans_there := fun hScanning =>
        hScans (hSound.scans_there (by rwa [← hPhase])) }

omit [Blake3] in
/-
  A turn that leaves the validation alone is onward when its
  tenant stays ready and its scan jobs move forward.
-/
theorem onward_of_validationIn_eq
    (hSame :
      cluster'.validationIn «namespace» name =
        cluster.validationIn «namespace» name)
    (hReady :
      tenantIsReady «namespace» name cluster = true →
        tenantIsReady «namespace» name cluster' = true)
    (hScans :
      ∀ o' ∈ scans «namespace» name cluster'.scanJobs,
        ∃ o ∈ scans «namespace» name cluster.scanJobs,
          o.key = o'.key ∧ scanRank o' ≤ scanRank o) :
    Onward «namespace» name cluster cluster' where
  phase_le := by rw [phaseOf, phaseOf, hSame]
  decided _ := by
    rw [phaseOf, phaseOf, hSame]
    exact ⟨rfl, rfl⟩
  tenant_kept := hReady
  scans_le _ _ := hScans

omit [SerdeJson] [Blake3] in
/- A tenant is ready if its status has the phase of it. -/
theorem tenantIsReady_iff
    {o : Stored AkeylessEphemeralTenantSpec}
    (hFind :
      tenantFind «namespace» name cluster.tenants = some o)
    (hForm :
      TenantRun.TenantInvariant (fun _ => True)
        (TenantRun.onObject o)) :
    tenantIsReady «namespace» name cluster = true ↔
      (TenantRun.onObject o).status.phase = some .ready := by
  rcases TenantRun.readTenant_object hForm.readable with
    ⟨t, _, hRead, _, _, _, hStatus, _⟩
  have hShown :
      isReady t = true ↔
        t.statusOrDefault.phase = some .ready ∨
          t.statusOrDefault.phase = some .scanning := by
    unfold isReady AkeylessEphemeralTenant.statusOrDefault
    rcases t.status with _ | ⟨_ | phase, _⟩
    · simp [AkeylessEphemeralTenantStatus.default]
    · simp
    · cases phase <;> simp
  have hRead : Api.readTenant o = some t := hRead
  rw [tenantIsReady, hFind, Option.bind_some, hRead,
    Option.any_some, hShown, hStatus]
  have hPhases := hForm.form
  generalize (TenantRun.onObject o).status = st at hPhases ⊢
  cases hPhases <;> simp [AkeylessEphemeralTenantStatus.default]

variable {ctx : ReconcileCtx} {t : AkeylessEphemeralTenant}

omit [SerdeJson] [Blake3] in
/- What is stored of the tenant that a turn is about. -/
theorem exists_stored_of_tenantIn
    (hTenant :
      cluster.tenantIn «namespace» (tenantNameOf name) =
        some t)
    (hForm :
      ∀ o, tenantFind «namespace» name cluster.tenants =
          some o →
        TenantRun.TenantInvariant (fun _ => True)
          (TenantRun.onObject o)) :
    ∃ o old,
      tenantFind «namespace» name cluster.tenants = some o ∧
        t.metadata = o.metadata ∧
        o.key = («namespace», tenantNameOf name) ∧
        AkeylessEphemeralTenantStatus.ofStored o.status =
          some old ∧
        old.getD .default =
          (TenantRun.onObject o).status ∧
        t.statusOrDefault = (TenantRun.onObject o).status ∧
        t.currentPhase = (TenantRun.onObject o).phase := by
  rcases Option.bind_eq_some_iff.mp hTenant with
    ⟨o, hFind, hRead⟩
  rcases TenantRun.readTenant_object
    (hForm o hFind).readable with
    ⟨t', old, hRead', hOld, hStatus, hMetadata, hNow,
      hPhase⟩
  obtain rfl : t' = t := Option.some.inj
    ((show Api.readTenant o = some t' from
      hRead').symm.trans hRead)
  exact ⟨o, old, hFind, hMetadata,
    Stored.key_of_find? hFind, hOld, hStatus, hNow,
    hPhase⟩

omit [SerdeJson] [Blake3] in
/- The tenant after its turn's answer was patched in. -/
theorem tenantFind_of_patchedTenants
    {o : Stored AkeylessEphemeralTenantSpec}
    (hFind :
      tenantFind «namespace» name cluster.tenants = some o)
    (hMetadata : t.metadata = o.metadata)
    (hKey : o.key = («namespace», tenantNameOf name))
    {new : AkeylessEphemeralTenantStatus}
    (hPatched :
      cluster'.tenants =
        EphemeralTenant.patchedTenants t new
          cluster.tenants) :
    tenantFind «namespace» name cluster'.tenants =
      some (o.patchStatus
        (.obj [("status", new.toValue)])) := by
  have hNamespace :
      t.metadata.namespaceOrDefault = «namespace» :=
    (congrArg ObjectMeta.namespaceOrDefault hMetadata).trans
      (congrArg Prod.fst hKey)
  have hName : t.metadata.nameAny = tenantNameOf name :=
    (congrArg ObjectMeta.nameAny hMetadata).trans
      (congrArg Prod.snd hKey)
  rcases Stored.find?_patchNamed
    (.obj [("status", new.toValue)]) hFind with
    ⟨os', hPatch, hFound⟩
  rw [hPatched, EphemeralTenant.patchedTenants, hNamespace,
    hName, hPatch]
  exact hFound

omit [Chrono] [SerdeJson] [Blake3] in
/- Of the cluster only the services matter to a tenant. -/
theorem readinessIn_congr
    (hServices : cluster'.services = cluster.services)
    (target : Option String) :
    EphemeralTenant.readinessIn cluster' target =
      EphemeralTenant.readinessIn cluster target := by
  unfold EphemeralTenant.readinessIn
  rw [hServices]

omit [Chrono] [SerdeJson] [Blake3] in
theorem answerIn_congr
    (hServices : cluster'.services = cluster.services) :
    EphemeralTenant.answerIn ctx cluster' t =
      EphemeralTenant.answerIn ctx cluster t := by
  unfold EphemeralTenant.answerIn
  rw [readinessIn_congr hServices]

omit [SerdeJson] [Blake3] in
/- Whatever the answer was, it keeps the form of a status. -/
theorem tenantInvariant_patchStatus
    {o : Stored AkeylessEphemeralTenantSpec}
    (hForm :
      TenantRun.TenantInvariant (fun _ => True)
        (TenantRun.onObject o))
    (hMetadata : t.metadata = o.metadata)
    (hNow :
      t.statusOrDefault = (TenantRun.onObject o).status)
    (hPhase :
      t.currentPhase = (TenantRun.onObject o).phase)
    {old : Option AkeylessEphemeralTenantStatus}
    (hOld :
      AkeylessEphemeralTenantStatus.ofStored o.status =
        some old)
    (hStatus :
      old.getD .default = (TenantRun.onObject o).status)
    {new : AkeylessEphemeralTenantStatus}
    (hAnswer :
      EphemeralTenant.answerIn ctx cluster t = some new) :
    let after := TenantRun.onObject
      (o.patchStatus (.obj [("status", new.toValue)]))
    TenantRun.TenantInvariant (fun _ => True) after ∧
      TenantRun.FollowedBy (TenantRun.onObject o).status
        after.status ∧
      (EphemeralTenant.readinessIn cluster
          (EphemeralTenant.resolveDastTarget ctx.env) ≠
            .waiting →
        after.status.phase = some .ready) := by
  intro after
  let e : TenantRun.Event :=
    { ctx := ctx, surroundings := cluster, faults := [] }
  have hServices :
      ((TenantRun.onObject o).world e).cluster.services =
        cluster.services := rfl
  have hWrites : (TenantRun.onObject o).Writes e after := by
    refine ⟨t, new, hMetadata, hNow, hPhase,
      (answerIn_congr hServices).trans hAnswer, ?_⟩
    rw [← hStatus]
    exact AkeylessEphemeralTenantStatus.ofStored_merge new
      hOld
  rcases TenantRun.status_of_writes hForm trivial hWrites with
    ⟨hInv, hFollows, hMade⟩
  refine ⟨hInv, hFollows, fun hReadiness => ?_⟩
  rw [← readinessIn_congr hServices] at hReadiness
  exact (hMade hReadiness).phase

/- A turn of its tenant keeps a cluster sound, too. -/
theorem tenant_turn
    (hSound : Sound «namespace» name cluster)
    (hTenant :
      cluster.tenantIn «namespace» (tenantNameOf name) =
        some t)
    {w : World}
    (hCluster : w.cluster = cluster)
    (hAfter :
      ((EphemeralTenant.reconcile ctx t).exec
        w).2.cluster = cluster') :
    Sound «namespace» name cluster' ∧
      Onward «namespace» name cluster cluster' := by
  rcases exists_stored_of_tenantIn hTenant
    hSound.tenant_form with
    ⟨o, old, hFind, hMetadata, hKey, hOld, hStatus, hNow,
      hPhase⟩
  have hForm := hSound.tenant_form o hFind
  have hKept := EphemeralTenant.keeps_reconcile ctx t w
  dsimp only at hKept
  rw [hAfter, hCluster] at hKept
  rcases Prod.mk.inj hKept with ⟨hValidations, hJobs⟩
  have hSame :
      cluster'.validationIn «namespace» name =
        cluster.validationIn «namespace» name :=
    validationIn_of_eq hValidations
  have hCases := EphemeralTenant.tenants_exec_reconcile ctx t w
  unfold EphemeralTenant.tenants at hCases
  rw [hAfter, hCluster] at hCases
  have hTenants :
      ∃ o', tenantFind «namespace» name cluster'.tenants =
          some o' ∧
        TenantRun.TenantInvariant (fun _ => True)
          (TenantRun.onObject o') ∧
        TenantRun.FollowedBy (TenantRun.onObject o).status
          (TenantRun.onObject o').status := by
    rcases hCases with hSame | ⟨new, hAnswer, hPatched⟩
    · exact ⟨o, hSame ▸ hFind, hForm, fun _ h => h,
        fun _ => rfl⟩
    · rcases tenantInvariant_patchStatus hForm hMetadata
        hNow hPhase hOld hStatus hAnswer with
        ⟨hInv, hFollows, _⟩
      exact ⟨_, tenantFind_of_patchedTenants hFind
        hMetadata hKey hPatched, hInv, hFollows⟩
  rcases hTenants with ⟨o', hFind', hForm', hFollows⟩
  constructor
  · refine sound_of_validationIn_eq hSound hSame ?_ ?_ ?_ ?_ ?_
    · intro p hp
      rw [← Option.some.inj (hFind'.symm.trans hp)]
      exact hForm'
    · intro _
      rw [hFind']
      rfl
    · rw [hJobs]
      exact hSound.orderly
    · rw [hJobs]
      exact hSound.on_their_way
    · rw [hJobs]
      exact id
  · refine onward_of_validationIn_eq hSame ?_ ?_
    · rw [tenantIsReady_iff hFind hForm,
        tenantIsReady_iff hFind' hForm']
      intro hReady
      rw [hFollows.ready_kept hReady]
      exact hReady
    · rw [hJobs]
      exact fun o hMem => ⟨o, hMem, rfl, le_rfl⟩

/- With its target there the tenant is ready after a turn. -/
theorem tenantIsReady_tenant_turn
    (hSound : Sound «namespace» name cluster)
    (hTenant :
      cluster.tenantIn «namespace» (tenantNameOf name) =
        some t)
    (hTarget :
      EphemeralTenant.readinessIn cluster
        (EphemeralTenant.resolveDastTarget ctx.env) ≠
          .waiting)
    {w : World}
    (hQuiet : w.faults = [])
    (hCluster : w.cluster = cluster)
    (hAfter :
      ((EphemeralTenant.reconcile ctx t).exec
        w).2.cluster = cluster') :
    tenantIsReady «namespace» name cluster' = true := by
  rcases exists_stored_of_tenantIn hTenant
    hSound.tenant_form with
    ⟨o, old, hFind, hMetadata, hKey, hOld, hStatus, hNow,
      hPhase⟩
  have hForm := hSound.tenant_form o hFind
  rcases TenantRun.phase_of_form hForm.form with
    ⟨hReady, _⟩ | ⟨_, hOpen⟩
  · exact (tenant_turn hSound hTenant hCluster
      hAfter).2.tenant_kept
        ((tenantIsReady_iff hFind hForm).mpr hReady)
  · have hAnswer :=
      TenantRun.answerIn_of_open hPhase hOpen ctx cluster
    have hPatched :
        EphemeralTenant.tenants
            ((EphemeralTenant.reconcile ctx t).exec w).2 =
          EphemeralTenant.patchedTenants t _
            (EphemeralTenant.tenants w) :=
      EphemeralTenant.tenants_exec_reconcile_of_quiet hQuiet
        (by rw [hCluster]; exact hAnswer) (fun patch => by
          rcases Stored.find?_patchNamed patch hFind with
            ⟨os', hPatch, _⟩
          refine ⟨os', ?_⟩
          rw [EphemeralTenant.tenants, hCluster, hMetadata]
          rw [Stored.key, Prod.mk.injEq] at hKey
          rw [hKey.1, hKey.2]
          exact hPatch)
    unfold EphemeralTenant.tenants at hPatched
    rw [hAfter, hCluster] at hPatched
    rcases tenantInvariant_patchStatus hForm hMetadata hNow
      hPhase hOld hStatus hAnswer with ⟨hInv, _, hArrives⟩
    rw [tenantIsReady_iff
      (tenantFind_of_patchedTenants hFind hMetadata hKey
        hPatched) hInv]
    exact hArrives hTarget

end Pipeline

end EngenhoPromessa

------------------------------------------------------------
-- A Turn Of A Scan Job
------------------------------------------------------------

namespace EngenhoPromessa

namespace Pipeline

open Fallible ImageValidation ScanJobController

variable {«namespace» name : String}

/- A scan job is there as it was, or it is the patched one. -/
theorem mem_scans_of_patchNamed
    {«namespace'» name' : String}
    {patch : Json}
    {jobs jobs' : List (Stored ScanJobSpec)}
    (hPatch :
      Stored.patchNamed «namespace'» name' patch jobs =
        some jobs') :
    ∃ p, jobs.find? (fun o =>
          o.isNamed «namespace'» name') = some p ∧
      ∀ o ∈ scans «namespace» name jobs',
        o ∈ scans «namespace» name jobs ∨
          o = p.patchStatus patch ∧
            p ∈ scans «namespace» name jobs := by
  rcases Stored.found_of_patchNamed hPatch with
    ⟨p, hFind, _, hCame, _⟩
  refine ⟨p, hFind, fun o hMem => ?_⟩
  rcases List.mem_filter.mp hMem with ⟨hIn, hOwn⟩
  rcases hCame o hIn with hOld | rfl
  · exact .inl (List.mem_filter.mpr ⟨hOld, hOwn⟩)
  · exact .inr ⟨rfl, List.mem_filter.mpr
      ⟨List.mem_of_find?_eq_some hFind, hOwn⟩⟩

/- Patching takes no scan job away. -/
theorem scans_ne_nil_of_patchNamed
    {«namespace'» name' : String}
    {patch : Json}
    {jobs jobs' : List (Stored ScanJobSpec)}
    (hPatch :
      Stored.patchNamed «namespace'» name' patch jobs =
        some jobs')
    (hSome : scans «namespace» name jobs ≠ []) :
    scans «namespace» name jobs' ≠ [] := by
  rcases Stored.found_of_patchNamed hPatch with
    ⟨p, _, hPatched, _, hStays⟩
  rcases List.exists_mem_of_ne_nil _ hSome with ⟨o, hMem⟩
  rcases List.mem_filter.mp hMem with ⟨hIn, hOwn⟩
  rcases hStays o hIn with hThere | rfl
  · exact List.ne_nil_of_mem
      (List.mem_filter.mpr ⟨hThere, hOwn⟩)
  · exact List.ne_nil_of_mem
      (List.mem_filter.mpr ⟨hPatched, hOwn⟩)

variable [Chrono] [SerdeJson]

/- A patch of the phase leaves a status that can be read. -/
theorem readScanJob_patchStatus
    {o : Stored ScanJobSpec}
    {sj : ScanJob}
    (hRead : Api.readScanJob o = some sj)
    (phase : ScanJobPhase)
    (findings : Option (List ScanFinding))
    (attestation : Option AttestationRef) :
    Api.readScanJob (o.patchStatus
        (.obj [("status", Json.record
          (phaseFields phase findings attestation))])) =
      some { sj with
        status := some (patchedStatus
          (sj.status.getD .default) phase findings
          attestation) } := by
  rcases Option.map_eq_some_iff.mp hRead with
    ⟨old, hOld, rfl⟩
  exact Option.map_eq_some_iff.mpr ⟨_,
    ofStored_merge_phaseFields phase findings attestation
      hOld, rfl⟩

/- A scan job's status patch keeps the scan jobs in order. -/
theorem orderly_patchNamed
    {jobs jobs' : List (Stored ScanJobSpec)}
    (hOrderly : Orderly «namespace» name jobs)
    {«namespace'» name' : String}
    {phase : ScanJobPhase}
    {findings : Option (List ScanFinding)}
    {attestation : Option AttestationRef}
    (hPatch :
      Stored.patchNamed «namespace'» name'
          (.obj [("status", Json.record
            (phaseFields phase findings attestation))])
          jobs =
        some jobs') :
    Orderly «namespace» name jobs' := by
  rcases Stored.found_of_patchNamed hPatch with
    ⟨p, hFind, _, hCame, _⟩
  have hThere := List.mem_of_find?_eq_some hFind
  constructor
  · rw [Stored.map_key_patchNamed hPatch]
    exact hOrderly.nodup
  · intro o hMem hOwn
    rcases hCame o hMem with hOld | rfl
    · exact hOrderly.readable o hOld hOwn
    · rcases Option.isSome_iff_exists.mp
        (hOrderly.readable p hThere hOwn) with ⟨sj, hRead⟩
      rw [readScanJob_patchStatus hRead]
      rfl
  · intro o hMem scanner hKey
    rcases hCame o hMem with hOld | rfl
    · exact hOrderly.named o hOld scanner hKey
    · exact hOrderly.named p hThere scanner hKey

variable [Blake3]
variable {cluster cluster' : Cluster}
variable {ctx : ReconcileCtx} {sj : ScanJob}

/- A scan job that is patched is one phase further. -/
theorem progressInvariant_patchStatus
    {o : Stored ScanJobSpec}
    (hWay : ScanRun.ProgressInvariant (ScanRun.onObject o))
    (hRead : Api.readScanJob o = some sj)
    {phase : ScanJobPhase}
    {findings : Option (List ScanFinding)}
    {attestation : Option AttestationRef}
    (hPatches : Patches ctx sj phase findings attestation) :
    let after := o.patchStatus
      (.obj [("status", Json.record
        (phaseFields phase findings attestation))])
    ScanRun.ProgressInvariant (ScanRun.onObject after) ∧
      scanRank after < scanRank o := by
  intro after
  rcases Option.map_eq_some_iff.mp hRead with
    ⟨old, hOld, hObject⟩
  have hStatus :
      old.getD .default = (ScanRun.onObject o).status := by
    rw [ScanRun.status, ScanRun.onObject, hOld,
      Option.join_some]
  have hStored :
      ScanJobStatus.ofStored (ScanRun.onObject after).stored =
        some (some (patchedStatus (ScanRun.onObject o).status
          phase findings attestation)) := by
    rw [← hStatus]
    exact ofStored_merge_phaseFields phase findings
      attestation hOld
  have hAfter :
      (ScanRun.onObject after).status =
        patchedStatus (ScanRun.onObject o).status phase
          findings attestation := by
    rw [ScanRun.status, hStored]
    rfl
  have hPhase := (ScanRun.phase_of_readScanJob
    (s := ScanRun.onObject o) hRead).1
  rcases ScanRun.statusInvariant_of_writes hWay.1.status
    ⟨ctx, sj, phase, findings, attestation, hPhase,
      hPatches, rfl⟩ with ⟨hInv, hNext⟩
  rcases ScanRun.rank_of_nextPhase hNext with ⟨hOn, hLess⟩
  rw [← hAfter] at hInv hOn hLess
  exact ⟨⟨⟨by rw [hStored]; rfl, hInv⟩, hOn⟩, hLess⟩

omit [Blake3] in
/- What is stored of the scan job that a turn is about. -/
theorem exists_stored_of_scanJobIn
    {«namespace'» name' : String}
    (hScan :
      cluster.scanJobIn «namespace'» name' = some sj) :
    ∃ o, cluster.scanJobs.find? (fun o =>
          o.isNamed «namespace'» name') = some o ∧
      Api.readScanJob o = some sj ∧
      sj.metadata.namespaceOrDefault = «namespace'» ∧
      sj.metadata.nameAny = name' ∧
      o.key = («namespace'», name') := by
  rcases Option.bind_eq_some_iff.mp hScan with
    ⟨o, hFind, hRead⟩
  have hKey := Stored.key_of_find? hFind
  have hMetadata : sj.metadata = o.metadata :=
    (ScanRun.phase_of_readScanJob
      (s := ScanRun.onObject o) hRead).2
  exact ⟨o, hFind, hRead,
    (congrArg ObjectMeta.namespaceOrDefault hMetadata).trans
      (congrArg Prod.fst hKey),
    (congrArg ObjectMeta.nameAny hMetadata).trans
      (congrArg Prod.snd hKey), hKey⟩

/- None of the scan jobs is taken away or led back. -/
theorem scans_scan_turn
    (hEmpty : PrintsEmptyList)
    (hSound : Sound «namespace» name cluster)
    {«namespace'» name' : String}
    (hScan :
      cluster.scanJobIn «namespace'» name' = some sj)
    {w : World}
    (hCluster : w.cluster = cluster)
    (hAfter :
      ((ScanJobController.reconcile ctx sj).exec
        w).2.cluster = cluster') :
    Orderly «namespace» name cluster'.scanJobs ∧
      (scans «namespace» name cluster.scanJobs ≠ [] →
        scans «namespace» name cluster'.scanJobs ≠ []) ∧
      ∀ o' ∈ scans «namespace» name cluster'.scanJobs,
        ScanRun.ProgressInvariant (ScanRun.onObject o') ∧
          ∃ o ∈ scans «namespace» name cluster.scanJobs,
            o.key = o'.key ∧ scanRank o' ≤ scanRank o := by
  have hCases :=
    ScanJobController.exec_reconcile_cases hEmpty ctx sj w
  unfold scanJobs at hCases
  rw [hAfter, hCluster] at hCases
  rcases hCases with hJobs | ⟨phase, findings, attestation,
    hPatches, hPatch⟩
  · rw [hJobs]
    exact ⟨hSound.orderly, id, fun o hMem =>
      ⟨hSound.on_their_way o hMem, o, hMem, rfl, le_rfl⟩⟩
  · rcases exists_stored_of_scanJobIn hScan with
      ⟨o, hFind, hRead, hNamespace, hName, _⟩
    rw [hNamespace, hName] at hPatch
    refine ⟨orderly_patchNamed hSound.orderly hPatch,
      scans_ne_nil_of_patchNamed hPatch,
      fun o' hMem => ?_⟩
    rcases mem_scans_of_patchNamed hPatch with
      ⟨p, hFind', hCame⟩
    obtain rfl : p = o :=
      Option.some.inj (hFind'.symm.trans hFind)
    rcases hCame o' hMem with hOld | ⟨rfl, hThere⟩
    · exact ⟨hSound.on_their_way o' hOld, o', hOld, rfl,
        le_rfl⟩
    · rcases progressInvariant_patchStatus
        (hSound.on_their_way p hThere) hRead hPatches with
        ⟨hWay, hLess⟩
      exact ⟨hWay, p, hThere, rfl, hLess.le⟩

/- A turn of a scan job keeps a cluster sound, too. -/
theorem scan_turn
    (hEmpty : PrintsEmptyList)
    (hSound : Sound «namespace» name cluster)
    {«namespace'» name' : String}
    (hScan :
      cluster.scanJobIn «namespace'» name' = some sj)
    {w : World}
    (hCluster : w.cluster = cluster)
    (hAfter :
      ((ScanJobController.reconcile ctx sj).exec
        w).2.cluster = cluster') :
    Sound «namespace» name cluster' ∧
      Onward «namespace» name cluster cluster' := by
  have hKept := ScanJobController.keeps_reconcile ctx sj w
  dsimp only at hKept
  rw [hAfter, hCluster] at hKept
  rcases Prod.mk.inj hKept with ⟨hValidations, hTenants⟩
  have hSame :
      cluster'.validationIn «namespace» name =
        cluster.validationIn «namespace» name :=
    validationIn_of_eq hValidations
  have hReady :
      tenantIsReady «namespace» name cluster' =
        tenantIsReady «namespace» name cluster := by
    rw [tenantIsReady, hTenants, tenantIsReady]
  rcases scans_scan_turn hEmpty hSound hScan hCluster hAfter
    with ⟨hOrderly, hScans, hAll⟩
  refine ⟨sound_of_validationIn_eq hSound hSame ?_ ?_
      hOrderly (fun o hMem => (hAll o hMem).1) hScans,
    onward_of_validationIn_eq hSame (fun h => ?_)
      (fun o hMem => (hAll o hMem).2)⟩
  · rw [hTenants]
    exact hSound.tenant_form
  · rw [hTenants]
    exact id
  · rwa [hReady]

omit [Blake3] in
/- A scan job is the only one of its name. -/
theorem eq_of_key_eq
    {jobs : List (Stored ScanJobSpec)}
    (hOrderly : Orderly «namespace» name jobs)
    {o p : Stored ScanJobSpec}
    (ho : o ∈ jobs)
    (hp : p ∈ jobs)
    (hKey : o.key = p.key) :
    o = p :=
  List.inj_on_of_nodup_map hOrderly.nodup ho hp hKey

omit [Blake3] in
/- A patched scan job has the rank of the phase it was given. -/
theorem scanRank_patchStatus
    {o : Stored ScanJobSpec}
    (hRead : Api.readScanJob o = some sj)
    (phase : ScanJobPhase)
    (findings : Option (List ScanFinding))
    (attestation : Option AttestationRef) :
    scanRank (o.patchStatus
      (.obj [("status", Json.record
        (phaseFields phase findings attestation))])) =
      phase.rank := by
  let after := o.patchStatus
    (.obj [("status", Json.record
      (phaseFields phase findings attestation))])
  have hPhase := (ScanRun.phase_of_readScanJob
    (s := ScanRun.onObject after)
    (readScanJob_patchStatus hRead phase findings
      attestation)).1
  exact congrArg ScanJobPhase.rank hPhase.symm

/- One that is not held up is one phase further. -/
theorem scanRank_scan_turn
    (hEmpty : PrintsEmptyList)
    (hSound : Sound «namespace» name cluster)
    {«namespace'» name' : String}
    (hScan :
      cluster.scanJobIn «namespace'» name' = some sj)
    (hUnblocked :
      ScanJobController.unblocked cluster sj = true)
    {w : World}
    (hQuiet : w.faults = [])
    (hCluster : w.cluster = cluster)
    (hAfter :
      ((ScanJobController.reconcile ctx sj).exec
        w).2.cluster = cluster')
    {o' : Stored ScanJobSpec}
    (hMem : o' ∈ scans «namespace» name cluster'.scanJobs)
    (hKey : o'.key = («namespace'», name')) :
    ∃ o ∈ scans «namespace» name cluster.scanJobs,
      o.key = («namespace'», name') ∧
        scanRank o' ≤ scanRank o - 1 := by
  rcases exists_stored_of_scanJobIn hScan with
    ⟨p, hFind, hRead, hNamespace, hName, hFound⟩
  rcases scans_scan_turn hEmpty hSound hScan hCluster hAfter
    with ⟨hOrderly, _, hAll⟩
  rcases (hAll o' hMem).2 with ⟨o, hOld, hSame, hLe⟩
  obtain rfl : o = p :=
    eq_of_key_eq hSound.orderly (List.mem_filter.mp hOld).1
      (List.mem_of_find?_eq_some hFind)
      ((hSame.trans hKey).trans hFound.symm)
  refine ⟨o, hOld, hFound, ?_⟩
  have hPhase := (ScanRun.phase_of_readScanJob
    (s := ScanRun.onObject o) hRead).1
  rcases Nat.eq_zero_or_pos (scanRank o) with hDone | hOpen
  · rwa [hDone] at hLe ⊢
  · rcases ScanJobController.exec_reconcile_of_unblocked ctx
      (w := w) hQuiet (by rw [hPhase]; exact hOpen)
      (by rwa [hCluster]) (fun patch => by
        rcases Stored.find?_patchNamed patch hFind with
          ⟨jobs, hPatch, _⟩
        refine ⟨jobs, ?_⟩
        rw [hNamespace, hName, scanJobs, hCluster]
        exact hPatch) with
      ⟨phase, findings, attestation, hRank, hPatch⟩
    unfold scanJobs at hPatch
    rw [hAfter, hCluster, hNamespace, hName] at hPatch
    rcases Stored.found_of_patchNamed hPatch with
      ⟨p, hFind', hPatched, _, _⟩
    obtain rfl : p = o :=
      Option.some.inj (hFind'.symm.trans hFind)
    rw [eq_of_key_eq hOrderly (List.mem_filter.mp hMem).1
        hPatched (hKey.trans hFound.symm),
      scanRank_patchStatus hRead, hRank, hPhase]
    exact le_rfl

end Pipeline

end EngenhoPromessa

------------------------------------------------------------
-- A Receipt For The Validation
------------------------------------------------------------

namespace EngenhoPromessa

namespace Pipeline

open Fallible ImageValidation

variable [Chrono] [SerdeJson] [Blake3]
variable {«namespace» name : String}
variable {cluster cluster' : Cluster}
variable {ctx : ReconcileCtx} {obj : AkeylessImageValidation}

/- The object after a receipt was put into its status. -/
def signed
    (obj : AkeylessImageValidation)
    (receipt : OutcomeReceiptRef) :
    AkeylessImageValidation :=
  { obj with
    status := some { obj.statusOrDefault with
      outcomeReceiptRef := some receipt } }

omit [Blake3] in
/- A receipt is all that its writer changes. -/
theorem validationIn_of_signed
    (hObj :
      cluster.validationIn «namespace» name = some obj)
    (receipt : OutcomeReceiptRef)
    (hPatch :
      Stored.patchNamed «namespace» name
          (.obj [("status", receiptPatch receipt)])
          cluster.validations =
        some cluster'.validations) :
    cluster'.validationIn «namespace» name =
      some (signed obj receipt) := by
  rcases exists_stored_of_validationIn hObj with
    ⟨o, hFind, hOld, hMeta, hSpec, _, _⟩
  rcases Stored.find?_patchNamed
    (.obj [("status", receiptPatch receipt)]) hFind with
    ⟨os', hPatch', hFind'⟩
  obtain rfl : os' = cluster'.validations :=
    Option.some.inj (hPatch'.symm.trans hPatch)
  rw [Cluster.validationIn, hFind']
  refine Option.map_eq_some_iff.mpr
    ⟨_, AkeylessImageValidationStatus.ofStored_merge_receipt
      receipt hOld, ?_⟩
  rw [signed, hMeta, hSpec]
  rfl

omit [Chrono] [SerdeJson] [Blake3] in
/- A receipt changes neither the phase nor the decision. -/
theorem currentPhase_signed
    (obj : AkeylessImageValidation)
    (receipt : OutcomeReceiptRef) :
    (signed obj receipt).currentPhase = obj.currentPhase ∧
      (signed obj receipt).gateDecision? =
        obj.gateDecision? := by
  refine ⟨RunState.phase_statusOrDefault obj, ?_⟩
  unfold signed AkeylessImageValidation.gateDecision?
    AkeylessImageValidation.statusOrDefault
  cases obj.status with
  | none => rfl
  | some st => rfl

omit [Chrono] [SerdeJson] [Blake3] in
/- Receipts are given to validations at their end. -/
theorem consistent_signed
    (hConsistent : Consistent name obj)
    (hEnded : obj.currentPhase.isTerminal = true)
    (receipt : OutcomeReceiptRef) :
    Consistent name (signed obj receipt) where
  writable := hConsistent.writable
  fields := by
    rw [(currentPhase_signed obj receipt).1]
    have hFields := hConsistent.fields
    exact
      { evidence_present := hFields.evidence_present
        gate_present := hFields.gate_present
        terminalAt_present := hFields.terminalAt_present
        phase_is_verdict := hFields.phase_is_verdict
        receipt_terminal := fun _ => hEnded }
  tenant_ref := hConsistent.tenant_ref

/- The outcome chain leaves a sound cluster sound. -/
theorem receipt_turn
    (hSound : Sound «namespace» name cluster)
    (hObj :
      cluster.validationIn «namespace» name = some obj)
    (hScope : ctx.namespace.getD «namespace» = «namespace»)
    {w : World}
    (hCluster : w.cluster = cluster)
    (hAfter :
      ((OutcomeChain.handle ctx obj).exec w).2.cluster =
        cluster') :
    Sound «namespace» name cluster' ∧
      Onward «namespace» name cluster cluster' := by
  have hKept := OutcomeChain.keeps_handle ctx obj w
  dsimp only at hKept
  rw [hAfter, hCluster] at hKept
  rcases Prod.mk.inj hKept with ⟨hTenants, hJobs⟩
  have hCases :=
    OutcomeChain.exec_handle_validations ctx obj w
  dsimp only at hCases
  rw [hAfter, hCluster] at hCases
  have hReady :
      tenantIsReady «namespace» name cluster' =
        tenantIsReady «namespace» name cluster := by
    rw [tenantIsReady, hTenants, tenantIsReady]
  have hValidation :
      ∃ obj', cluster'.validationIn «namespace» name =
          some obj' ∧
        Consistent name obj' ∧
        obj'.currentPhase = obj.currentPhase ∧
        obj'.gateDecision? = obj.gateDecision? := by
    have hConsistent := consistent_of_sound hSound hObj
    rcases hCases with hSame | ⟨hEnded, ns, hNs, hPatch⟩
    · exact ⟨obj, (validationIn_of_eq hSame).trans hObj,
        hConsistent, rfl, rfl⟩
    · rcases exists_stored_of_validationIn hObj with
        ⟨_, _, _, _, _, _, hName⟩
      rw [hNs, Option.getD_some] at hScope
      rw [hScope, hName] at hPatch
      exact ⟨_, validationIn_of_signed hObj _ hPatch,
        consistent_signed hConsistent hEnded _,
        currentPhase_signed obj _⟩
  rcases hValidation with
    ⟨obj', hObj', hConsistent, hPhase, hGate⟩
  have hPhases :
      phaseOf «namespace» name cluster' =
        phaseOf «namespace» name cluster := by
    rw [phaseOf_eq hObj', phaseOf_eq hObj, hPhase]
  constructor
  · exact
      { validation := ⟨obj', hObj', hConsistent⟩
        tenant_form := by
          rw [hTenants]
          exact hSound.tenant_form
        tenant_there := by
          rw [hPhases, hTenants]
          exact hSound.tenant_there
        orderly := by
          rw [hJobs]
          exact hSound.orderly
        on_their_way := by
          rw [hJobs]
          exact hSound.on_their_way
        scans_there := by
          rw [hPhases, hJobs]
          exact hSound.scans_there }
  · exact
      { phase_le := by rw [hPhases]
        decided := fun _ => ⟨hPhases, by
          rw [hObj', hObj]
          exact hGate⟩
        tenant_kept := fun h => by rwa [hReady]
        scans_le := fun _ _ o hMem =>
          ⟨o, by rwa [hJobs] at hMem, rfl, le_rfl⟩ }

end Pipeline

end EngenhoPromessa
