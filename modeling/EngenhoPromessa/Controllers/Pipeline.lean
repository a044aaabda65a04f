import EngenhoPromessa.Controllers.Platform
import EngenhoPromessa.Controllers.ScanProgress
import EngenhoPromessa.Controllers.TurnEffects

/-
  A validation with the tenant and the scan jobs it creates,
  inside a cluster that has any other objects.

  A cluster is sound for a validation if what is stored of
  these objects can be read and belongs together. Then what
  is stored of them decides whether the validation is held
  up.

  Key definitions include:
    * `Pipeline.Sound`
    * `Pipeline.Onward`
    * `Pipeline.rank`

  Key theorems include:
    * `Pipeline.childrenIn_eq`
    * `Pipeline.unblocked_of_isServed`
-/

------------------------------------------------------------
-- The Objects Of A Validation
------------------------------------------------------------

namespace EngenhoPromessa

/- What is stored of a scan job, as a run of it has it. -/
def ScanRun.onObject (o : Stored ScanJobSpec) : ScanRun where
  metadata := o.metadata
  spec := o.spec
  stored := o.status

/- A stored tenant as the run of it so far. -/
def TenantRun.onObject
    (o : Stored AkeylessEphemeralTenantSpec) :
    TenantRun where
  metadata := o.metadata
  spec := o.spec
  stored := o.status

namespace Pipeline

open ImageValidation

/- The tenant's name, from its validation's name alone. -/
def tenantNameOf (name : String) : String := "eph-" ++ name

/- The stored tenant of a validation. -/
def tenantFind
    («namespace» name : String)
    (tenants : List (Stored AkeylessEphemeralTenantSpec)) :
    Option (Stored AkeylessEphemeralTenantSpec) :=
  tenants.find? (fun o =>
    o.isNamed «namespace» (tenantNameOf name))

/- The scan job names the validation as its parent. -/
def isScan
    («namespace» name : String)
    (o : Stored ScanJobSpec) : Bool :=
  o.metadata.namespaceOrDefault = «namespace» &&
    o.spec.parentValidation = name

/- The stored scan jobs of a validation. -/
def scans
    («namespace» name : String)
    (jobs : List (Stored ScanJobSpec)) :
    List (Stored ScanJobSpec) :=
  jobs.filter (isScan «namespace» name)

variable [Chrono] [SerdeJson]

/- How many phases a scan job has still to go. -/
def scanRank (o : Stored ScanJobSpec) : Nat :=
  (ScanRun.onObject o).phase.rank

/-
  The scan jobs of the namespace have names of their own and
  can be read, and those named for the validation are its
  own.
-/
structure Orderly
    («namespace» name : String)
    (jobs : List (Stored ScanJobSpec)) : Prop where
  nodup : (jobs.map Stored.key).Nodup
  readable :
    ∀ o ∈ jobs, o.metadata.namespaceOrDefault = «namespace» →
      (Api.readScanJob o).isSome = true
  named :
    ∀ o ∈ jobs, ∀ scanner,
      o.key = («namespace», scanJobNameOf scanner name) →
        o.spec.parentValidation = name

/- The status belongs together and refers to the tenant. -/
structure Consistent
    (name : String)
    (obj : AkeylessImageValidation) : Prop where
  writable : obj.statusOrDefault.Writable
  fields :
    RunState.PhaseInvariant obj.statusOrDefault
      obj.currentPhase
  tenant_ref :
    ∀ ref,
      obj.statusOrDefault.ephemeralTenantRef = some ref →
        ref = tenantNameOf name

/-
  The phase of a validation; a missing one counts as
  pending.
-/
def phaseOf
    («namespace» name : String)
    (cluster : Cluster) : AkeylessImageValidationPhase :=
  (cluster.validationIn «namespace» name).elim .pending
    AkeylessImageValidation.currentPhase

/- Whether the validation's tenant would let it provision. -/
def tenantIsReady
    («namespace» name : String)
    (cluster : Cluster) : Bool :=
  ((tenantFind «namespace» name cluster.tenants).bind
    Api.readTenant).any isReady

/-
  A cluster in which the validation, its tenant and its scan
  jobs are of the form the controllers give them.
-/
structure Sound
    [Blake3]
    («namespace» name : String)
    (cluster : Cluster) : Prop where
  validation :
    ∃ obj, cluster.validationIn «namespace» name = some obj ∧
      Consistent name obj
  tenant_form :
    ∀ o, tenantFind «namespace» name cluster.tenants =
        some o →
      TenantRun.TenantInvariant (fun _ => True)
        (TenantRun.onObject o)
  tenant_there :
    phaseOf «namespace» name cluster ≠ .pending →
      (tenantFind «namespace» name
        cluster.tenants).isSome = true
  orderly : Orderly «namespace» name cluster.scanJobs
  on_their_way :
    ∀ o ∈ scans «namespace» name cluster.scanJobs,
      ScanRun.ProgressInvariant (ScanRun.onObject o)
  scans_there :
    phaseOf «namespace» name cluster = .scanning →
      scans «namespace» name cluster.scanJobs ≠ []

/-
  None of the objects goes back: neither the validation, nor
  a tenant that is ready, nor a scan job that is waited for.
-/
structure Onward
    («namespace» name : String)
    (before after : Cluster) : Prop where
  phase_le :
    (phaseOf «namespace» name after).rank ≤
      (phaseOf «namespace» name before).rank
  decided :
    (phaseOf «namespace» name before).isTerminal = true →
      phaseOf «namespace» name after =
        phaseOf «namespace» name before ∧
      (after.validationIn «namespace» name).bind
          AkeylessImageValidation.gateDecision? =
        (before.validationIn «namespace» name).bind
          AkeylessImageValidation.gateDecision?
  tenant_kept :
    tenantIsReady «namespace» name before = true →
      tenantIsReady «namespace» name after = true
  scans_le :
    phaseOf «namespace» name before = .scanning →
    phaseOf «namespace» name after = .scanning →
      ∀ o' ∈ scans «namespace» name after.scanJobs,
        ∃ o ∈ scans «namespace» name before.scanJobs,
          o.key = o'.key ∧ scanRank o' ≤ scanRank o

/- The scan job that has furthest to go. -/
def furthest
    («namespace» name : String)
    (cluster : Cluster) : Nat :=
  ((scans «namespace» name cluster.scanJobs).map
    scanRank).foldr max 0

/- The rounds still to go, at the most. -/
def rank
    («namespace» name : String)
    (cluster : Cluster) : Nat :=
  match phaseOf «namespace» name cluster with
  | .pending => 11
  | .provisioning =>
      if tenantIsReady «namespace» name cluster then 9 else 10
  | .scanning => 4 + furthest «namespace» name cluster
  | phase => phase.rank

end Pipeline

end EngenhoPromessa

------------------------------------------------------------
-- What A Sound Cluster Shows
------------------------------------------------------------

namespace EngenhoPromessa

namespace Pipeline

open ImageValidation

variable [Chrono] [SerdeJson]
variable {«namespace» name : String} {cluster : Cluster}
variable {obj : AkeylessImageValidation}

/- The stored object a validation was read from. -/
theorem exists_stored_of_validationIn
    (hObj :
      cluster.validationIn «namespace» name = some obj) :
    ∃ o, cluster.validations.find? (fun o =>
          o.isNamed «namespace» name) = some o ∧
      AkeylessImageValidationStatus.ofStored o.status =
        some obj.status ∧
      obj.metadata = o.metadata ∧ obj.spec = o.spec ∧
      obj.metadata.namespaceOrDefault = «namespace» ∧
      obj.metadata.nameAny = name := by
  rcases Option.bind_eq_some_iff.mp hObj with
    ⟨o, hFind, hRead⟩
  rcases Option.map_eq_some_iff.mp hRead with
    ⟨old, hOld, rfl⟩
  have hKey := Stored.key_of_find? hFind
  exact ⟨o, hFind, hOld, rfl, rfl,
    congrArg Prod.fst hKey, congrArg Prod.snd hKey⟩

theorem phaseOf_eq
    (hObj :
      cluster.validationIn «namespace» name = some obj) :
    phaseOf «namespace» name cluster = obj.currentPhase := by
  rw [phaseOf, hObj]
  rfl

/- The tenant a consistent status refers to is its own. -/
theorem tenantRef_eq
    (hObj :
      cluster.validationIn «namespace» name = some obj)
    (hConsistent : Consistent name obj) :
    tenantRef obj = tenantNameOf name := by
  rcases exists_stored_of_validationIn hObj with
    ⟨_, _, _, _, _, _, hName⟩
  have hRef := hConsistent.tenant_ref
  unfold tenantRef
  unfold AkeylessImageValidation.statusOrDefault at hRef
  cases hStatus : obj.status with
  | none =>
      rw [Option.bind_none, Option.getD_none, tenantName,
        hName]
      rfl
  | some st =>
      rw [hStatus] at hRef
      rw [Option.bind_some]
      cases hSome : st.ephemeralTenantRef with
      | none =>
          rw [Option.getD_none, tenantName, hName]
          rfl
      | some ref => exact hRef ref hSome

/- A list of readable scan jobs reads. -/
theorem mapM_readScanJob
    {jobs : List (Stored ScanJobSpec)}
    (hReadable :
      ∀ o ∈ jobs, (Api.readScanJob o).isSome = true) :
    jobs.mapM Api.readScanJob =
      some (jobs.filterMap Api.readScanJob) := by
  induction jobs with
  | nil => rfl
  | cons o jobs ih =>
      rcases List.forall_mem_cons.mp hReadable with
        ⟨hHead, hTail⟩
      rcases Option.isSome_iff_exists.mp hHead with
        ⟨sj, hRead⟩
      rw [List.mapM_cons, ih hTail, hRead,
        List.filterMap_cons_some hRead]
      rfl

/- Choosing by parent and reading commute. -/
theorem filter_filterMap_readScanJob
    (parent : String)
    (jobs : List (Stored ScanJobSpec)) :
    (jobs.filterMap Api.readScanJob).filter
        (fun sj => sj.spec.parentValidation = parent) =
      (jobs.filter (fun o =>
        o.spec.parentValidation = parent)).filterMap
          Api.readScanJob := by
  rw [List.filter_filterMap, List.filterMap_filter]
  refine List.filterMap_congr (fun o _ => ?_)
  cases hRead : Api.readScanJob o with
  | none => simp
  | some sj =>
      rcases Option.map_eq_some_iff.mp hRead with ⟨_, _, rfl⟩
      by_cases hParent : o.spec.parentValidation = parent
      · simp [hParent]
      · simp [hParent]

/- The children that are listed are what is stored of them. -/
theorem childrenIn_eq
    (hOrderly : Orderly «namespace» name cluster.scanJobs)
    (hNamespace :
      obj.metadata.namespaceOrDefault = «namespace»)
    (hName : obj.metadata.nameAny = name) :
    childrenIn cluster obj =
      some ((scans «namespace» name
        cluster.scanJobs).filterMap Api.readScanJob) := by
  rw [childrenIn, hNamespace, hName,
    mapM_readScanJob (fun o hMem => by
      rcases List.mem_filter.mp hMem with ⟨hIn, hOwn⟩
      exact hOrderly.readable o hIn (by simpa using hOwn)),
    Option.map_some, filter_filterMap_readScanJob,
    List.filter_filter]
  have hScans :
      cluster.scanJobs.filter (fun o =>
          decide (o.spec.parentValidation = name) &&
            decide (o.metadata.namespaceOrDefault =
              «namespace»)) =
        scans «namespace» name cluster.scanJobs :=
    List.filter_congr (fun o _ => Bool.and_comm _ _)
  rw [hScans]

omit [SerdeJson] in
/- A tenant of the right form reads. -/
theorem isSome_readTenant
    {o : Stored AkeylessEphemeralTenantSpec}
    (hForm :
      TenantRun.TenantInvariant (fun _ => True)
        (TenantRun.onObject o)) :
    (Api.readTenant o).isSome = true := by
  rw [Api.readTenant, Option.isSome_map]
  exact hForm.readable

variable [Blake3]

/- A scan job on its way that has arrived is finished. -/
theorem isFinished_of_scanRank
    {o : Stored ScanJobSpec}
    (hWay : ScanRun.ProgressInvariant (ScanRun.onObject o))
    (hRank : scanRank o = 0)
    {sj : ScanJob}
    (hRead : Api.readScanJob o = some sj) :
    isFinished sj = true := by
  have hAttested :
      (ScanRun.onObject o).phase = .attested :=
    hWay.2.resolve_right (Nat.not_lt.mpr hRank.le)
  have hPhase :=
    (ScanRun.phase_of_readScanJob
      (s := ScanRun.onObject o) hRead).1
  rw [hAttested] at hPhase
  rw [RunState.isFinished_iff]
  left
  cases hSome : sj.phase with
  | none => simp [hSome] at hPhase
  | some phase =>
      rw [hSome, Option.getD_some] at hPhase
      rw [hPhase]

/- What the validation waits for in its phase is there. -/
def IsServed
    («namespace» name : String)
    (cluster : Cluster) : Prop :=
  (phaseOf «namespace» name cluster = .provisioning →
    tenantIsReady «namespace» name cluster = true) ∧
  (phaseOf «namespace» name cluster = .scanning →
    ∀ o ∈ scans «namespace» name cluster.scanJobs,
      scanRank o = 0)

/- Then its handler is not held up. -/
theorem unblocked_of_isServed
    (hSound : Sound «namespace» name cluster)
    (hObj :
      cluster.validationIn «namespace» name = some obj)
    (hServed : IsServed «namespace» name cluster) :
    unblocked cluster obj = true := by
  rcases exists_stored_of_validationIn hObj with
    ⟨_, _, _, _, _, hNamespace, hName⟩
  have hConsistent : Consistent name obj := by
    rcases hSound.validation with ⟨obj', hObj', hOk⟩
    obtain rfl : obj' = obj :=
      Option.some.inj (hObj'.symm.trans hObj)
    exact hOk
  have hChildren :=
    childrenIn_eq hSound.orderly hNamespace hName
  have hTenantIn :
      tenantIn cluster obj =
        tenantFind «namespace» name cluster.tenants := by
    rw [tenantIn, hNamespace, tenantRef_eq hObj hConsistent]
    rfl
  have hPhase := phaseOf_eq hObj
  unfold unblocked
  simp only [hChildren, hNamespace, hTenantIn, tenantReady,
    childrenFinished]
  cases hCurrent : obj.currentPhase with
  | pending =>
      dsimp only
      rw [all_eq_true_iff]
      intro o hFind
      refine isSome_readTenant (hSound.tenant_form o ?_)
      rw [tenantName, hName] at hFind
      exact hFind
  | provisioning =>
      dsimp only
      rw [Bool.and_eq_true]
      refine ⟨hServed.1 (hPhase.trans hCurrent), ?_⟩
      exact scansReadable_iff.mpr hSound.orderly.readable
  | scanning =>
      have hScanning := hPhase.trans hCurrent
      have hSome := hSound.scans_there hScanning
      have hDone := hServed.2 hScanning
      dsimp only
      rw [Option.any_some, Bool.and_eq_true,
        List.all_eq_true]
      constructor
      · rcases List.exists_mem_of_ne_nil _ hSome with
          ⟨o, hMem⟩
        rcases List.mem_filter.mp hMem with ⟨hIn, hOwn⟩
        rw [isScan, Bool.and_eq_true] at hOwn
        rcases Option.isSome_iff_exists.mp
          (hSound.orderly.readable o hIn
            (by simpa using hOwn.1)) with ⟨sj, hRead⟩
        have hListed :
            sj ∈ (scans «namespace» name
              cluster.scanJobs).filterMap
                Api.readScanJob :=
          List.mem_filterMap.mpr ⟨o, hMem, hRead⟩
        rw [Bool.not_eq_true', List.isEmpty_eq_false_iff]
        exact List.ne_nil_of_mem hListed
      · intro sj hListed
        rcases List.mem_filterMap.mp hListed with
          ⟨o, hMem, hRead⟩
        exact isFinished_of_scanRank
          (hSound.on_their_way o hMem) (hDone o hMem) hRead
  | aggregating => rfl
  | attesting => rfl
  | gating => rfl
  | passed => rfl
  | failed => rfl
  | quarantined => rfl

end Pipeline

end EngenhoPromessa
