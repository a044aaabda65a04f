import EngenhoPromessa.Controllers.Pipeline

/-
  A turn of a validation, seen by the cluster it changes.

  It keeps a sound cluster sound and leads none of its
  objects back, whatever becomes of its calls. If it finds
  what its phase waits for, and its calls are answered, the
  validation is one phase further.

  Key theorems include:
    * `Pipeline.sound_of_exec_nextStatus`
    * `Pipeline.validation_turn`
    * `Pipeline.rank_validation_turn`
-/

------------------------------------------------------------
-- A Turn Of The Validation
------------------------------------------------------------

namespace EngenhoPromessa

namespace Pipeline

open Fallible ImageValidation ScanJobController
open EphemeralTenant AkeylessImageValidationStatus

variable [Chrono] [SerdeJson]
variable {«namespace» name : String}
variable {cluster cluster' : Cluster}
variable {obj : AkeylessImageValidation}

/- The object after a status was merged over its own. -/
def merged
    (obj : AkeylessImageValidation)
    (new : AkeylessImageValidationStatus) :
    AkeylessImageValidation :=
  { obj with
    status := some (obj.statusOrDefault.mergeOver new) }

theorem validationIn_of_eq
    (hSame : cluster'.validations = cluster.validations) :
    cluster'.validationIn «namespace» name =
      cluster.validationIn «namespace» name := by
  rw [Cluster.validationIn, Cluster.validationIn, hSame]

/- A patched validation is found with the status merged in. -/
theorem validationIn_of_patched
    (hObj :
      cluster.validationIn «namespace» name = some obj)
    {new : AkeylessImageValidationStatus}
    (hWritable : new.Writable)
    (hPatch :
      Stored.patchNamed «namespace» name
          (.obj [("status", new.toValue)])
          cluster.validations =
        some cluster'.validations) :
    cluster'.validationIn «namespace» name =
      some (merged obj new) := by
  rcases exists_stored_of_validationIn hObj with
    ⟨o, hFind, hOld, hMeta, hSpec, _, _⟩
  rcases Stored.find?_patchNamed
    (.obj [("status", new.toValue)]) hFind with
    ⟨os', hPatch', hFind'⟩
  obtain rfl : os' = cluster'.validations :=
    Option.some.inj (hPatch'.symm.trans hPatch)
  rw [Cluster.validationIn, hFind']
  refine Option.map_eq_some_iff.mpr
    ⟨_, ofStored_merge hWritable hOld, ?_⟩
  rw [merged, hMeta, hSpec]
  rfl

/- A scan job that a validation has just created. -/
structure IsNewScan
    (metadata : ObjectMeta)
    (o : Stored ScanJobSpec) : Prop where
  no_status : o.status = none
  same_namespace :
    o.metadata.namespaceOrDefault =
      metadata.namespaceOrDefault
  names_parent :
    o.spec.parentValidation = metadata.nameAny

/- A turn of a validation leaves the scan jobs, and adds some. -/
def Extends
    (metadata : ObjectMeta)
    (before after : List (Stored ScanJobSpec)) : Prop :=
  ∃ new, after = before ++ new ∧
    ∀ o ∈ new, IsNewScan metadata o

/- A new scan job at the end keeps the scan jobs in order. -/
theorem orderly_append
    {jobs : List (Stored ScanJobSpec)}
    (hOrderly : Orderly «namespace» name jobs)
    {o : Stored ScanJobSpec}
    (hNew : ∀ p ∈ jobs, p.key ≠ o.key)
    (hStatus : o.status = none)
    (hNamed :
      ∀ scanner,
        o.key = («namespace», scanJobNameOf scanner name) →
          o.spec.parentValidation = name) :
    Orderly «namespace» name (jobs ++ [o]) where
  nodup := by
    rw [List.map_append, List.nodup_append]
    refine ⟨hOrderly.nodup, by simp, ?_⟩
    intro k hOld k' hLast hEq
    rcases List.mem_map.mp hOld with ⟨p, hMem, rfl⟩
    obtain rfl : k' = o.key := by simpa using hLast
    exact hNew p hMem hEq
  readable p hMem hOwn := by
    rcases List.mem_append.mp hMem with hOld | hLast
    · exact hOrderly.readable p hOld hOwn
    · obtain rfl := List.mem_singleton.mp hLast
      rw [Api.readScanJob, hStatus]
      rfl
  named p hMem scanner hKey := by
    rcases List.mem_append.mp hMem with hOld | hLast
    · exact hOrderly.named p hOld scanner hKey
    · obtain rfl := List.mem_singleton.mp hLast
      exact hNamed scanner hKey

omit [Chrono] [SerdeJson] in
/- A new scan job has the name of its scanner. -/
theorem key_newlyStored
    (ctx : ReconcileCtx)
    (obj : AkeylessImageValidation)
    (tenant : AkeylessEphemeralTenant)
    (scanner : RequiredScanner) :
    (newlyStored (ownScanJob ctx obj tenant scanner)).key =
      (obj.metadata.namespaceOrDefault,
        scanJobNameOf scanner obj.metadata.nameAny) := rfl

omit [Chrono] [SerdeJson] in
/- The scan job a turn creates is one of its validation. -/
theorem isNewScan_newlyStored
    (ctx : ReconcileCtx)
    (obj : AkeylessImageValidation)
    (tenant : AkeylessEphemeralTenant)
    (scanner : RequiredScanner) :
    IsNewScan obj.metadata
      (newlyStored (ownScanJob ctx obj tenant scanner)) :=
  ⟨rfl, rfl, rfl⟩

omit [Chrono] [SerdeJson] in
/- A free name is the name of no stored scan job. -/
theorem key_ne_of_not_any
    {jobs : List (Stored ScanJobSpec)}
    {metadata : ObjectMeta}
    {scanner : RequiredScanner}
    (hFree : jobs.any (isScanOf metadata scanner) = false) :
    ∀ p ∈ jobs, p.key ≠
      (metadata.namespaceOrDefault,
        scanJobNameOf scanner metadata.nameAny) := by
  intro p hMem hKey
  have hNamed : isScanOf metadata scanner p = true :=
    Stored.isNamed_iff.mpr hKey
  rw [List.any_eq_false] at hFree
  exact hFree p hMem hNamed

variable [Blake3] [PromessaSerde]
variable {ctx : ReconcileCtx}

/- The tenant of an answer is the one that was created. -/
theorem tenantRef_of_advance
    {new : AkeylessImageValidationStatus}
    (hAdvance : Advance ctx cluster obj new) :
    new.ephemeralTenantRef = some (tenantName obj) ∨
      new.ephemeralTenantRef =
        obj.statusOrDefault.ephemeralTenantRef := by
  cases hAdvance with
  | provisionFirst hPhase => exact .inl rfl
  | provisionAgain hPhase hTenant => exact .inl rfl
  | scan summaries tenant hPhase hTenant hReady hSome =>
      exact .inr rfl
  | watch children hPhase hChildren hSome => exact .inr rfl
  | aggregate children hPhase hChildren => exact .inr rfl
  | attest hPhase => exact .inr rfl
  | gate children hPhase hChildren => exact .inr rfl

/- An advance keeps a validation consistent. -/
theorem consistent_merged
    (hConsistent : Consistent name obj)
    (hName : obj.metadata.nameAny = name)
    {new : AkeylessImageValidationStatus}
    (hAdvance : Advance ctx cluster obj new) :
    Consistent name (merged obj new) where
  writable :=
    writable_mergeOver hConsistent.writable
      (RunState.writable_of_advance hAdvance
        hConsistent.writable)
  fields :=
    RunState.phaseInvariant_of_advance hAdvance
      hConsistent.fields
  tenant_ref ref hRef := by
    have hRef :
        new.ephemeralTenantRef.or
            obj.statusOrDefault.ephemeralTenantRef =
          some ref := hRef
    rcases tenantRef_of_advance hAdvance with hOwn | hOld
    · rw [hOwn, Option.some_or, tenantName, hName] at hRef
      exact (Option.some.inj hRef).symm
    · rw [hOld, Option.or_self] at hRef
      exact hConsistent.tenant_ref ref hRef

/- The tenant stays, or is created under its name. -/
theorem tenantFind_exec_nextStatus
    (hNamespace :
      obj.metadata.namespaceOrDefault = «namespace»)
    (hName : obj.metadata.nameAny = name)
    {w w₁ : World}
    {answer : Except KubeError
      (Option AkeylessImageValidationStatus)}
    (hNext : (nextStatus ctx obj).exec w = (answer, w₁)) :
    (∀ o,
      tenantFind «namespace» name (tenants w) = some o →
        tenantFind «namespace» name (tenants w₁) = some o) ∧
    (∀ o,
      tenantFind «namespace» name (tenants w₁) = some o →
        tenantFind «namespace» name (tenants w) = some o ∨
          o.status = none) := by
  have hKept :
      KeptByTenant obj (fun ts =>
        (∀ o, tenantFind «namespace» name (tenants w) =
            some o → tenantFind «namespace» name ts =
              some o) ∧
        (∀ o, tenantFind «namespace» name ts = some o →
          tenantFind «namespace» name (tenants w) = some o ∨
            o.status = none)) := by
    rintro ts ⟨hStays, hKnown⟩ hFree
    rw [tenantName, hNamespace, hName] at hFree
    have hNone : tenantFind «namespace» name ts = none := by
      rw [tenantFind, List.find?_eq_none]
      intro o hMem
      rw [List.any_eq_false] at hFree
      exact hFree o hMem
    constructor
    · intro o hBefore
      have hThere := hStays o hBefore
      rw [hNone] at hThere
      cases hThere
    · intro o hAfter
      rw [tenantFind, List.find?_append] at hAfter
      rw [tenantFind] at hNone
      rw [hNone, Option.none_or] at hAfter
      right
      rw [List.mem_singleton.mp
        (List.mem_of_find?_eq_some hAfter)]
      rfl
  have hAfter :=
    preserves_tenants_nextStatus ctx hKept w
      ⟨fun _ h => h, fun _ h => .inl h⟩
  rw [hNext] at hAfter
  exact hAfter

variable («namespace» name) in
/- Whichever validation it is, names stay in order. -/
theorem extends_exec_nextStatus
    {w w₁ : World}
    {answer : Except KubeError
      (Option AkeylessImageValidationStatus)}
    (hNext : (nextStatus ctx obj).exec w = (answer, w₁))
    (hOrderly : Orderly «namespace» name (scanJobs w)) :
    Orderly «namespace» name (scanJobs w₁) ∧
      Extends obj.metadata (scanJobs w) (scanJobs w₁) := by
  have hKept :
      KeptByScans ctx obj (fun jobs =>
        Orderly «namespace» name jobs ∧
          Extends obj.metadata (scanJobs w) jobs) := by
    rintro jobs tenant scanner ⟨hStill, new, rfl, hAll⟩ hFree
    constructor
    · refine orderly_append hStill
        (key_ne_of_not_any hFree) rfl
        (fun scanner' hKey => ?_)
      rw [key_newlyStored] at hKey
      exact (scanJobNameOf_inj
        (congrArg Prod.snd hKey)).2
    · refine ⟨new ++ [_], (List.append_assoc _ _ _), ?_⟩
      intro o hMem
      rcases List.mem_append.mp hMem with hOld | hLast
      · exact hAll o hOld
      · rw [List.mem_singleton.mp hLast]
        exact isNewScan_newlyStored ctx obj tenant scanner
  have hAfter :=
    preserves_scanJobs_nextStatus ctx hKept w
      ⟨hOrderly, [], by simp, by simp⟩
  rw [hNext] at hAfter
  exact hAfter

omit [Chrono] [SerdeJson] [Blake3] [PromessaSerde] in
/- The scan jobs of the validation grow with all of them. -/
theorem scans_of_extends
    {before after : List (Stored ScanJobSpec)}
    (hExtends : Extends obj.metadata before after) :
    ∃ new, scans «namespace» name after =
        scans «namespace» name before ++ new ∧
      ∀ o ∈ new, o.status = none := by
  rcases hExtends with ⟨new, rfl, hAll⟩
  refine ⟨new.filter (isScan «namespace» name),
    List.filter_append _ _, fun o hMem => ?_⟩
  exact (hAll o (List.mem_filter.mp hMem).1).no_status

omit [SerdeJson] [Blake3] [PromessaSerde] in
theorem tenantInvariant_of_new
    {o : Stored AkeylessEphemeralTenantSpec}
    (hNew : o.status = none) :
    TenantRun.TenantInvariant (fun _ => True)
      (TenantRun.onObject o) := by
  rw [TenantRun.onObject, hNew]
  exact TenantRun.tenantInvariant_created _ o.metadata o.spec

omit [PromessaSerde] in
theorem progressInvariant_of_new
    {o : Stored ScanJobSpec}
    (hNew : o.status = none) :
    ScanRun.ProgressInvariant (ScanRun.onObject o) := by
  rw [ScanRun.onObject, hNew]
  exact ScanRun.progressInvariant_created o.metadata o.spec

/- What the handler leaves around the validation is sound. -/
theorem sound_of_exec_nextStatus
    (hSound : Sound «namespace» name cluster)
    (hNamespace :
      obj.metadata.namespaceOrDefault = «namespace»)
    (hName : obj.metadata.nameAny = name)
    {w w₁ : World}
    (hCluster : w.cluster = cluster)
    {answer : Except KubeError
      (Option AkeylessImageValidationStatus)}
    (hNext : (nextStatus ctx obj).exec w = (answer, w₁))
    (hTenants : cluster'.tenants = tenants w₁)
    (hJobs : cluster'.scanJobs = scanJobs w₁)
    {obj' : AkeylessImageValidation}
    (hObj' :
      cluster'.validationIn «namespace» name = some obj')
    (hConsistent : Consistent name obj')
    (hTenant :
      obj'.currentPhase ≠ .pending →
        (tenantFind «namespace» name
          cluster'.tenants).isSome = true)
    (hScans :
      obj'.currentPhase = .scanning →
        scans «namespace» name cluster'.scanJobs ≠ []) :
    Sound «namespace» name cluster' := by
  subst hCluster
  have hTenantFind :=
    (tenantFind_exec_nextStatus hNamespace hName hNext).2
  rcases extends_exec_nextStatus «namespace» name hNext
    hSound.orderly with ⟨hOrderly, hExtends⟩
  rw [← hTenants] at hTenantFind
  rw [← hJobs] at hOrderly hExtends
  exact
    { validation := ⟨obj', hObj', hConsistent⟩
      tenant_form := fun o hFind => by
        rcases hTenantFind o hFind with hOld | hNew
        · exact hSound.tenant_form o hOld
        · exact tenantInvariant_of_new hNew
      tenant_there := by rwa [phaseOf_eq hObj']
      orderly := hOrderly
      on_their_way := fun o hMem => by
        rcases scans_of_extends hExtends with
          ⟨new, hAfter, hAll⟩
        rw [hAfter] at hMem
        rcases List.mem_append.mp hMem with hOld | hLast
        · exact hSound.on_their_way o hOld
        · exact progressInvariant_of_new (hAll o hLast)
      scans_there := by rwa [phaseOf_eq hObj'] }

omit [SerdeJson] [Blake3] [PromessaSerde] in
/- A tenant that stays where it is stays ready. -/
theorem tenantIsReady_of_stays
    (hStays :
      ∀ o, tenantFind «namespace» name cluster.tenants =
          some o →
        tenantFind «namespace» name cluster'.tenants =
          some o)
    (hReady : tenantIsReady «namespace» name cluster = true) :
    tenantIsReady «namespace» name cluster' = true := by
  unfold tenantIsReady at hReady ⊢
  cases hFind :
      tenantFind «namespace» name cluster.tenants with
  | none => simp [hFind] at hReady
  | some o =>
      rw [hStays o hFind, ← hFind]
      exact hReady

/- An answer to a sound cluster leads on. -/
theorem rank_merged_le
    (hSound : Sound «namespace» name cluster)
    (hObj :
      cluster.validationIn «namespace» name = some obj)
    (hConsistent : Consistent name obj)
    {new : AkeylessImageValidationStatus}
    (hAdvance : Advance ctx cluster obj new) :
    (merged obj new).currentPhase.rank ≤
      obj.currentPhase.rank := by
  rcases exists_stored_of_validationIn hObj with
    ⟨_, _, _, _, _, hNamespace, _⟩
  have hMoves := RunState.moves_of_advance hAdvance
  have hAfter :
      (obj.statusOrDefault.mergeOver new).phase.getD
          .pending =
        (merged obj new).currentPhase := rfl
  rw [hAfter] at hMoves
  generalize (merged obj new).currentPhase = after
    at hMoves ⊢
  generalize hBefore : obj.currentPhase = before
    at hMoves ⊢
  cases hMoves with
  | stay => exact le_rfl
  | advance hFollows hChildren =>
      rw [AkeylessImageValidationPhase.rank_of_isFollowedBy
        hFollows]
      exact Nat.sub_le _ 1
  | reprovision hChildren hTenant =>
      have hThere := hSound.tenant_there (by
        rw [phaseOf_eq hObj, hBefore]
        simp)
      rw [tenantIn, hNamespace,
        tenantRef_eq hObj hConsistent] at hTenant
      rw [tenantFind, hTenant] at hThere
      cases hThere

omit [PromessaSerde] in
/- While it is scanning there is something to scan with. -/
theorem childrenIn_ne_nil
    (hSound : Sound «namespace» name cluster)
    (hNamespace :
      obj.metadata.namespaceOrDefault = «namespace»)
    (hName : obj.metadata.nameAny = name)
    (hScanning :
      phaseOf «namespace» name cluster = .scanning) :
    childrenIn cluster obj ≠ some [] := by
  rw [childrenIn_eq hSound.orderly hNamespace hName]
  intro hNone
  rcases List.exists_mem_of_ne_nil _
    (hSound.scans_there hScanning) with ⟨o, hMem⟩
  rcases List.mem_filter.mp hMem with ⟨hIn, hOwn⟩
  rw [isScan, Bool.and_eq_true] at hOwn
  rcases Option.isSome_iff_exists.mp
    (hSound.orderly.readable o hIn (by simpa using hOwn.1))
    with ⟨sj, hRead⟩
  have hListed :
      sj ∈ (scans «namespace» name
        cluster.scanJobs).filterMap Api.readScanJob :=
    List.mem_filterMap.mpr ⟨o, hMem, hRead⟩
  rw [Option.some.inj hNone] at hListed
  cases hListed

omit [Blake3] [PromessaSerde] in
/- Standing still is onward. -/
theorem onward_refl
    («namespace» name : String)
    (cluster : Cluster) :
    Onward «namespace» name cluster cluster where
  phase_le := le_rfl
  decided _ := ⟨rfl, rfl⟩
  tenant_kept hReady := hReady
  scans_le _ _ o hMem := ⟨o, hMem, rfl, le_rfl⟩

/- What the handler does to the others leads none back. -/
theorem onward_of_exec_nextStatus
    (hSound : Sound «namespace» name cluster)
    (hObj :
      cluster.validationIn «namespace» name = some obj)
    (hOpen : obj.currentPhase.isTerminal = false)
    {w w₁ : World}
    (hCluster : w.cluster = cluster)
    {answer : Except KubeError
      (Option AkeylessImageValidationStatus)}
    (hNext : (nextStatus ctx obj).exec w = (answer, w₁))
    (hTenants : cluster'.tenants = tenants w₁)
    (hJobs : cluster'.scanJobs = scanJobs w₁)
    (hRank :
      (phaseOf «namespace» name cluster').rank ≤
        obj.currentPhase.rank) :
    Onward «namespace» name cluster cluster' := by
  rcases exists_stored_of_validationIn hObj with
    ⟨_, _, _, _, _, hNamespace, hName⟩
  have hPhase := phaseOf_eq hObj
  subst hCluster
  have hStays :=
    (tenantFind_exec_nextStatus hNamespace hName hNext).1
  rw [← hTenants] at hStays
  exact
    { phase_le := by rwa [hPhase]
      decided := fun hEnded => by
        rw [hPhase, hOpen] at hEnded
        cases hEnded
      tenant_kept := tenantIsReady_of_stays hStays
      scans_le := fun hScanning _ o hMem => by
        have hSame :=
          scanJobs_exec_nextStatus_of_scanning ctx
            (hPhase.symm.trans hScanning)
            (childrenIn_ne_nil hSound hNamespace hName
              hScanning)
        rw [hNext] at hSame
        rw [hJobs, hSame] at hMem
        exact ⟨o, hMem, rfl, le_rfl⟩ }

/- The scan jobs of a validation that goes on to scan. -/
theorem scans_ne_nil_of_advance
    (hOrderly : Orderly «namespace» name cluster'.scanJobs)
    (hNamespace :
      obj.metadata.namespaceOrDefault = «namespace»)
    (hName : obj.metadata.nameAny = name)
    {w w₁ : World}
    {new : AkeylessImageValidationStatus}
    (hNext :
      (nextStatus ctx obj).exec w = (.ok (some new), w₁))
    (hJobs : cluster'.scanJobs = scanJobs w₁)
    (hScanning : (merged obj new).currentPhase = .scanning)
    (hBefore : obj.currentPhase ≠ .scanning) :
    scans «namespace» name cluster'.scanJobs ≠ [] := by
  have hAdvance := advance_of_exec_nextStatus hNext
  have hMoves :
      RunState.Moves w.cluster obj obj.currentPhase
        (merged obj new).currentPhase :=
    RunState.moves_of_advance hAdvance
  rw [hScanning] at hMoves
  have hFrom : obj.currentPhase = .provisioning := by
    generalize obj.currentPhase = before at hMoves hBefore ⊢
    cases hMoves with
    | stay => exact absurd rfl hBefore
    | advance hFollows _ =>
        cases before <;>
          simp_all [
            AkeylessImageValidationPhase.isFollowedBy,
            AkeylessImageValidationPhase.isTerminal]
  have hNew : new.phase = some .scanning := by
    have hPhase :
        (new.phase.or obj.statusOrDefault.phase).getD
          .pending = .scanning := hScanning
    have hOld := RunState.phase_statusOrDefault obj
    rw [hFrom] at hOld
    cases hSome : new.phase with
    | none =>
        rw [hSome, Option.none_or, hOld] at hPhase
        cases hPhase
    | some phase =>
        rw [hSome, Option.some_or, Option.getD_some]
          at hPhase
        rw [hPhase]
  rcases exists_scan_of_exec_nextStatus hFrom hNext hNew with
    ⟨scanner, hAny⟩
  rcases List.any_eq_true.mp hAny with ⟨o, hMem, hNamed⟩
  rw [← hJobs] at hMem
  rw [isScanOf, hNamespace, hName] at hNamed
  have hKey := Stored.isNamed_iff.mp hNamed
  have hOwn : isScan «namespace» name o = true := by
    rw [isScan, hOrderly.named o hMem scanner hKey,
      show o.metadata.namespaceOrDefault = «namespace» from
        congrArg Prod.fst hKey]
    simp
  exact List.ne_nil_of_mem (List.mem_filter.mpr ⟨hMem, hOwn⟩)

omit [PromessaSerde] in
/- In a sound cluster the validation is consistent. -/
theorem consistent_of_sound
    (hSound : Sound «namespace» name cluster)
    (hObj :
      cluster.validationIn «namespace» name = some obj) :
    Consistent name obj := by
  rcases hSound.validation with ⟨obj', hObj', hOk⟩
  obtain rfl : obj' = obj :=
    Option.some.inj (hObj'.symm.trans hObj)
  exact hOk

omit [PromessaSerde] in
/- A tenant that is there stays there. -/
theorem isSome_tenantFind
    (hSound : Sound «namespace» name cluster)
    (hObj :
      cluster.validationIn «namespace» name = some obj)
    (hStays :
      ∀ o, tenantFind «namespace» name cluster.tenants =
          some o →
        tenantFind «namespace» name cluster'.tenants =
          some o)
    (hPhase : obj.currentPhase ≠ .pending) :
    (tenantFind «namespace» name
      cluster'.tenants).isSome = true := by
  have hThere :=
    hSound.tenant_there (by rwa [phaseOf_eq hObj])
  rcases Option.isSome_iff_exists.mp hThere with ⟨o, hFind⟩
  rw [hStays o hFind]
  rfl

omit [PromessaSerde] in
/- Scan jobs that are there stay there. -/
theorem scans_ne_nil_of_extends
    (hSound : Sound «namespace» name cluster)
    (hObj :
      cluster.validationIn «namespace» name = some obj)
    (hExtends :
      Extends obj.metadata cluster.scanJobs
        cluster'.scanJobs)
    (hScanning : obj.currentPhase = .scanning) :
    scans «namespace» name cluster'.scanJobs ≠ [] := by
  have hSome :=
    hSound.scans_there ((phaseOf_eq hObj).trans hScanning)
  rcases scans_of_extends hExtends with ⟨new, hEq, _⟩
  rw [hEq]
  exact List.append_ne_nil_of_left_ne_nil hSome new

/- A turn of a validation that is not at its end. -/
theorem validation_turn_of_open
    (hSound : Sound «namespace» name cluster)
    (hObj :
      cluster.validationIn «namespace» name = some obj)
    (hScope : ctx.namespace.getD «namespace» = «namespace»)
    (hOpen : obj.currentPhase.isTerminal = false)
    {w : World}
    (hCluster : w.cluster = cluster)
    (hAfter :
      ((ImageValidation.reconcile ctx obj).exec w).2.cluster =
        cluster') :
    Sound «namespace» name cluster' ∧
      Onward «namespace» name cluster cluster' := by
  rcases exists_stored_of_validationIn hObj with
    ⟨_, _, _, _, _, hNamespace, hName⟩
  have hConsistent := consistent_of_sound hSound hObj
  rcases exec_reconcile_cases ctx obj hOpen w with
    ⟨answer, w₁, hNext, hTenants, hJobs, hWrite⟩
  unfold tenants at hTenants
  unfold ScanJobController.scanJobs at hJobs
  unfold validations at hWrite
  rw [hAfter] at hTenants hJobs hWrite
  have hStays :=
    (tenantFind_exec_nextStatus hNamespace hName hNext).1
  unfold tenants at hStays
  rw [hCluster, ← hTenants] at hStays
  rcases extends_exec_nextStatus «namespace» name hNext
    (by unfold ScanJobController.scanJobs
        rw [hCluster]
        exact hSound.orderly) with ⟨hOrderly, hExtends⟩
  unfold ScanJobController.scanJobs at hOrderly hExtends
  rw [← hJobs] at hOrderly hExtends
  rw [hCluster] at hExtends hWrite
  rcases hWrite with hSame | ⟨new, rfl, hPatch⟩
  · -- nothing was stored of the answer
    have hKept :
        cluster'.validationIn «namespace» name = some obj :=
      (validationIn_of_eq hSame).trans hObj
    exact ⟨sound_of_exec_nextStatus hSound hNamespace hName
        hCluster hNext hTenants hJobs hKept hConsistent
        (isSome_tenantFind hSound hObj hStays)
        (scans_ne_nil_of_extends hSound hObj hExtends),
      onward_of_exec_nextStatus hSound hObj hOpen hCluster
        hNext hTenants hJobs (by rw [phaseOf_eq hKept])⟩
  · have hAdvance : Advance ctx cluster obj new := by
      rw [← hCluster]
      exact advance_of_exec_nextStatus hNext
    have hMerged :
        cluster'.validationIn «namespace» name =
          some (merged obj new) := by
      rw [hNamespace, hName, hScope] at hPatch
      exact validationIn_of_patched hObj
        (RunState.writable_of_advance hAdvance
          hConsistent.writable) hPatch
    refine ⟨sound_of_exec_nextStatus hSound hNamespace hName
        hCluster hNext hTenants hJobs hMerged
        (consistent_merged hConsistent hName hAdvance)
        (fun _ => ?_) (fun hScanning => ?_),
      onward_of_exec_nextStatus hSound hObj hOpen hCluster
        hNext hTenants hJobs (by
          rw [phaseOf_eq hMerged]
          exact rank_merged_le hSound hObj hConsistent
            hAdvance)⟩
    · by_cases hPending : obj.currentPhase = .pending
      · have hRun :
            (handlePending ctx obj).exec w =
              (.ok (some new), w₁) := by
          rw [← hNext, ImageValidation.nextStatus, hPending]
        have hThere := tenant_of_exec_handlePending hRun
        rw [hNamespace, tenantName, hName, tenants,
          ← hTenants] at hThere
        exact hThere
      · exact isSome_tenantFind hSound hObj hStays hPending
    · by_cases hBefore : obj.currentPhase = .scanning
      · exact scans_ne_nil_of_extends hSound hObj hExtends
          hBefore
      · exact scans_ne_nil_of_advance hOrderly hNamespace
          hName hNext hJobs hScanning hBefore

/- A turn keeps a cluster sound, and leads nothing back. -/
theorem validation_turn
    (hSound : Sound «namespace» name cluster)
    (hObj :
      cluster.validationIn «namespace» name = some obj)
    (hScope : ctx.namespace.getD «namespace» = «namespace»)
    {w : World}
    (hCluster : w.cluster = cluster) :
    let after :=
      ((ImageValidation.reconcile ctx obj).exec w).2.cluster
    Sound «namespace» name after ∧
      Onward «namespace» name cluster after := by
  intro after
  cases hOpen : obj.currentPhase.isTerminal with
  | true =>
      have hSame : after = cluster := by
        rw [← hCluster]
        exact congrArg World.cluster
          (exec_reconcile_of_terminal ctx hOpen w)
      rw [hSame]
      exact ⟨hSound, onward_refl _ _ _⟩
  | false =>
      exact validation_turn_of_open hSound hObj hScope hOpen
        hCluster rfl

/- One that is not held up leads one phase further. -/
theorem rank_validation_turn
    (hSound : Sound «namespace» name cluster)
    (hServed : IsServed «namespace» name cluster)
    (hObj :
      cluster.validationIn «namespace» name = some obj)
    (hScope : ctx.namespace.getD «namespace» = «namespace»)
    (hOpen : obj.currentPhase.isTerminal = false)
    {w : World}
    (hQuiet : w.faults = [])
    (hCluster : w.cluster = cluster) :
    (phaseOf «namespace» name
        ((ImageValidation.reconcile ctx
          obj).exec w).2.cluster).rank =
      (phaseOf «namespace» name cluster).rank - 1 := by
  rcases exists_stored_of_validationIn hObj with
    ⟨o, hFind, _, _, _, hNamespace, hName⟩
  have hUnblocked :=
    unblocked_of_isServed hSound hObj hServed
  have hFound :
      ∀ patch, ∃ patched,
        Stored.patchNamed
            (ctx.namespace.getD
              obj.metadata.namespaceOrDefault)
            obj.metadata.nameAny patch (validations w) =
          some patched := by
    intro patch
    rw [hNamespace, hName, hScope, validations, hCluster]
    rcases Stored.find?_patchNamed patch hFind with
      ⟨os', hPatch, _⟩
    exact ⟨os', hPatch⟩
  rcases ImageValidation.exec_reconcile_of_unblocked ctx
    hQuiet hOpen (by rwa [hCluster]) hFound with
    ⟨new, hAdvance, hPatch⟩
  unfold validations at hPatch
  rw [hNamespace, hName, hScope, hCluster] at hPatch
  rw [hCluster] at hAdvance
  rw [phaseOf_eq (validationIn_of_patched hObj
      (RunState.writable_of_advance hAdvance
        (consistent_of_sound hSound hObj).writable) hPatch),
    phaseOf_eq hObj]
  exact RunState.rank_of_advance hAdvance hUnblocked

end Pipeline

end EngenhoPromessa
