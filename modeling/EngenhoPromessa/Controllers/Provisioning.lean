import EngenhoPromessa.Controllers.ChildRuns
import EngenhoPromessa.Controllers.StaleReads
import EngenhoPromessa.Effect.Ensured

/-
  Provisioning a validation's scans, through any failures.

  An attempt looks for the scan job of each required scanner
  and creates it if it is missing; it may stop at any call
  and is made again on the stored object. Others may do
  anything to the cluster but create or delete the
  validation's own scan jobs.

  Key definitions include:
    * `ImageValidation.provisionFor`
    * `ImageValidation.attempt`
    * `Provisioning`
    * `Provisioning.step`
    * `Provisioning.IsProvisioned`

  Key theorems include:
    * `ImageValidation.reconcile_eq_attempt`
    * `ImageValidation.ensured_provisionScanJob`
    * `Provisioning.isProvisioned_run`
-/

------------------------------------------------------------
-- Names
------------------------------------------------------------

namespace EngenhoPromessa

namespace ImageValidation

/- The scan job's name, from the validation's name alone. -/
def scanJobNameOf
    (scanner : RequiredScanner)
    (validation : String) : String :=
  "sj-" ++ scannerKebab scanner ++ "-" ++ validation

/- The scanner a name part stands for. -/
def scannerOfKebab (kebab : String) : Option RequiredScanner :=
  [.trivy, .grype, .syft, .trufflehog, .semgrep, .kubeLinter,
    .kubeBench, .kubeHunter, .polaris, .stigCisValidator,
    .zap, .snyk, .dockerScout, .jfrogXray, .wiz,
    .prismaCloud, .burpEnterprise, .codeql].find?
      (fun scanner => scannerKebab scanner = kebab)

/- A scanner is read back from its name, -/
theorem scannerOfKebab_scannerKebab
    (scanner : RequiredScanner) :
    scannerOfKebab (scannerKebab scanner) =
      some scanner := by
  cases scanner
  all_goals decide

/- which has no hyphen in it. -/
theorem hyphen_not_mem_scannerKebab
    (scanner : RequiredScanner) :
    '-' ∉ (scannerKebab scanner).toList := by
  cases scanner
  all_goals decide

/- A scanner's part of a name ends at the second hyphen. -/
theorem scanJobNameOf_inj
    {scanner scanner' : RequiredScanner}
    {validation validation' : String}
    (hName :
      scanJobNameOf scanner validation =
        scanJobNameOf scanner' validation') :
    scanner = scanner' ∧ validation = validation' := by
  have hSplit :
      ∀ scanner validation,
        (Str.stripPrefix "sj-"
            (scanJobNameOf scanner validation)).bind
          (Str.splitOnce '-') =
        some (scannerKebab scanner, validation) := by
    intro scanner validation
    rw [scanJobNameOf, String.append_assoc,
      String.append_assoc, Str.stripPrefix_append]
    refine Str.splitOnce_of_toList_eq ?_
      (hyphen_not_mem_scannerKebab scanner)
    have hHyphen : "-".toList = ['-'] := by decide
    simp [hHyphen]
  have hParts := hSplit scanner validation
  rw [hName, hSplit, Option.some.injEq,
    Prod.mk.injEq] at hParts
  refine ⟨?_, hParts.2.symm⟩
  have hScanner := scannerOfKebab_scannerKebab scanner
  rw [← hParts.1, scannerOfKebab_scannerKebab] at hScanner
  exact (Option.some.inj hScanner).symm

end ImageValidation

end EngenhoPromessa

------------------------------------------------------------
-- Attempts
------------------------------------------------------------

namespace EngenhoPromessa

namespace ImageValidation

variable [Chrono] [SerdeJson] [Blake3] [PromessaSerde]

/- The provisioning handler, for any set of scanners. -/
def provisionFor
    (required : BTreeSet RequiredScanner)
    (ctx : ReconcileCtx)
    (obj : AkeylessImageValidation) :
    Kube (Option AkeylessImageValidationStatus) := do
  let ns := obj.metadata.namespaceOrDefault
  match ← Api.getTenant ns (tenantRef obj) with
  | none => handlePending ctx obj
  | some tenant =>
      if !isReady tenant then
        return none
      else
        let summaries ← required.toList.mapM
          (provisionScanJob ctx obj tenant)
        return some (scanningStatus obj summaries)

/- The reconcile step around it. -/
def attempt
    (required : BTreeSet RequiredScanner)
    (ctx : ReconcileCtx)
    (obj : AkeylessImageValidation) : Kube Nat := do
  match ← provisionFor required ctx obj with
  | none => return 15
  | some newStatus =>
      Api.patchValidationStatus (patchScope ctx obj)
        obj.metadata.nameAny
        (.obj [("status", newStatus.toValue)])
      emitPostPatch ctx obj obj.currentPhase newStatus
      return 15

/- A reconcile step of this phase is such an attempt. -/
theorem reconcile_eq_attempt
    (ctx : ReconcileCtx)
    {obj : AkeylessImageValidation}
    (hPhase : obj.currentPhase = .provisioning) :
    reconcile ctx obj =
      attempt
        (securitySpecFor ctx.env
          obj.spec.promessaRef).requiredScanners ctx obj := by
  have hNext :
      nextStatus ctx obj =
        provisionFor
          (securitySpecFor ctx.env
            obj.spec.promessaRef).requiredScanners
          ctx obj := by
    rw [nextStatus, hPhase]
    rfl
  rw [reconcile, hNext, hPhase]
  rw [attempt, hPhase]
  rfl

end ImageValidation

end EngenhoPromessa

------------------------------------------------------------
-- One Scanner
------------------------------------------------------------

namespace EngenhoPromessa

namespace ImageValidation

open Fallible ScanJobController

variable [Chrono] [SerdeJson]

/- The summary a scan job starts with. -/
def summaryFor
    (metadata : ObjectMeta)
    (scanner : RequiredScanner) : ScanJobSummary where
  name := scanJobNameOf scanner metadata.nameAny
  scanner := scannerKindFromRequired scanner
  phase := .pending
  findingsCount := 0

/- The scan job of a scanner, by its name. -/
def isScanOf
    (metadata : ObjectMeta)
    (scanner : RequiredScanner)
    (o : Stored ScanJobSpec) : Bool :=
  o.isNamed metadata.namespaceOrDefault
    (scanJobNameOf scanner metadata.nameAny)

/- A scan job as it is stored when it is created. -/
def newlyStored (sj : ScanJob) : Stored ScanJobSpec where
  metadata := sj.metadata
  spec := sj.spec
  status := none

/- A scan job that a step creates for a scanner. -/
def IsCreatedFor
    (metadata : ObjectMeta)
    (spec : AkeylessImageValidationSpec)
    (scanner : RequiredScanner)
    (o : Stored ScanJobSpec) : Prop :=
  ∃ (ctx : ReconcileCtx) (obj : AkeylessImageValidation)
    (tenant : AkeylessEphemeralTenant),
    obj.metadata = metadata ∧ obj.spec = spec ∧
      o = newlyStored (ownScanJob ctx obj tenant scanner)

omit [Chrono] [SerdeJson] in
/- Scan jobs of two scanners are told apart by their names. -/
theorem distinguishes_isScanOf
    (metadata : ObjectMeta)
    (spec : AkeylessImageValidationSpec) :
    Distinguishes (isScanOf metadata)
      (IsCreatedFor metadata spec) := by
  rintro scanner other o ⟨ctx, obj, tenant, rfl, rfl, rfl⟩
  have hNamed :
      isScanOf obj.metadata other
          (newlyStored
            (ownScanJob ctx obj tenant scanner)) =
        decide
          (scanJobNameOf scanner obj.metadata.nameAny =
            scanJobNameOf other obj.metadata.nameAny) := by
    simp [isScanOf, Stored.isNamed, newlyStored,
      ownScanJob, buildScanJob, ObjectMeta.namespaceOrDefault,
      ObjectMeta.nameAny, scanJobName, scanJobNameOf]
  rw [hNamed, decide_eq_true_eq]
  constructor
  · intro hName
    exact (scanJobNameOf_inj hName).1.symm
  · rintro rfl
    rfl

/-
  Getting a scan job changes no scan job and tells whether
  one is there.
-/
theorem exec_getScanJob
    («namespace» name : String)
    (w : World) :
    scanJobs ((Api.getScanJob «namespace» name).exec w).2 =
        scanJobs w ∧
      ∀ existing,
        ((Api.getScanJob «namespace» name).exec w).1 =
            .ok existing →
          (scanJobs w).any
              (fun o => o.isNamed «namespace» name) =
            existing.isSome := by
  rw [Api.getScanJob, Kube.exec_read]
  refine ⟨rfl, ?_⟩
  intro existing hOk
  dsimp only at hOk
  split at hOk
  · rw [← List.isSome_find?]
    change (w.cluster.scanJobs.find? _).isSome = _
    cases hFind : w.cluster.scanJobs.find?
        (fun o => o.isNamed «namespace» name) with
    | none =>
        rw [hFind] at hOk
        rw [← Except.ok.inj hOk]
        rfl
    | some o =>
        rw [hFind] at hOk
        dsimp only at hOk
        cases hRead : Api.readScanJob o with
        | none => simp [hRead] at hOk
        | some sj =>
            rw [hRead] at hOk
            rw [← Except.ok.inj hOk]
            rfl
  · simp at hOk

/- A missing scan job is created, or the call is refused. -/
omit [Chrono] [SerdeJson] in
theorem exec_createScanJob
    («namespace» : String)
    (sj : ScanJob)
    {w : World}
    (hMissing :
      (scanJobs w).any
        (fun o =>
          o.isNamed «namespace» sj.metadata.nameAny) =
        false) :
    (∃ e,
        ((Api.createScanJob «namespace» sj).exec w).1 =
          .error e) ∧
        scanJobs
          ((Api.createScanJob «namespace» sj).exec w).2 =
            scanJobs w ∨
      scanJobs
          ((Api.createScanJob «namespace» sj).exec w).2 =
        scanJobs w ++ [newlyStored sj] := by
  have hMissing' :
      w.cluster.scanJobs.any
        (fun o =>
          o.isNamed «namespace» sj.metadata.nameAny) =
        false := hMissing
  simp only [Api.createScanJob, Kube.call, exec_ofExec,
    hMissing']
  cases w.fault 0 with
  | none => exact .inr rfl
  | refused => exact .inl ⟨⟨_, rfl⟩, rfl⟩
  | lost => exact .inr rfl

/-
  Providing a scan job ensures that it is there, whatever
  fails.
-/
theorem ensured_provisionScanJob
    (ctx : ReconcileCtx)
    (obj : AkeylessImageValidation)
    (tenant : AkeylessEphemeralTenant)
    (scanner : RequiredScanner)
    (w : World) :
    Ensured scanJobs (isScanOf obj.metadata)
      (IsCreatedFor obj.metadata obj.spec)
      (summaryFor obj.metadata) scanner w
      ((provisionScanJob ctx obj tenant scanner).exec w) := by
  have hGet := exec_getScanJob
    obj.metadata.namespaceOrDefault
    (scanJobName obj scanner) w
  rw [provisionScanJob]
  dsimp only
  rw [exec_bind]
  generalize (Api.getScanJob obj.metadata.namespaceOrDefault
    (scanJobName obj scanner)).exec w = got at hGet ⊢
  rcases got with ⟨e | existing, w'⟩
  · exact .failed hGet.1
  · rcases hGet with ⟨hView, hExisting⟩
    have hFound := hExisting existing rfl
    cases existing with
    | some sj => exact .found hFound hView
    | none =>
        have hMissing :
            (scanJobs w').any
              (isScanOf obj.metadata scanner) = false := by
          rw [hView]
          exact hFound
        have hCreate :=
          exec_createScanJob obj.metadata.namespaceOrDefault
            (ownScanJob ctx obj tenant scanner) hMissing
        change Ensured scanJobs _ _ _ scanner w
          ((Api.createScanJob obj.metadata.namespaceOrDefault
              (ownScanJob ctx obj tenant scanner) >>=
            fun _ => pure
              (summaryFor obj.metadata scanner)).exec w')
        rw [exec_bind_pure]
        generalize (Api.createScanJob
          obj.metadata.namespaceOrDefault
          (ownScanJob ctx obj tenant scanner)).exec w' =
            made at hCreate ⊢
        rcases made with ⟨r, w''⟩
        rcases hCreate with ⟨⟨e, rfl⟩, hKept⟩ | hAdded
        · exact .failed (hKept.trans hView)
        · refine .made hFound
            ⟨ctx, obj, tenant, rfl, rfl, rfl⟩ ?_ ?_
          · rw [← hView]
            exact hAdded
          · intro summary hOk
            cases r with
            | error e => simp [Except.map] at hOk
            | ok u => exact (Except.ok.inj hOk).symm

end ImageValidation

end EngenhoPromessa

------------------------------------------------------------
-- One Attempt
------------------------------------------------------------

namespace EngenhoPromessa

namespace ImageValidation

open Fallible ScanJobController

variable [Chrono] [SerdeJson]

/- The scanners whose scan job a world does not have. -/
def missingScans
    (required : BTreeSet RequiredScanner)
    (metadata : ObjectMeta)
    (jobs : List (Stored ScanJobSpec)) :
    List RequiredScanner :=
  required.toList.filter
    (fun scanner => !jobs.any (isScanOf metadata scanner))

/- The status once every required scanner has its scan job. -/
def scheduledStatus
    (required : BTreeSet RequiredScanner)
    (obj : AkeylessImageValidation) :
    AkeylessImageValidationStatus :=
  scanningStatus obj
    (required.toList.map (summaryFor obj.metadata))

/-
  What an attempt does to the scan jobs, with the status it
  comes to if it does come to one.
-/
structure Provisions
    (required : BTreeSet RequiredScanner)
    (ctx : ReconcileCtx)
    (obj : AkeylessImageValidation)
    (before after : List (Stored ScanJobSpec))
    (answer : Option AkeylessImageValidationStatus)
    (new : List RequiredScanner)
    (cs : List (Stored ScanJobSpec)) : Prop where
  built :
    List.Forall₂ (IsCreatedFor obj.metadata obj.spec) new cs
  jobs_eq : after = before ++ cs
  first : new <+: missingScans required obj.metadata before
  answered :
    ∀ st, answer = some st →
      st = provisionedStatus ctx obj ∨
        st = scheduledStatus required obj ∧
          new = missingScans required obj.metadata before

/- An attempt that does not come to create anything. -/
omit [Chrono] [SerdeJson] in
theorem provisions_nothing
    (required : BTreeSet RequiredScanner)
    {ctx : ReconcileCtx}
    {obj : AkeylessImageValidation}
    {before after : List (Stored ScanJobSpec)}
    (hAfter : after = before)
    {answer : Option AkeylessImageValidationStatus}
    (hAnswer :
      ∀ st, answer = some st →
        st = provisionedStatus ctx obj) :
    Provisions required ctx obj before after answer [] [] where
  built := .nil
  jobs_eq := by simpa using hAfter
  first := List.nil_prefix
  answered := fun st hSt => .inl (hAnswer st hSt)

/- With a tenant that is ready, the loop over all scanners. -/
theorem exec_scheduleScans
    (required : BTreeSet RequiredScanner)
    (ctx : ReconcileCtx)
    (obj : AkeylessImageValidation)
    (tenant : AkeylessEphemeralTenant)
    (w : World) :
    let schedule : Kube (Option _) := do
      let summaries ← required.toList.mapM
        (provisionScanJob ctx obj tenant)
      return some (scanningStatus obj summaries)
    ∃ new cs,
      Provisions required ctx obj (scanJobs w)
        (scanJobs (schedule.exec w).2)
        ((schedule.exec w).1.toOption.join) new cs := by
  intro schedule
  rcases exec_mapM_ensured
      (distinguishes_isScanOf obj.metadata obj.spec)
      (ensured_provisionScanJob ctx obj tenant)
      required.nodup w with
    ⟨new, cs, hBuilt, hAfter, hFirst, hComplete⟩
  simp only [schedule]
  rw [exec_bind_pure]
  refine ⟨new, cs, hBuilt, hAfter, hFirst, ?_⟩
  intro st hSt
  generalize (required.toList.mapM
    (provisionScanJob ctx obj tenant)).exec w = run
      at hSt hComplete
  rcases run with ⟨e | summaries, w'⟩
  · simp [Except.map, Except.toOption] at hSt
  · rcases hComplete summaries rfl with ⟨hNew, rfl⟩
    simp only [Except.map, Except.toOption,
      Option.join_some] at hSt
    exact .inr ⟨(Option.some.inj hSt).symm, hNew⟩

omit [SerdeJson] in
/-
  If the pending phase answers, it is with a provisioned
  status.
-/
theorem join_exec_handlePending
    {ctx : ReconcileCtx}
    {obj : AkeylessImageValidation}
    {w : World}
    {st : AkeylessImageValidationStatus}
    (hAnswer :
      ((handlePending ctx obj).exec w).1.toOption.join =
        some st) :
    st = provisionedStatus ctx obj := by
  rcases hRun : (handlePending ctx obj).exec w with
    ⟨e | new, w'⟩
  · simp [hRun, Except.toOption] at hAnswer
  · rw [exec_handlePending_eq_ok hRun] at hRun
    simp only [hRun, Except.toOption,
      Option.join_some] at hAnswer
    exact (Option.some.inj hAnswer).symm

/-
  An attempt creates missing scan jobs and answers when all
  are there, whatever fails.
-/
theorem exec_provisionFor
    (required : BTreeSet RequiredScanner)
    (ctx : ReconcileCtx)
    (obj : AkeylessImageValidation)
    (w : World) :
    ∃ new cs,
      Provisions required ctx obj (scanJobs w)
        (scanJobs ((provisionFor required ctx obj).exec w).2)
        (((provisionFor required ctx obj).exec
          w).1.toOption.join) new cs := by
  have hKept :
      Keeps scanJobs
        (Api.getTenant obj.metadata.namespaceOrDefault
          (tenantRef obj)) :=
    Kube.keeps_read Cluster.scanJobs _ _
  rw [provisionFor, exec_bind]
  rcases hGot : (Api.getTenant
    obj.metadata.namespaceOrDefault (tenantRef obj)).exec w
    with ⟨e | existing, w'⟩
  · exact ⟨[], [], provisions_nothing required
      (keeps_of_exec_eq hKept hGot)
      (by simp [Except.toOption])⟩
  · have hView : scanJobs w' = scanJobs w :=
      keeps_of_exec_eq hKept hGot
    cases existing with
    | none =>
        exact ⟨[], [], provisions_nothing required
          ((keeps_scanJobs_handlePending ctx obj w').trans
            hView)
          (fun _ hSt => join_exec_handlePending hSt)⟩
    | some tenant =>
        cases hReady : isReady tenant with
        | false =>
            simp only [hReady, Bool.not_false, if_true,
              exec_pure]
            exact ⟨[], [], provisions_nothing required hView
              (by simp [Except.toOption])⟩
        | true =>
            simp only [hReady, Bool.not_true,
              Bool.false_eq_true, if_false]
            rw [← hView]
            exact exec_scheduleScans required ctx obj tenant
              w'

/- An attempt leaves validations alone. -/
theorem keeps_validations_provisionFor
    (required : BTreeSet RequiredScanner)
    (ctx : ReconcileCtx)
    (obj : AkeylessImageValidation) :
    Keeps validations (provisionFor required ctx obj) := by
  apply keeps_bind (Kube.keeps_read _ _ _)
  intro existing
  cases existing with
  | none => exact keeps_validations_handlePending ctx obj
  | some tenant =>
      dsimp only
      split
      · exact keeps_pure _ _
      · apply keeps_bind
        · exact keeps_mapM
            (keeps_validations_provisionScanJob ctx obj
              tenant) _
        · exact fun _ => keeps_pure _ _

/-
  An attempt provisions scan jobs, and may store the status
  it comes to.
-/
theorem exec_attempt
    (required : BTreeSet RequiredScanner)
    (ctx : ReconcileCtx)
    (obj : AkeylessImageValidation)
    (w : World) :
    ∃ answer new cs,
      Provisions required ctx obj (scanJobs w)
        (scanJobs ((attempt required ctx obj).exec w).2)
        answer new cs ∧
      (validations ((attempt required ctx obj).exec w).2 =
          validations w ∨
        ∃ st, answer = some st ∧
          Stored.patchNamed
              (ctx.namespace.getD
                obj.metadata.namespaceOrDefault)
              obj.metadata.nameAny
              (.obj [("status", st.toValue)])
              (validations w) =
            some (validations
              ((attempt required ctx obj).exec w).2)) := by
  rcases exec_provisionFor required ctx obj w with
    ⟨new, cs, hProvisions⟩
  have hKeep :=
    keeps_validations_provisionFor required ctx obj w
  rw [attempt, exec_bind]
  generalize (provisionFor required ctx obj).exec w = run
    at hProvisions hKeep ⊢
  rcases run with ⟨e | next, w'⟩
  · exact ⟨_, new, cs, hProvisions, .inl hKeep⟩
  · cases next with
    | none => exact ⟨_, new, cs, hProvisions, .inl hKeep⟩
    | some st =>
        refine ⟨some st, new, cs, ?_, ?_⟩
        · have hJobs :=
            keeps_scanJobs_storeAnswer ctx obj
              obj.currentPhase st 15 w'
          rw [hJobs]
          exact hProvisions
        · rcases exec_storeAnswer ctx obj obj.currentPhase st
              15 w' with hSame | hPatched
          · exact .inl (hSame.trans hKeep)
          · refine .inr ⟨st, rfl, ?_⟩
            rw [← hKeep]
            exact hPatched

end ImageValidation

end EngenhoPromessa

------------------------------------------------------------
-- What Is Stored
------------------------------------------------------------

namespace EngenhoPromessa

namespace RunState

open AkeylessImageValidationStatus

variable [Chrono]

/- A turn that wrote no validation leaves the status. -/
theorem write_of_eq
    {s : RunState}
    (hReadable : s.IsReadable)
    {w : World}
    (hSame : w.cluster.validations = [s.objectAt s.stored]) :
    (s.write w).IsReadable ∧
      (s.write w).status = s.status := by
  have hStored := stored_write_of_eq s hSame
  constructor
  · intro stored hMem
    rcases (write_frame s w).2.2.2 stored hMem with
      hNew | hOld
    · rw [hNew, hStored]
      exact hReadable s.stored (List.Mem.head _)
    · exact hReadable stored hOld
  · rw [status, hStored, status]

/- A turn that patched the validation merges its answer in. -/
theorem write_of_patchNamed
    {s : RunState}
    (hReadable : s.IsReadable)
    {w : World}
    {«namespace» name : String}
    {st : AkeylessImageValidationStatus}
    (hWritable : st.Writable)
    (hPatch :
      Stored.patchNamed «namespace» name
          (.obj [("status", st.toValue)])
          [s.objectAt s.stored] =
        some w.cluster.validations) :
    (s.write w).IsReadable ∧
      (s.write w).status = s.status.mergeOver st := by
  rcases ofStored_stored hReadable with
    ⟨old, hOld, hStatus, hStatusWritable⟩
  have hStored :
      ofStored (s.write w).stored =
        some (some (s.status.mergeOver st)) := by
    rw [stored_write_of_patchNamed s hPatch, ← hStatus]
    exact ofStored_merge hWritable hOld
  constructor
  · intro stored hMem
    rcases (write_frame s w).2.2.2 stored hMem with
      hNew | hBefore
    · rw [hNew]
      exact ⟨_, hStored,
        writable_mergeOver hStatusWritable hWritable⟩
    · exact hReadable stored hBefore
  · rw [status, hStored]
    rfl

end RunState

end EngenhoPromessa

------------------------------------------------------------
-- Runs
------------------------------------------------------------

namespace EngenhoPromessa

/-
  A validation, the scan jobs of its cluster, and those of
  them that its attempts created, in the order of creation.
-/
structure Provisioning where
  validation : RunState
  jobs : List (Stored ScanJobSpec)
  made : List (Stored ScanJobSpec)

namespace Provisioning

open ImageValidation

/-
  An attempt of the controller, or a change others make to
  the scan jobs.
-/
inductive Event where
  | attempt
      (ctx : ReconcileCtx)
      (surroundings : Cluster)
      (faults : List ApiFault)
  | others (jobs : List (Stored ScanJobSpec))

/- The world of an attempt. -/
def world
    (s : Provisioning)
    (surroundings : Cluster)
    (faults : List ApiFault) : World :=
  s.validation.world
    { surroundings with scanJobs := s.jobs } faults

/- What a scan job is, whatever has become of it. -/
def identity
    (o : Stored ScanJobSpec) : ObjectMeta × ScanJobSpec :=
  (o.metadata, o.spec)

/- The same scan jobs of a validation in two lists. -/
def SameScans
    (metadata : ObjectMeta)
    (jobs jobs' : List (Stored ScanJobSpec)) : Prop :=
  ∀ scanner,
    (jobs'.filter (isScanOf metadata scanner)).map identity =
      (jobs.filter (isScanOf metadata scanner)).map identity

/- Others do not create or delete the validation's scans. -/
def IsAllowed (s : Provisioning) : Event → Prop
| .attempt _ _ _ => True
| .others jobs =>
    SameScans s.validation.metadata s.jobs jobs

variable [Chrono] [SerdeJson]

/- An attempt is made on the stored object, in its phase. -/
def step
    (required : BTreeSet RequiredScanner)
    (s : Provisioning) : Event → Provisioning
| .attempt ctx surroundings faults =>
    match s.validation.copy 0 with
    | none => s
    | some obj =>
        if obj.currentPhase = .provisioning then
          let w := ((attempt required ctx obj).exec
            (s.world surroundings faults)).2
          { validation := s.validation.write w
            jobs := w.cluster.scanJobs
            made := s.made ++
              w.cluster.scanJobs.drop s.jobs.length }
        else
          s
| .others jobs => { s with jobs := jobs }

/-
  Provisioning begins: no scan is created yet, and none is
  listed unless the list is about to be written over.
-/
structure Begins
    (required : BTreeSet RequiredScanner)
    (s : Provisioning) : Prop where
  readable : s.validation.IsReadable
  phase : s.validation.phase = .provisioning
  no_scans :
    ∀ scanner,
      s.jobs.any
        (isScanOf s.validation.metadata scanner) = false
  made : s.made = []
  listed :
    s.validation.status.scanJobs = [] ∨
      required.toList ≠ []

/-
  One scan job of the right kind for every required scanner,
  no other created, and all of them listed in order.
-/
structure IsProvisioned
    (required : BTreeSet RequiredScanner)
    (metadata : ObjectMeta)
    (s : Provisioning) : Prop where
  one_each :
    ∀ scanner ∈ required,
      ∃ o,
        s.jobs.filter (fun o =>
            o.isNamed metadata.namespaceOrDefault
              (scanJobNameOf scanner metadata.nameAny)) =
          [o] ∧
          o.spec.scanner =
            scannerKindFromRequired scanner ∧
          o.spec.parentValidation = metadata.nameAny
  made_only :
    List.Forall₂
      (fun scanner o =>
        o.isNamed metadata.namespaceOrDefault
            (scanJobNameOf scanner metadata.nameAny) =
          true ∧
          o.spec.scanner =
            scannerKindFromRequired scanner)
      required.toList s.made
  listed :
    s.validation.status.scanJobs =
      required.toList.map (fun scanner =>
        { name := scanJobNameOf scanner metadata.nameAny
          scanner := scannerKindFromRequired scanner
          phase := .pending
          findingsCount := 0 })

end Provisioning

end EngenhoPromessa

------------------------------------------------------------
-- What Every Attempt Preserves
------------------------------------------------------------

namespace EngenhoPromessa

namespace Provisioning

open Fallible ImageValidation

/-
  Changes to other scan jobs do not hide one of this
  validation.
-/
theorem SameScans.any_eq
    {metadata : ObjectMeta}
    {jobs jobs' : List (Stored ScanJobSpec)}
    (hSame : SameScans metadata jobs jobs')
    (scanner : RequiredScanner) :
    jobs'.any (isScanOf metadata scanner) =
      jobs.any (isScanOf metadata scanner) := by
  have hLength := congrArg List.length (hSame scanner)
  rw [List.length_map, List.length_map] at hLength
  rw [Bool.eq_iff_iff, List.any_eq_true, List.any_eq_true,
    ← List.length_filter_pos_iff,
    ← List.length_filter_pos_iff, hLength]

/- New scan jobs come on top of either list. -/
theorem SameScans.append
    {metadata : ObjectMeta}
    {jobs jobs' : List (Stored ScanJobSpec)}
    (hSame : SameScans metadata jobs jobs')
    (cs : List (Stored ScanJobSpec)) :
    SameScans metadata (jobs ++ cs) (jobs' ++ cs) := by
  intro scanner
  rw [List.filter_append, List.filter_append,
    List.map_append, List.map_append, hSame scanner]

variable [Chrono]

/-
  The scan jobs created so far are those of the first
  scanners; they are all there once the phase is Scanning.
-/
structure Progress
    (required : BTreeSet RequiredScanner)
    (done : List RequiredScanner)
    (s : Provisioning) : Prop where
  readable : s.validation.IsReadable
  first : done <+: required.toList
  built :
    List.Forall₂
      (IsCreatedFor s.validation.metadata s.validation.spec)
      done s.made
  same : SameScans s.validation.metadata s.made s.jobs
  status :
    s.validation.phase = .provisioning ∧
        (s.validation.status.scanJobs = [] ∨
          required.toList ≠ []) ∨
      s.validation.phase = .scanning ∧
        done = required.toList ∧
        s.validation.status.scanJobs =
          required.toList.map
            (summaryFor s.validation.metadata)

/- At the start no scanner is provided. -/
theorem progress_of_begins
    {required : BTreeSet RequiredScanner}
    {s : Provisioning}
    (hBegins : Begins required s) :
    Progress required [] s where
  readable := hBegins.readable
  first := List.nil_prefix
  built := by
    rw [hBegins.made]
    exact .nil
  same := by
    intro scanner
    have hNone :
        s.jobs.filter
          (isScanOf s.validation.metadata scanner) = [] :=
      List.filter_eq_nil_iff.mpr
        (List.any_eq_false.mp (hBegins.no_scans scanner))
    rw [hBegins.made, hNone]
    rfl
  status := .inl ⟨hBegins.phase, hBegins.listed⟩

/- What is missing is what comes after what is done. -/
theorem Progress.missingScans_eq
    {required : BTreeSet RequiredScanner}
    {done rest : List RequiredScanner}
    {s : Provisioning}
    (hProgress : Progress required done s)
    (hRest : done ++ rest = required.toList) :
    missingScans required s.validation.metadata s.jobs =
      rest := by
  rw [missingScans, ← hRest]
  refine filter_missing_eq ?_ ?_
  · rw [hRest]
    exact required.nodup
  · intro scanner _
    rw [hProgress.same.any_eq]
    exact any_of_forall₂
      (distinguishes_isScanOf _ s.validation.spec)
      hProgress.built scanner

/- A status that an attempt comes to, merged and read back. -/
theorem mergeOver_answer
    {required : BTreeSet RequiredScanner}
    {s : Provisioning}
    (hListed :
      s.validation.status.scanJobs = [] ∨
        required.toList ≠ [])
    {obj : AkeylessImageValidation}
    (hCopy : s.validation.copy 0 = some obj)
    (ctx : ReconcileCtx)
    (st : AkeylessImageValidationStatus) :
    let merged := s.validation.status.mergeOver st
    (st = provisionedStatus ctx obj →
        merged.phase = some .provisioning ∧
          merged.scanJobs =
            s.validation.status.scanJobs) ∧
      (st = scheduledStatus required obj →
        merged.phase = some .scanning ∧
          merged.scanJobs =
            required.toList.map
              (summaryFor s.validation.metadata)) := by
  intro merged
  have hMetadata := (RunState.copy_eq_some hCopy).1
  have hStatus := (RunState.copy_zero_eq_some hCopy).1
  constructor
  · rintro rfl
    refine ⟨rfl, ?_⟩
    change (if obj.statusOrDefault.scanJobs.isEmpty then _
      else obj.statusOrDefault.scanJobs) = _
    rw [hStatus]
    exact ite_self _
  · rintro rfl
    refine ⟨rfl, ?_⟩
    change (if (required.toList.map
        (summaryFor obj.metadata)).isEmpty then _
      else required.toList.map (summaryFor obj.metadata)) = _
    rw [hMetadata]
    rcases hListed with hEmpty | hSome
    · split
      · next hNone =>
          rw [hEmpty, List.isEmpty_iff.mp hNone]
      · rfl
    · rw [if_neg (by simpa using hSome)]

/-
  What is stored after an attempt: the status as it was, or
  one that the attempt came to.
-/
theorem stored_of_attempt
    {required : BTreeSet RequiredScanner}
    {s : Provisioning}
    (hReadable : s.validation.IsReadable)
    (hListed :
      s.validation.status.scanJobs = [] ∨
        required.toList ≠ [])
    {ctx : ReconcileCtx}
    {obj : AkeylessImageValidation}
    (hCopy : s.validation.copy 0 = some obj)
    (hPhase : obj.currentPhase = .provisioning)
    (complete : Prop)
    {w : World}
    (hStored :
      w.cluster.validations =
          [s.validation.objectAt s.validation.stored] ∨
        ∃ st «namespace» name,
          (st = provisionedStatus ctx obj ∨
            st = scheduledStatus required obj ∧ complete) ∧
          Stored.patchNamed «namespace» name
              (.obj [("status", st.toValue)])
              [s.validation.objectAt s.validation.stored] =
            some w.cluster.validations) :
    let after := s.validation.write w
    after.IsReadable ∧
      (after.phase = .provisioning ∧
          (after.status.scanJobs = [] ∨
            required.toList ≠ []) ∨
        after.phase = .scanning ∧ complete ∧
          after.status.scanJobs =
            required.toList.map
              (summaryFor s.validation.metadata)) := by
  intro after
  have hCurrent := (RunState.copy_zero_eq_some hCopy).2
  rcases hStored with
    hKept | ⟨st, ns, name, hAnswer, hPatch⟩
  · rcases RunState.write_of_eq hReadable hKept with
      ⟨hAfter, hStatus⟩
    refine ⟨hAfter, .inl ⟨?_, ?_⟩⟩
    · rw [RunState.phase, hStatus, ← RunState.phase,
        ← hCurrent, hPhase]
    · rw [hStatus]
      exact hListed
  · have hObj := RunState.writable_copy hReadable hCopy
    have hWritable : st.Writable := by
      rcases hAnswer with rfl | ⟨rfl, -⟩
      · exact hObj
      · exact hObj
    rcases RunState.write_of_patchNamed hReadable hWritable
        hPatch with ⟨hAfter, hStatus⟩
    rcases mergeOver_answer hListed hCopy ctx st with
      ⟨hAgain, hScheduled⟩
    refine ⟨hAfter, ?_⟩
    rw [RunState.phase, hStatus]
    rcases hAnswer with hSt | ⟨hSt, hComplete⟩
    · rcases hAgain hSt with ⟨hProvisioning, hJobs⟩
      rw [hProvisioning, hJobs]
      exact .inl ⟨rfl, hListed⟩
    · rcases hScheduled hSt with ⟨hScanning, hJobs⟩
      rw [hScanning, hJobs]
      exact .inr ⟨rfl, hComplete, rfl⟩

/- An attempt goes on from what is provided. -/
theorem progress_of_provisions
    {required : BTreeSet RequiredScanner}
    {done : List RequiredScanner}
    {s : Provisioning}
    (hProgress : Progress required done s)
    {ctx : ReconcileCtx}
    {obj : AkeylessImageValidation}
    (hCopy : s.validation.copy 0 = some obj)
    (hPhase : obj.currentPhase = .provisioning)
    {w : World}
    {answer : Option AkeylessImageValidationStatus}
    {new : List RequiredScanner}
    {cs : List (Stored ScanJobSpec)}
    (hProvisions :
      Provisions required ctx obj s.jobs w.cluster.scanJobs
        answer new cs)
    (hStored :
      w.cluster.validations =
          [s.validation.objectAt s.validation.stored] ∨
        ∃ st «namespace» name, answer = some st ∧
          Stored.patchNamed «namespace» name
              (.obj [("status", st.toValue)])
              [s.validation.objectAt s.validation.stored] =
            some w.cluster.validations) :
    Progress required (done ++ new)
      { validation := s.validation.write w
        jobs := w.cluster.scanJobs
        made := s.made ++
          w.cluster.scanJobs.drop s.jobs.length } := by
  rcases hProgress.first with ⟨rest, hRest⟩
  rcases RunState.copy_eq_some hCopy with
    ⟨hMetadata, hSpec, -⟩
  have hCurrent := (RunState.copy_zero_eq_some hCopy).2
  have hMetadata' :=
    (RunState.write_frame s.validation w).1
  have hSpec' := RunState.spec_write s.validation w
  have hMissing := hProgress.missingScans_eq hRest
  rcases hProvisions with
    ⟨hBuilt, hJobs, hNew, hAnswered⟩
  rw [hMetadata, hMissing] at hNew hAnswered
  rw [hMetadata, hSpec] at hBuilt
  have hMade :
      w.cluster.scanJobs.drop s.jobs.length = cs := by
    rw [hJobs, List.drop_left]
  have hListed :
      s.validation.status.scanJobs = [] ∨
        required.toList ≠ [] := by
    rcases hProgress.status with ⟨-, h⟩ | ⟨h, -⟩
    · exact h
    · rw [← hCurrent, hPhase] at h
      exact absurd h (by decide)
  have hAfter :=
    stored_of_attempt hProgress.readable hListed hCopy
      hPhase (done ++ new = required.toList)
      (hStored.imp_right
        fun ⟨st, ns, name, hSt, hPatch⟩ =>
          ⟨st, ns, name,
            (hAnswered st hSt).imp_right
              (fun h => ⟨h.1, by rw [h.2, hRest]⟩),
            hPatch⟩)
  rw [hMade, hJobs]
  refine ⟨hAfter.1, ?_, ?_, ?_, ?_⟩
  · rw [← hRest]
    exact (List.prefix_append_right_inj done).mpr hNew
  · rw [hMetadata', hSpec']
    exact List.rel_append hProgress.built hBuilt
  · rw [hMetadata']
    exact hProgress.same.append cs
  · rw [hMetadata']
    exact hAfter.2

variable [SerdeJson]

/- Either event goes on from what is provided. -/
theorem progress_step
    {required : BTreeSet RequiredScanner}
    {done : List RequiredScanner}
    {s : Provisioning}
    (hProgress : Progress required done s)
    {e : Event}
    (hAllowed : s.IsAllowed e) :
    ∃ done', Progress required done' (s.step required e) := by
  cases e with
  | others jobs =>
      exact ⟨done, hProgress.readable, hProgress.first,
        hProgress.built,
        fun scanner => (hAllowed scanner).trans
          (hProgress.same scanner),
        hProgress.status⟩
  | attempt ctx surroundings faults =>
      simp only [step]
      cases hCopy : s.validation.copy 0 with
      | none => exact ⟨done, hProgress⟩
      | some obj =>
          dsimp only
          by_cases hPhase :
              obj.currentPhase = .provisioning
          · rw [if_pos hPhase]
            rcases exec_attempt required ctx obj
                (s.world surroundings faults) with
              ⟨answer, new, cs, hProvisions, hStored⟩
            refine ⟨done ++ new,
              progress_of_provisions hProgress hCopy hPhase
                hProvisions ?_⟩
            rcases hStored with hKept | ⟨st, hSt, hPatch⟩
            · exact .inl hKept
            · exact .inr ⟨st, _, _, hSt, hPatch⟩
          · rw [if_neg hPhase]
            exact ⟨done, hProgress⟩

/- A step keeps the validation's metadata, -/
theorem metadata_step
    (required : BTreeSet RequiredScanner)
    (s : Provisioning)
    (e : Event) :
    (s.step required e).validation.metadata =
      s.validation.metadata := by
  cases e with
  | others jobs => rfl
  | attempt ctx surroundings faults =>
      simp only [step]
      cases s.validation.copy 0 with
      | none => rfl
      | some obj =>
          dsimp only
          split
          · exact (RunState.write_frame s.validation _).1
          · rfl

/- and so does a run. -/
theorem metadata_run
    (required : BTreeSet RequiredScanner)
    (s : Provisioning)
    (events : List Event) :
    (Run.run (step required) s events).validation.metadata =
      s.validation.metadata :=
  Run.invariant_run
    (fun t => t.validation.metadata = s.validation.metadata)
    (fun t e hSame _ =>
      (metadata_step required t e).trans hSame)
    rfl (Run.allowed_true (step required) s events)

omit [Chrono] [SerdeJson] in
/-
  A scan job made for a scanner is of its kind and of its
  validation.
-/
theorem kind_of_isCreatedFor
    {metadata : ObjectMeta}
    {spec : AkeylessImageValidationSpec}
    {scanner : RequiredScanner}
    {o : Stored ScanJobSpec}
    (hCreated : IsCreatedFor metadata spec scanner o) :
    isScanOf metadata scanner o = true ∧
      o.spec.scanner = scannerKindFromRequired scanner ∧
      o.spec.parentValidation = metadata.nameAny := by
  refine ⟨?_, ?_⟩
  · exact (distinguishes_isScanOf metadata spec scanner
      scanner o hCreated).mpr rfl
  · rcases hCreated with ⟨ctx, obj, tenant, rfl, rfl, rfl⟩
    simp only [newlyStored, ownScanJob, buildScanJob,
      and_self]

omit [SerdeJson] in
/- Once all is done, what was to be provisioned is there. -/
theorem Progress.isProvisioned
    {required : BTreeSet RequiredScanner}
    {done : List RequiredScanner}
    {s : Provisioning}
    (hProgress : Progress required done s)
    (hPhase : s.validation.phase = .scanning) :
    IsProvisioned required s.validation.metadata s := by
  rcases hProgress.status with
    ⟨hNot, -⟩ | ⟨-, rfl, hListed⟩
  · rw [hPhase] at hNot
    exact absurd hNot (by decide)
  · refine ⟨?_, ?_, hListed⟩
    · intro scanner hMem
      rcases exists_filter_eq_singleton
          (distinguishes_isScanOf s.validation.metadata
            s.validation.spec)
          required.nodup hProgress.built hMem with
        ⟨c, hOne, hCreated⟩
      have hSame := hProgress.same scanner
      rw [hOne, List.map_singleton,
        List.map_eq_singleton_iff] at hSame
      rcases hSame with ⟨o, hJobs, hIdentity⟩
      have hSpec : o.spec = c.spec :=
        (Prod.mk.inj hIdentity).2
      refine ⟨o, hJobs, ?_⟩
      rw [hSpec]
      exact (kind_of_isCreatedFor hCreated).2
    · refine hProgress.built.imp ?_
      intro scanner o hCreated
      have hKind := kind_of_isCreatedFor hCreated
      exact ⟨hKind.1, hKind.2.1⟩

/-
  However often an attempt is stopped and made again, each
  required scanner gets one scan job, and no two scanners or
  validations share a name.
-/
theorem isProvisioned_run
    (required : BTreeSet RequiredScanner)
    (s : Provisioning)
    (hBegins : Begins required s)
    (events : List Event)
    (hAllowed :
      Run.Allowed (step required) IsAllowed s events) :
    ((Run.run (step required) s
          events).validation.phase = .scanning →
        IsProvisioned required s.validation.metadata
          (Run.run (step required) s events)) ∧
      ∀ scanner scanner' validation validation',
        scanJobNameOf scanner validation =
            scanJobNameOf scanner' validation' →
          scanner = scanner' ∧ validation = validation' := by
  have hProgress :
      ∃ done, Progress required done
        (Run.run (step required) s events) :=
    Run.invariant_run
      (fun t => ∃ done, Progress required done t)
      (fun _ _ ⟨_, hBefore⟩ hOk => progress_step hBefore hOk)
      ⟨[], progress_of_begins hBegins⟩ hAllowed
  refine ⟨?_, ?_⟩
  · intro hPhase
    rcases hProgress with ⟨done, hProgress⟩
    rw [← metadata_run required s events]
    exact hProgress.isProvisioned hPhase
  · intro scanner scanner' validation validation' hName
    exact scanJobNameOf_inj hName

end Provisioning

namespace Reference

/- The reference validation, after its first step. -/
def provisioningRun : RunState :=
  (RunState.created (metadata "auth-00") validationSpec).step
    (.reconcile ctx 0 emptyCluster [])

/- A validation about to provision its scan jobs. -/
def toProvision : Provisioning where
  validation := provisioningRun
  jobs := []
  made := []

/- The scanners the reference requires. -/
def twoScanners : BTreeSet RequiredScanner :=
  .ofList [.grype, .trivy]

/-
  The first creation takes effect, but its answer is lost;
  the second is refused; the third attempt goes through.
-/
def untilProvisioned : List Provisioning.Event :=
  [.attempt ctx withTenant [.none, .none, .lost],
    .attempt ctx withTenant [.none, .none, .none, .refused],
    .attempt ctx withTenant []]

end Reference

namespace Provisioning

/- The reference begins with nothing provided. -/
theorem begins_toProvision :
    Begins Reference.twoScanners Reference.toProvision where
  readable :=
    RunState.isReadable_step
      (RunState.isReadable_created _ _) _
  phase := by decide +kernel
  no_scans := fun _ => rfl
  made := rfl
  listed := .inl (by decide +kernel)

/- Attempts that fail midway, and one that completes them. -/
theorem isProvisioned_run_untilProvisioned :
    IsProvisioned Reference.twoScanners
      (Reference.metadata "auth-00")
      (Run.run (step Reference.twoScanners)
        Reference.toProvision
        Reference.untilProvisioned) :=
  (isProvisioned_run Reference.twoScanners
      Reference.toProvision begins_toProvision
      Reference.untilProvisioned
      ⟨trivial, trivial, trivial, trivial⟩).1
    (by decide +kernel)

end Provisioning

end EngenhoPromessa
