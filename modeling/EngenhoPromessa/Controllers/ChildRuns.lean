import EngenhoPromessa.Controllers.PhaseMachine
import EngenhoPromessa.Controllers.ScanEvidence

/-
  Runs of a validation among the scan jobs of its cluster.

  The validation's steps and those of the scan jobs are
  interleaved, and anyone may create or delete a scan job in
  between. A scan job's step may act on any copy of it; the
  validation's steps act on the stored object.

  Key definitions include:
    * `ChildRun`
    * `ChildRun.children`
    * `ChildRun.step`
    * `AllJobs`

  Key theorems include:
    * `preserves_allJobs_scanReconcile`
    * `preserves_allJobs_validationReconcile`
    * `ChildRun.allJobs_step`
-/

------------------------------------------------------------
-- States And Steps
------------------------------------------------------------

namespace EngenhoPromessa

/-
  A validation and the scan jobs around it. What the gate
  looked at when it decided is kept for reference.
-/
structure ChildRun where
  validation : RunState
  jobs : List (Stored ScanJobSpec)
  judged : Option (List ScanJob)

namespace ChildRun

/- A validation created among the scan jobs that are there. -/
def created
    (metadata : ObjectMeta)
    (spec : AkeylessImageValidationSpec)
    (jobs : List (Stored ScanJobSpec)) : ChildRun where
  validation := .created metadata spec
  jobs := jobs
  judged := none

/-
  The cluster a turn finds, with the run's own scan jobs in
  it.
-/
def around
    (s : ChildRun)
    (surroundings : Cluster) : Cluster :=
  { surroundings with scanJobs := s.jobs }

/- The world of a validation's turn. -/
def world
    (s : ChildRun)
    (surroundings : Cluster)
    (faults : List ApiFault) : World :=
  s.validation.world (s.around surroundings) faults

/-
  What may happen to a validation and to its scan jobs: a
  turn of either controller, and scan jobs that others
  create or delete.
-/
inductive Event where
  | validation
      (ctx : ReconcileCtx)
      (surroundings : Cluster)
      (faults : List ApiFault)
  | scan
      (ctx : ReconcileCtx)
      (copy : ScanJob)
      (surroundings : Cluster)
      (faults : List ApiFault)
  | create (job : Stored ScanJobSpec)
  | delete («namespace» name : String)

variable [Chrono] [SerdeJson]

/- The children that are listed for an object's metadata. -/
def childrenAmong
    (jobs : List (Stored ScanJobSpec))
    (metadata : ObjectMeta) : Option (List ScanJob) :=
  ((jobs.filter (fun o =>
      o.metadata.namespaceOrDefault =
        metadata.namespaceOrDefault)).mapM
    Api.readScanJob).map (fun items =>
      items.filter (fun sj =>
        sj.spec.parentValidation = metadata.nameAny))

theorem childrenIn_eq
    (cluster : Cluster)
    (obj : AkeylessImageValidation) :
    ImageValidation.childrenIn cluster obj =
      childrenAmong cluster.scanJobs obj.metadata := rfl

/- The children the validation has now. -/
def children (s : ChildRun) : Option (List ScanJob) :=
  childrenAmong s.jobs s.validation.metadata

variable [Blake3] [PromessaSerde]

/-
  A gating turn that ends the validation is the one whose
  children are remembered as judged.
-/
def step (s : ChildRun) : Event → ChildRun
| .validation ctx surroundings faults =>
    match s.validation.copy 0 with
    | none => s
    | some obj =>
        let w := ((ImageValidation.reconcile ctx obj).exec
          (s.world surroundings faults)).2
        let next := s.validation.write w
        { validation := next
          jobs := w.cluster.scanJobs
          judged :=
            if obj.currentPhase = .gating ∧
                next.phase.isTerminal = true then
              s.children
            else
              s.judged }
| .scan ctx copy surroundings faults =>
    let w := ((ScanJobController.reconcile ctx copy).exec
      (s.world surroundings faults)).2
    { s with jobs := w.cluster.scanJobs }
| .create job =>
    if s.jobs.any (fun o =>
        o.isNamed job.metadata.namespaceOrDefault
          job.metadata.nameAny) then
      s
    else
      { s with jobs := s.jobs ++ [job] }
| .delete «namespace» name =>
    { s with
      jobs := s.jobs.filter (fun o =>
        !o.isNamed «namespace» name) }

/- The validation's own part of a step. -/
theorem validation_step
    (s : ChildRun)
    (ctx : ReconcileCtx)
    (surroundings : Cluster)
    (faults : List ApiFault) :
    (s.step (.validation ctx surroundings
        faults)).validation =
      s.validation.step
        (.reconcile ctx 0 (s.around surroundings)
          faults) := by
  simp only [step, RunState.step, world]
  cases s.validation.copy 0 with
  | none => rfl
  | some obj => rfl

end ChildRun

end EngenhoPromessa

------------------------------------------------------------
-- Scan Jobs Across Steps
------------------------------------------------------------

namespace EngenhoPromessa

open Fallible ScanJobController

/- What holds of the metadata and spec of all scan jobs. -/
def AllJobs
    (P : ObjectMeta → ScanJobSpec → Prop)
    (jobs : List (Stored ScanJobSpec)) : Prop :=
  ∀ o ∈ jobs, P o.metadata o.spec

/- The same, of the scan jobs of a world. -/
def AllStored
    (P : ObjectMeta → ScanJobSpec → Prop)
    (w : World) : Prop :=
  AllJobs P (scanJobs w)

/- A status patch leaves metadata and specs as they are. -/
theorem allJobs_patchNamed
    {P : ObjectMeta → ScanJobSpec → Prop}
    {«namespace» name : String}
    {patch : Json}
    {jobs jobs' : List (Stored ScanJobSpec)}
    (hPatch :
      Stored.patchNamed «namespace» name patch jobs =
        some jobs')
    (hAll : AllJobs P jobs) :
    AllJobs P jobs' := by
  induction jobs generalizing jobs' with
  | nil => simp [Stored.patchNamed] at hPatch
  | cons o jobs ih =>
      rcases List.forall_mem_cons.mp hAll with ⟨hHead, hTail⟩
      rw [Stored.patchNamed] at hPatch
      split at hPatch
      · rw [← Option.some.inj hPatch]
        exact List.forall_mem_cons.mpr ⟨hHead, hTail⟩
      · rcases Option.map_eq_some_iff.mp hPatch with
          ⟨rest, hRest, rfl⟩
        exact List.forall_mem_cons.mpr
          ⟨hHead, ih hRest hTail⟩

/- A status patch changes neither metadata nor specs. -/
theorem preserves_allJobs_patchPhase
    [Chrono]
    [SerdeJson]
    (P : ObjectMeta → ScanJobSpec → Prop)
    («namespace» name : String)
    (phase : ScanJobPhase)
    (findings : Option (List ScanFinding))
    (attestation : Option AttestationRef) :
    Preserves (AllStored P)
      (patchPhase «namespace» name phase findings
        attestation) := by
  intro w hAll
  rw [AllStored, scanJobs, patchPhase,
    Api.scanJobs_exec_patchScanJobStatus]
  split
  · exact hAll
  · cases hPatch : Stored.patchNamed «namespace» name _
        w.cluster.scanJobs with
    | none => exact hAll
    | some jobs' => exact allJobs_patchNamed hPatch hAll

/- Creating the `Job` leaves scan jobs alone. -/
theorem keeps_scanJobs_createScannerJob
    (ctx : ReconcileCtx)
    (sj : ScanJob) :
    Keeps scanJobs (createScannerJob ctx sj) := by
  apply keeps_bind (Kube.keeps_read Cluster.scanJobs _ _)
  intro existing
  split
  · exact keeps_pure _ _
  · refine Kube.keeps_call Cluster.scanJobs _
      (fun cluster => ?_)
    split
    · rfl
    · rfl

/- A scan job's turn keeps what holds of metadata and specs. -/
theorem preserves_allJobs_scanReconcile
    [Chrono]
    [SerdeJson]
    [Blake3]
    (P : ObjectMeta → ScanJobSpec → Prop)
    (ctx : ReconcileCtx)
    (sj : ScanJob) :
    Preserves (AllStored P)
      (ScanJobController.reconcile ctx sj) := by
  have hPatch := preserves_allJobs_patchPhase P
    sj.metadata.namespaceOrDefault sj.metadata.nameAny
  have hPure :
      ∀ n : Nat, Preserves (AllStored P) (pure n : Kube Nat) :=
    fun n => preserves_pure _ n
  unfold ScanJobController.reconcile
  cases sj.phase.getD .pending with
  | pending =>
      apply preserves_bind
      · exact preserves_of_keeps
          (keeps_scanJobs_createScannerJob ctx sj)
          (AllJobs P)
      · intro _
        exact preserves_bind (hPatch _ _ _)
          (fun _ => hPure 15)
  | forking =>
      exact preserves_bind (hPatch _ _ _)
        (fun _ => hPure 15)
  | execing =>
      exact preserves_bind (hPatch _ _ _)
        (fun _ => hPure 15)
  | running =>
      apply preserves_bind
      · exact preserves_of_keeps
          (keeps_scanJobs_collectResults ctx sj) (AllJobs P)
      · intro result
        rcases result with _ | ⟨findings, hash⟩
        · exact hPure 15
        · apply preserves_bind (hPatch _ _ _)
          intro _
          apply preserves_bind
          · exact preserves_of_keeps
              (keeps_scanJobs_emitFindingsRecorded ctx sj
                findings) (AllJobs P)
          · exact fun _ => hPure 15
  | attested => exact hPure 3600
  | reconverging => exact hPure 3600
  | exiting => exact hPure 3600
  | failed => exact hPure 3600
  | zombie => exact hPure 3600
  | reaped => exact hPure 3600

namespace ImageValidation

variable [Chrono] [SerdeJson]

omit [SerdeJson] in
/- The pending phase creates a tenant, no scan job. -/
theorem keeps_scanJobs_handlePending
    (ctx : ReconcileCtx)
    (obj : AkeylessImageValidation) :
    Keeps scanJobs (handlePending ctx obj) := by
  refine keeps_handlePending
    (fun _ _ => Kube.keeps_read Cluster.scanJobs _ _)
    (fun _ _ => Kube.keeps_call Cluster.scanJobs _
      (fun cluster => ?_))
  split
  · rfl
  · rfl

theorem keeps_scanJobs_childScanJobs
    (obj : AkeylessImageValidation) :
    Keeps scanJobs (childScanJobs obj) :=
  keeps_bind (Kube.keeps_read Cluster.scanJobs _ _)
    (fun _ => keeps_pure _ _)

omit [SerdeJson] in
/- Storing an answer patches a validation, no scan job. -/
theorem keeps_scanJobs_storeAnswer
    (ctx : ReconcileCtx)
    (obj : AkeylessImageValidation)
    (previousPhase : AkeylessImageValidationPhase)
    (new : AkeylessImageValidationStatus)
    (requeue : Nat) :
    Keeps scanJobs (do
      Api.patchValidationStatus (patchScope ctx obj)
        obj.metadata.nameAny
        (.obj [("status", new.toValue)])
      emitPostPatch ctx obj previousPhase new
      return requeue) := by
  apply keeps_bind
  · refine Kube.keeps_call Cluster.scanJobs _
      (fun cluster => ?_)
    split
    · rfl
    · split
      · rfl
      · rfl
  · intro _
    exact keeps_bind
      (keeps_emitPostPatch Cluster.scanJobs ctx obj
        previousPhase new)
      (fun _ => keeps_pure _ _)

/- The scan job that a validation's own step creates. -/
def ownScanJob
    (ctx : ReconcileCtx)
    (obj : AkeylessImageValidation)
    (tenant : AkeylessEphemeralTenant)
    (scanner : RequiredScanner) : ScanJob :=
  buildScanJob ctx.env (scanJobName obj scanner)
    obj.metadata.namespaceOrDefault obj tenant scanner

/- All scan jobs the step may create are so. -/
def CreatesOnly
    (P : ObjectMeta → ScanJobSpec → Prop)
    (ctx : ReconcileCtx)
    (obj : AkeylessImageValidation) : Prop :=
  ∀ tenant scanner,
    P (ownScanJob ctx obj tenant scanner).metadata
      (ownScanJob ctx obj tenant scanner).spec

/- A provisioning turn adds scan jobs of its own making only. -/
theorem preserves_allJobs_handleProvisioning
    {P : ObjectMeta → ScanJobSpec → Prop}
    {ctx : ReconcileCtx}
    {obj : AkeylessImageValidation}
    (hCreates : CreatesOnly P ctx obj) :
    Preserves (AllStored P) (handleProvisioning ctx obj) := by
  have hProvision :
      ∀ tenant scanner,
        Preserves (AllStored P)
          (provisionScanJob ctx obj tenant scanner) := by
    intro tenant scanner
    apply preserves_bind
    · exact preserves_of_keeps
        (Kube.keeps_read Cluster.scanJobs _ _) (AllJobs P)
    · intro existing
      cases existing with
      | some sj => exact preserves_pure _ _
      | none =>
          apply preserves_bind
          · refine Kube.preserves_call
              (P := fun cluster =>
                AllJobs P cluster.scanJobs) _
              (fun cluster hAll => ?_)
            split
            · exact hAll
            · intro o hMem
              rcases List.mem_append.mp hMem with hOld | hNew
              · exact hAll o hOld
              · rw [List.mem_singleton.mp hNew]
                exact hCreates tenant scanner
          · exact fun _ => preserves_pure _ _
  apply preserves_bind
  · exact preserves_of_keeps
      (Kube.keeps_read Cluster.scanJobs _ _) (AllJobs P)
  · intro existing
    cases existing with
    | none =>
        exact preserves_of_keeps
          (keeps_scanJobs_handlePending ctx obj) (AllJobs P)
    | some tenant =>
        dsimp only
        split
        · exact preserves_pure _ _
        · exact preserves_bind
            (preserves_mapM (hProvision tenant) _)
            (fun _ => preserves_pure _ _)

variable [Blake3] [PromessaSerde]

/- In the other phases no scan job is created. -/
theorem keeps_scanJobs_nextStatus
    (ctx : ReconcileCtx)
    {obj : AkeylessImageValidation}
    (hPhase : provisions obj.currentPhase = false) :
    Keeps scanJobs (nextStatus ctx obj) :=
  keeps_nextStatus (keeps_scanJobs_handlePending ctx obj)
    (fun hProvisions => by simp [hPhase] at hProvisions)
    (keeps_scanJobs_childScanJobs obj)

/-
  In every phase, the scan jobs added are of the turn's own
  making.
-/
theorem preserves_allJobs_nextStatus
    {P : ObjectMeta → ScanJobSpec → Prop}
    {ctx : ReconcileCtx}
    {obj : AkeylessImageValidation}
    (hCreates : CreatesOnly P ctx obj) :
    Preserves (AllStored P) (nextStatus ctx obj) := by
  have hProvisioning :=
    preserves_allJobs_handleProvisioning hCreates
  by_cases hPhase : provisions obj.currentPhase = false
  · exact preserves_of_keeps
      (keeps_scanJobs_nextStatus ctx hPhase) (AllJobs P)
  · unfold nextStatus
    cases hCurrent : obj.currentPhase with
    | provisioning => exact hProvisioning
    | scanning =>
        apply preserves_bind
        · exact preserves_of_keeps
            (keeps_scanJobs_childScanJobs obj) (AllJobs P)
        · intro children
          split
          · exact hProvisioning
          · exact preserves_pure _ _
    | _ => simp [provisions, hCurrent] at hPhase

/- After the handler, a step leaves the scan jobs alone. -/
theorem preserves_reconcile
    {Q : List (Stored ScanJobSpec) → Prop}
    {ctx : ReconcileCtx}
    {obj : AkeylessImageValidation}
    (hNext :
      Preserves (fun w => Q (scanJobs w))
        (nextStatus ctx obj)) :
    Preserves (fun w => Q (scanJobs w))
      (reconcile ctx obj) := by
  have hPure :
      ∀ n : Nat, Preserves (fun w => Q (scanJobs w))
        (pure n : Kube Nat) :=
    fun n => preserves_pure _ n
  unfold reconcile
  dsimp only
  split
  · exact hPure 3600
  · apply preserves_bind hNext
    intro answer
    cases answer with
    | none => exact hPure 15
    | some newStatus =>
        exact preserves_of_keeps
          (keeps_scanJobs_storeAnswer ctx obj
            obj.currentPhase newStatus 15) Q

/- A whole turn in the other phases leaves scan jobs alone. -/
theorem keeps_scanJobs_reconcile
    (ctx : ReconcileCtx)
    {obj : AkeylessImageValidation}
    (hPhase : provisions obj.currentPhase = false) :
    Keeps scanJobs (reconcile ctx obj) := by
  intro w
  refine preserves_reconcile (Q := (· = scanJobs w)) ?_ w rfl
  exact preserves_of_keeps
    (keeps_scanJobs_nextStatus ctx hPhase) (· = scanJobs w)

theorem preserves_allJobs_validationReconcile
    {P : ObjectMeta → ScanJobSpec → Prop}
    {ctx : ReconcileCtx}
    {obj : AkeylessImageValidation}
    (hCreates : CreatesOnly P ctx obj) :
    Preserves (AllStored P) (reconcile ctx obj) :=
  preserves_reconcile (preserves_allJobs_nextStatus hCreates)

end ImageValidation

namespace ChildRun

variable [Chrono] [SerdeJson] [Blake3] [PromessaSerde]

/-
  The validation's own scan jobs apart, only what is created
  from outside is added by a step.
-/
theorem allJobs_step
    {P : ObjectMeta → ScanJobSpec → Prop}
    {s : ChildRun}
    {e : Event}
    (hOwn :
      ∀ ctx obj,
        obj.metadata = s.validation.metadata →
        obj.spec = s.validation.spec →
          ImageValidation.CreatesOnly P ctx obj)
    (hPlaced :
      ∀ job, e = .create job → P job.metadata job.spec)
    (hAll : AllJobs P s.jobs) :
    AllJobs P (s.step e).jobs := by
  cases e with
  | validation ctx surroundings faults =>
      simp only [step]
      cases hCopy : s.validation.copy 0 with
      | none => exact hAll
      | some obj =>
          rcases RunState.copy_eq_some hCopy with
            ⟨hMetadata, hSpec, _⟩
          exact
            ImageValidation.preserves_allJobs_validationReconcile
              (hOwn ctx obj hMetadata hSpec)
              (s.world surroundings faults) hAll
  | scan ctx copy surroundings faults =>
      exact preserves_allJobs_scanReconcile P ctx copy
        (s.world surroundings faults) hAll
  | create job =>
      simp only [step]
      split
      · exact hAll
      · intro o hMem
        rcases List.mem_append.mp hMem with hOld | hNew
        · exact hAll o hOld
        · rw [List.mem_singleton.mp hNew]
          exact hPlaced job rfl
  | delete «namespace» name =>
      intro o hMem
      exact hAll o (List.mem_of_mem_filter hMem)

/- What a validation is never changes. -/
theorem validation_frame (s : ChildRun) (e : Event) :
    (s.step e).validation.metadata = s.validation.metadata ∧
      (s.step e).validation.spec = s.validation.spec := by
  cases e with
  | validation ctx surroundings faults =>
      rw [validation_step]
      exact ⟨(RunState.step_frame _ _).1,
        RunState.spec_step _ _⟩
  | scan ctx copy surroundings faults => exact ⟨rfl, rfl⟩
  | create job =>
      simp only [step]
      split
      · exact ⟨rfl, rfl⟩
      · exact ⟨rfl, rfl⟩
  | delete «namespace» name => exact ⟨rfl, rfl⟩

end ChildRun

end EngenhoPromessa
