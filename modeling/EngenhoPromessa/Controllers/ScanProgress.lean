import EngenhoPromessa.Controllers.AnsweredCalls
import EngenhoPromessa.Controllers.ScanRuns

/-
  A scan job comes to its end.

  Only the running phase waits for something: the scanner's
  Job must be there and be done. No step leads back, so four
  turns that are not held up are enough, and what such a run
  attests is the hash of the findings it stores.

  Key definitions include:
    * `ScanJobController.unblocked`
    * `ScanJobPhase.rank`
    * `ScanRun.Favourable`

  Key theorems include:
    * `ScanJobController.exec_reconcile_of_unblocked`
    * `ScanRun.rank_step_of_favourable`
    * `ScanRun.attested_of_favourable`
-/

------------------------------------------------------------
-- The Step Succeeds
------------------------------------------------------------

namespace EngenhoPromessa

/- How many phases there are still to go. -/
def ScanJobPhase.rank : ScanJobPhase → Nat
| .pending => 4
| .forking => 3
| .execing => 2
| .running => 1
| .attested => 0
| .reconverging => 0
| .exiting => 0
| .failed => 0
| .zombie => 0
| .reaped => 0

namespace ScanJobController

open Fallible World Kube

/- The cluster has what the phase of the scan job waits for. -/
def unblocked (cluster : Cluster) (sj : ScanJob) : Bool :=
  sj.phase.getD .pending ≠ .running ||
    (jobIn cluster sj).any isDone

variable [Chrono] [SerdeJson] [Blake3]
variable {ctx : ReconcileCtx} {sj : ScanJob}
variable {stored : List (Stored ScanJobSpec)}

variable (ctx sj) in
omit [Chrono] [SerdeJson] [Blake3] in
/- Creating the `Job` goes through in a quiet world. -/
theorem achieves_createScannerJob :
    Achieves
      (Quietly (fun cluster => cluster.scanJobs = stored))
      (createScannerJob ctx sj)
      (fun _ =>
        Quietly (fun cluster =>
          cluster.scanJobs = stored)) := by
  refine achieves_bind (achieves_lookup _ _)
    (fun existing => ?_)
  cases existing with
  | some job =>
      exact achieves_pure (fun w hQuiet =>
        hQuiet.imp (fun _ h => h.1))
  | none =>
      exact Api.achieves_createJob
        (fun cluster hP => hP.2)
        (fun cluster hP _ => hP.1)

omit [Chrono] [SerdeJson] [Blake3] in
/- Whether the snapshot can be kept does not matter. -/
theorem achieves_keepSnapshot (cm : ConfigMap) :
    Achieves
      (Quietly (fun cluster => cluster.scanJobs = stored))
      (keepSnapshot sj cm)
      (fun _ =>
        Quietly (fun cluster =>
          cluster.scanJobs = stored)) := by
  refine achieves_bind (achieves_lookup _ _)
    (fun existing => ?_)
  cases existing with
  | some cm' =>
      exact achieves_pure (fun w hQuiet =>
        hQuiet.imp (fun _ h => h.1))
  | none =>
      refine achieves_unwrapOr (fun w hQuiet => ?_) ()
      simp only [Api.createConfigMap, call, exec_ofExec,
        hQuiet.fault]
      refine ⟨by simp [called, hQuiet.1], ?_⟩
      split
      · exact hQuiet.2.1
      · exact hQuiet.2.1

/- Reading a pod goes through in a quiet world. -/
theorem achieves_readPod (pod : Pod) :
    Achieves
      (Quietly (fun cluster => cluster.scanJobs = stored))
      (readPod ctx sj pod)
      (fun _ =>
        Quietly (fun cluster =>
          cluster.scanJobs = stored)) := by
  have hLogs : ∀ w : World,
      w.Quietly (fun cluster => cluster.scanJobs = stored) →
        ((Api.podLogs sj.metadata.namespaceOrDefault
          pod).exec w).2.Quietly
            (fun cluster => cluster.scanJobs = stored) := by
    intro w hQuiet
    rw [Api.podLogs, exec_read]
    exact ⟨by simp [called, hQuiet.1], hQuiet.2⟩
  refine achieves_bind (achieves_unwrapOr hLogs "")
    (fun logs => ?_)
  refine achieves_bind (achieves_keepSnapshot _)
    (fun _ => ?_)
  exact achieves_pure (fun w hQuiet => hQuiet)

variable (ctx) in
/- The results of a job that is done are collected. -/
theorem achieves_collectResults :
    Achieves
      (Quietly (fun cluster =>
        cluster.scanJobs = stored ∧
          (jobIn cluster sj).any isDone = true))
      (collectResults ctx sj)
      (fun results w => results.isSome = true ∧
        w.Quietly (fun cluster =>
          cluster.scanJobs = stored)) := by
  refine achieves_bind (achieves_lookup _ _)
    (fun found w hQuiet => ?_)
  have hFound : jobIn w.cluster sj = found := hQuiet.2.2
  have hDone := hQuiet.2.1.2
  rw [hFound] at hDone
  cases found with
  | none => simp at hDone
  | some job =>
      rw [Option.any_some] at hDone
      simp only [hDone, Bool.not_true, Bool.false_eq_true,
        if_false]
      refine achieves_bind
        (achieves_lookup (P := fun cluster =>
          cluster.scanJobs = stored) _ _)
        (fun pods => ?_) w (hQuiet.imp (fun _ h => h.1.1))
      cases pods with
      | nil =>
          exact achieves_pure (fun w hAfter =>
            ⟨rfl, hAfter.imp (fun _ h => h.1)⟩)
      | cons pod pods =>
          refine achieves_bind
            (fun w hAfter => achieves_readPod pod w
              (hAfter.imp (fun _ h => h.1)))
            (fun result => ?_)
          exact achieves_pure (fun w hAfter => ⟨rfl, hAfter⟩)

omit [Blake3] in
/- An answered patch, and what follows and stores nothing. -/
theorem patchNamed_exec_patchPhase
    {phase : ScanJobPhase}
    {findings : Option (List ScanFinding)}
    {attestation : Option AttestationRef}
    {rest : Unit → Kube Nat}
    (hRest : ∀ u, Keeps scanJobs (rest u))
    (hFound : ∀ patch, ∃ patched,
      Stored.patchNamed sj.metadata.namespaceOrDefault
        sj.metadata.nameAny patch stored = some patched)
    {w : World}
    (hQuiet :
      w.Quietly (fun cluster =>
        cluster.scanJobs = stored)) :
    Stored.patchNamed sj.metadata.namespaceOrDefault
        sj.metadata.nameAny
        (.obj [("status", Json.record
          (phaseFields phase findings attestation))])
        stored =
      some (scanJobs ((patchPhase
        sj.metadata.namespaceOrDefault sj.metadata.nameAny
        phase findings attestation >>= rest).exec w).2) := by
  rcases hFound (.obj [("status", Json.record
    (phaseFields phase findings attestation))]) with
    ⟨patched, hPatched⟩
  rcases Api.achieves_patchScanJobStatus
    (Q := fun cluster => cluster.scanJobs = patched)
    (fun cluster hSame =>
      ⟨patched, (congrArg _ hSame).trans hPatched, rfl⟩)
    w hQuiet with
    ⟨u, w₁, hPatch, hAfter⟩
  rw [patchPhase, exec_bind_ok hPatch, hRest u w₁, hPatched]
  exact congrArg some hAfter.2.symm

variable (ctx) in
/-
  The step of a scan job that is not held up patches its
  phase, and what goes with it, into the scan jobs.
-/
theorem exec_reconcile_of_unblocked
    {w : World}
    (hQuiet : w.faults = [])
    (hOpen : 0 < (sj.phase.getD .pending).rank)
    (hUnblocked : unblocked w.cluster sj = true)
    (hFound : ∀ patch, ∃ patched,
      Stored.patchNamed sj.metadata.namespaceOrDefault
          sj.metadata.nameAny patch (scanJobs w) =
        some patched) :
    ∃ phase findings attestation,
      phase.rank = (sj.phase.getD .pending).rank - 1 ∧
        Stored.patchNamed sj.metadata.namespaceOrDefault
            sj.metadata.nameAny
            (.obj [("status", Json.record
              (phaseFields phase findings attestation))])
            (scanJobs w) =
          some (scanJobs ((reconcile ctx sj).exec w).2) := by
  have hHere :
      w.Quietly (fun cluster =>
        cluster.scanJobs = scanJobs w) := ⟨hQuiet, rfl⟩
  have hPure :
      ∀ u : Unit, Keeps scanJobs (pure 15 : Kube Nat) :=
    fun _ => keeps_pure _ _
  unfold reconcile
  cases hPhase : sj.phase.getD .pending with
  | pending =>
      rcases achieves_createScannerJob ctx sj w hHere with ⟨u, w₁, hCreate, hBefore⟩
      refine ⟨.forking, none, none, rfl, ?_⟩
      simp only [exec_bind_ok hCreate]
      exact patchNamed_exec_patchPhase hPure hFound hBefore
  | forking =>
      exact ⟨.execing, none, none, rfl,
        patchNamed_exec_patchPhase hPure hFound hHere⟩
  | execing =>
      exact ⟨.running, none, none, rfl,
        patchNamed_exec_patchPhase hPure hFound hHere⟩
  | running =>
      simp only [unblocked, hPhase, ne_eq,
        not_true_eq_false, decide_false, Bool.false_or]
        at hUnblocked
      rcases achieves_collectResults ctx w
        ⟨hQuiet, rfl, hUnblocked⟩ with
        ⟨r, w₁, hCollect, hSome, hBefore⟩
      rcases Option.isSome_iff_exists.mp hSome with
        ⟨⟨findings, hash⟩, rfl⟩
      refine ⟨.attested, some findings,
        some (attestationOf ctx hash), rfl, ?_⟩
      simp only [exec_bind_ok hCollect]
      refine patchNamed_exec_patchPhase (fun _ => ?_) hFound
        hBefore
      exact keeps_bind
        (keeps_scanJobs_emitFindingsRecorded ctx sj findings)
        (fun _ => keeps_pure _ _)
  | attested => simp [hPhase, ScanJobPhase.rank] at hOpen
  | reconverging => simp [hPhase, ScanJobPhase.rank] at hOpen
  | exiting => simp [hPhase, ScanJobPhase.rank] at hOpen
  | failed => simp [hPhase, ScanJobPhase.rank] at hOpen
  | zombie => simp [hPhase, ScanJobPhase.rank] at hOpen
  | reaped => simp [hPhase, ScanJobPhase.rank] at hOpen

end ScanJobController

end EngenhoPromessa

------------------------------------------------------------
-- One Phase Further
------------------------------------------------------------

namespace EngenhoPromessa

namespace ScanRun

open ScanJobController

/- The phases a scan job goes through. -/
def OnItsWay (s : ScanJobPhase) : Prop :=
  s = .attested ∨ 0 < s.rank

theorem rank_of_nextPhase
    {before after : ScanJobPhase}
    (hNext : NextPhase before after) :
    OnItsWay after ∧ after.rank < before.rank := by
  cases hNext <;> simp [OnItsWay, ScanJobPhase.rank]

variable [Chrono] [SerdeJson] [Blake3]

/- The calls are answered, and a running scan's job is done. -/
def Favourable (s : ScanRun) (e : Event) : Prop :=
  e.faults = [] ∧
    (Api.readScanJob s.object).all
      (unblocked (s.world e).cluster) = true

instance (s : ScanRun) (e : Event) :
    Decidable (s.Favourable e) :=
  inferInstanceAs (Decidable (_ ∧ _))

/- The status that is stored is read, and belongs together. -/
def ProgressInvariant (s : ScanRun) : Prop :=
  ScanInvariant s ∧ OnItsWay s.phase

theorem progressInvariant_created
    (metadata : ObjectMeta)
    (spec : ScanJobSpec) :
    ProgressInvariant (created metadata spec) :=
  ⟨scanInvariant_created metadata spec,
    .inr (Nat.succ_pos 3)⟩

/- No step leads back. -/
theorem progressInvariant_step
    (hEmpty : PrintsEmptyList)
    {s : ScanRun}
    (hInv : ProgressInvariant s)
    (e : Event) :
    ProgressInvariant (s.step e) ∧
      (s.step e).phase.rank ≤ s.phase.rank := by
  rcases scanInvariant_step hEmpty hInv.1 e with
    ⟨hKept, hSame | hNext⟩
  · rw [hSame]
    exact ⟨hInv, le_rfl⟩
  · rcases rank_of_nextPhase hNext with ⟨hWay, hLess⟩
    exact ⟨⟨hKept, hWay⟩, hLess.le⟩

/- A favourable step leads one phase further. -/
theorem rank_step_of_favourable
    (hEmpty : PrintsEmptyList)
    {s : ScanRun}
    (hInv : ProgressInvariant s)
    {e : Event}
    (hFavourable : s.Favourable e) :
    (s.step e).phase.rank ≤ s.phase.rank - 1 := by
  rcases Option.isSome_iff_exists.mp hInv.1.readable with
    ⟨old, hOld⟩
  have hRead :
      Api.readScanJob s.object = some
        { metadata := s.metadata
          spec := s.spec
          status := old } :=
    Option.map_eq_some_iff.mpr ⟨old, hOld, rfl⟩
  have hPhase := (phase_of_readScanJob hRead).1
  have hStatus : old.getD .default = s.status := by
    rw [status, hOld, Option.join_some]
  rcases Nat.eq_zero_or_pos s.phase.rank with hDone | hOpen
  · have hKept := (progressInvariant_step hEmpty hInv e).2
    rwa [hDone] at hKept ⊢
  · have hUnblocked := hFavourable.2
    rw [hRead, Option.all_some] at hUnblocked
    rcases exec_reconcile_of_unblocked e.ctx
      (w := s.world e) hFavourable.1 (hPhase ▸ hOpen)
      hUnblocked (fun patch => by
        simp [scanJobs, world, object, Stored.patchNamed,
          Stored.isNamed]) with
      ⟨phase, findings, attestation, hRank, hPatch⟩
    have hStored :
        (s.step e).stored =
          Json.mergeMember s.stored
            (some (Json.record
              (phaseFields phase findings
                attestation))) := by
      simp only [step, hRead, write]
      simp only [scanJobs, world, object, Stored.patchNamed,
        Stored.isNamed, decide_true, Bool.and_self, if_true,
        Option.some.injEq] at hPatch
      rw [scanJobs, world, object, ← hPatch]
      rfl
    have hAfter : (s.step e).phase = phase := by
      rw [ScanRun.phase, status, hStored,
        ofStored_merge_phaseFields phase findings
          attestation hOld]
      rfl
    rw [hAfter, hRank, hPhase]

/-
  Wherever a run has come to, as many favourable turns as
  there are phases to go end in an attestation of the stored
  findings, whatever happens between them, and nothing
  changes it.
-/
theorem attested_of_favourable
    (hEmpty : PrintsEmptyList)
    (metadata : ObjectMeta)
    (spec : ScanJobSpec)
    (earlier later : List Event)
    (hEnough :
      let s := Run.run step (created metadata spec) earlier
      Run.AtLeast step Favourable s.phase.rank s later) :
    let s := Run.run step (created metadata spec)
      (earlier ++ later)
    s.phase = .attested ∧
      (∃ a, s.status.attestationRef = some a ∧
        a.hash = hashOf s.status.findings) ∧
      s.status.findingsCount = s.status.findings.length ∧
      ∀ more, Run.run step s more = s := by
  intro s
  have hAlways :
      ∀ events,
        ProgressInvariant
          (Run.run step (created metadata spec) events) :=
    fun events =>
      Run.invariant_run ProgressInvariant
        (fun _ e hInv _ =>
          (progressInvariant_step hEmpty hInv e).1)
        (progressInvariant_created metadata spec)
        (Run.allowed_true step _ events)
  have hRank :
      s.phase.rank = 0 := by
    have hLess :=
      Run.rank_run_le ProgressInvariant
        (fun s => s.phase.rank)
        (fun _ e hInv _ => progressInvariant_step hEmpty hInv e)
        (fun _ _ hInv _ hGood =>
          rank_step_of_favourable hEmpty hInv hGood)
        (hAlways earlier) (Run.allowed_true step _ later)
        hEnough
    rw [Nat.sub_self, ← Run.run_append] at hLess
    exact Nat.le_zero.mp hLess
  have hInv : ProgressInvariant s := hAlways _
  have hAttested : s.phase = .attested :=
    hInv.2.resolve_right (by omega)
  have hPhase : s.status.phase = some .attested := by
    unfold ScanRun.phase at hAttested
    cases hStatus : s.status.phase with
    | none => simp [hStatus] at hAttested
    | some phase => simpa [hStatus] using hAttested
  rcases Option.isSome_iff_exists.mp
    (hInv.1.status.attested_iff.mpr hPhase) with
    ⟨a, hRef⟩
  exact ⟨hAttested, ⟨a, hRef, hInv.1.status.hash a hRef⟩,
    hInv.1.status.count,
    fun more =>
      run_of_attested hEmpty hInv.1 hAttested more⟩

end ScanRun

namespace ScanRun

/- Four turns that are not held up. -/
theorem attested_of_favourable_reference :
    let s := Run.run step
      (created Reference.runningScan.metadata
        Reference.runningScan.spec)
      ([] ++ Reference.podlessRun)
    s.phase = .attested ∧
      (∃ a, s.status.attestationRef = some a ∧
        a.hash =
          ScanJobController.hashOf s.status.findings) ∧
      s.status.findingsCount = s.status.findings.length ∧
      ∀ more, Run.run step s more = s :=
  attested_of_favourable rfl Reference.runningScan.metadata
    Reference.runningScan.spec [] Reference.podlessRun
    (.good (by decide +kernel)
      (.good (by decide +kernel)
        (.good (by decide +kernel)
          (.good (by decide +kernel)
            (.enough _ _)))))

end ScanRun

end EngenhoPromessa
