import EngenhoPromessa.Controllers.ChildRuns

/-
  Runs of the scan job controller on one scan job.

  Every step acts on the scan job as it is stored; its Job,
  the pods and their logs, and what becomes of the calls, are
  given anew with every step. The status is put together from
  partial patches, and its fields belong together after each.

  Key definitions include:
    * `ScanRun`
    * `ScanJobController.Patches`
    * `ScanRun.ScanInvariant`

  Key theorems include:
    * `ScanJobController.scanJobs_exec_reconcile`
    * `ScanRun.statusInvariant_run`
-/

------------------------------------------------------------
-- What A Step Patches
------------------------------------------------------------

namespace EngenhoPromessa

namespace ScanJobController

open Fallible

variable [Chrono] [SerdeJson] [Blake3]

/- The patches a step may send for its copy. -/
inductive Patches
    (ctx : ReconcileCtx)
    (sj : ScanJob) :
    ScanJobPhase → Option (List ScanFinding) →
      Option AttestationRef → Prop where
  | fork
      (hPhase : sj.phase.getD .pending = .pending) :
      Patches ctx sj .forking none none
  | exec
      (hPhase : sj.phase.getD .pending = .forking) :
      Patches ctx sj .execing none none
  | run
      (hPhase : sj.phase.getD .pending = .execing) :
      Patches ctx sj .running none none
  | attest
      (hPhase : sj.phase.getD .pending = .running)
      (findings : List ScanFinding) :
      Patches ctx sj .attested (some findings)
        (some (attestationOf ctx (hashOf findings)))

/- The scan jobs after a status patch of a scan job. -/
def patchedJobs
    (sj : ScanJob)
    (phase : ScanJobPhase)
    (findings : Option (List ScanFinding))
    (attestation : Option AttestationRef)
    (jobs : List (Stored ScanJobSpec)) :
    List (Stored ScanJobSpec) :=
  (Stored.patchNamed sj.metadata.namespaceOrDefault
    sj.metadata.nameAny
    (.obj [("status", Json.record
      (phaseFields phase findings attestation))])
    jobs).getD jobs

/- A step left the scan jobs alone, or it patched its own. -/
def PatchesOwn
    (ctx : ReconcileCtx)
    (sj : ScanJob)
    (w w' : World) : Prop :=
  scanJobs w' = scanJobs w ∨
    ∃ phase findings attestation,
      Patches ctx sj phase findings attestation ∧
        scanJobs w' =
          patchedJobs sj phase findings attestation
            (scanJobs w)

/- A patch and what follows it, which stores nothing. -/
theorem patchesOwn_patchPhase
    {ctx : ReconcileCtx}
    {sj : ScanJob}
    {phase : ScanJobPhase}
    {findings : Option (List ScanFinding)}
    {attestation : Option AttestationRef}
    (hPatches : Patches ctx sj phase findings attestation)
    {rest : Unit → Kube Nat}
    (hRest : ∀ u, Keeps scanJobs (rest u))
    {w w₁ : World}
    (hBefore : scanJobs w₁ = scanJobs w) :
    PatchesOwn ctx sj w
      ((patchPhase sj.metadata.namespaceOrDefault
        sj.metadata.nameAny phase findings attestation >>=
          rest).exec w₁).2 := by
  unfold PatchesOwn
  rw [view_exec_bind _ hRest]
  have hPatch :=
    Api.scanJobs_exec_patchScanJobStatus
      sj.metadata.namespaceOrDefault sj.metadata.nameAny
      (.obj [("status", Json.record
        (phaseFields phase findings attestation))]) w₁
  rw [← scanJobs, ← scanJobs, hBefore] at hPatch
  rw [patchPhase, hPatch]
  split
  · exact .inl rfl
  · exact .inr ⟨phase, findings, attestation, hPatches, rfl⟩

/- The same, behind a part that stores nothing either. -/
theorem patchesOwn_bind
    {ctx : ReconcileCtx}
    {sj : ScanJob}
    {α : Type}
    {first : Kube α}
    (hFirst : Keeps scanJobs first)
    {rest : α → Kube Nat}
    (hRest : ∀ a w w₁, scanJobs w₁ = scanJobs w →
      first.exec w = (.ok a, w₁) →
        PatchesOwn ctx sj w ((rest a).exec w₁).2)
    (w : World) :
    PatchesOwn ctx sj w ((first >>= rest).exec w).2 := by
  have hKeep := hFirst w
  rw [exec_bind]
  rcases hExec : first.exec w with ⟨e | a, w₁⟩
  · rw [hExec] at hKeep
    exact .inl hKeep
  · rw [hExec] at hKeep
    exact hRest a w w₁ hKeep hExec

/- `to_vec` prints an empty list as `[]`. -/
def PrintsEmptyList : Prop :=
  SerdeJson.toVec (.arr []) = "[]".toUTF8.data.toList

/- What is collected comes with its own hash. -/
theorem snd_collected
    (hEmpty : PrintsEmptyList)
    (ctx : ReconcileCtx)
    (sj : ScanJob)
    (w : World) :
    (collected ctx sj w).1.2 =
      hashOf (collected ctx sj w).1.1 := by
  unfold collected
  split
  · -- without a pod the hash is spelled out in the code
    have hHash :
        hashOf [] =
          Blake3.hashHex "[]".toUTF8.data.toList :=
      congrArg Blake3.hashHex hEmpty
    exact hHash.symm
  · rfl

/- A turn patches its own scan job or leaves them all alone. -/
theorem scanJobs_exec_reconcile
    (hEmpty : PrintsEmptyList)
    (ctx : ReconcileCtx)
    (sj : ScanJob)
    (w : World) :
    PatchesOwn ctx sj w ((reconcile ctx sj).exec w).2 := by
  have hPure :
      ∀ (n : Nat) (_ : Unit),
        Keeps scanJobs (pure n : Kube Nat) :=
    fun n _ => keeps_pure _ n
  unfold reconcile
  cases hPhase : sj.phase.getD .pending with
  | pending =>
      refine patchesOwn_bind
        (keeps_scanJobs_createScannerJob ctx sj) ?_ w
      intro _ w w₁ hBefore _
      exact patchesOwn_patchPhase (.fork hPhase) (hPure 15)
        hBefore
  | forking =>
      exact patchesOwn_patchPhase (.exec hPhase) (hPure 15)
        rfl
  | execing =>
      exact patchesOwn_patchPhase (.run hPhase) (hPure 15)
        rfl
  | running =>
      refine patchesOwn_bind
        (keeps_scanJobs_collectResults ctx sj) ?_ w
      rintro (_ | ⟨findings, hash⟩) w w₁ hBefore hExec
      · exact .inl hBefore
      · have hCollected :=
          (exec_collectResults_eq_ok_some_iff.mp hExec).2
        have hHash : hash = hashOf findings := by
          have hSnd := snd_collected hEmpty ctx sj w
          rwa [← hCollected] at hSnd
        subst hHash
        refine patchesOwn_patchPhase
          (.attest hPhase findings) ?_ hBefore
        exact fun _ => keeps_bind
          (keeps_scanJobs_emitFindingsRecorded ctx sj
            findings)
          (fun _ => keeps_pure _ _)
  | attested => exact .inl rfl
  | reconverging => exact .inl rfl
  | exiting => exact .inl rfl
  | failed => exact .inl rfl
  | zombie => exact .inl rfl
  | reaped => exact .inl rfl

end ScanJobController

end EngenhoPromessa

------------------------------------------------------------
-- Runs
------------------------------------------------------------

namespace EngenhoPromessa

open ScanJobController

/- A scan job with the status that is stored of it. -/
structure ScanRun where
  metadata : ObjectMeta
  spec : ScanJobSpec
  stored : Option Json

namespace ScanRun

/- A scan job as it is created, without a status. -/
def created
    (metadata : ObjectMeta)
    (spec : ScanJobSpec) : ScanRun where
  metadata := metadata
  spec := spec
  stored := none

/- The scan job as it is stored. -/
def object (s : ScanRun) : Stored ScanJobSpec where
  metadata := s.metadata
  spec := s.spec
  status := s.stored

/- A reconcile step, with the world it finds. -/
structure Event where
  ctx : ReconcileCtx
  surroundings : Cluster
  faults : List ApiFault

/-
  The world of a turn: the scan job first among what
  surrounds it.
-/
def world (s : ScanRun) (e : Event) : World where
  cluster :=
    { e.surroundings with
      scanJobs := s.object :: e.surroundings.scanJobs }
  faults := e.faults
  calls := []
  published := []

/- Take the stored status from what a step left behind. -/
def write (s : ScanRun) (w : World) : ScanRun :=
  match scanJobs w with
  | [] => s
  | o :: _ => { s with stored := o.status }

variable [Chrono] [SerdeJson] [Blake3]

/- A turn on the scan job as it is stored. -/
def step (s : ScanRun) (e : Event) : ScanRun :=
  match Api.readScanJob s.object with
  | none => s
  | some sj =>
      s.write ((reconcile e.ctx sj).exec (s.world e)).2

/- The status stored now, or the default if there is none. -/
def status (s : ScanRun) : ScanJobStatus :=
  (ScanJobStatus.ofStored s.stored).join.getD .default

/- The phase of a scan job; none counts as pending. -/
def phase (s : ScanRun) : ScanJobPhase :=
  s.status.phase.getD .pending

omit [Blake3] in
/-
  The scan job that is read has the run's phase and
  metadata.
-/
theorem phase_of_readScanJob
    {s : ScanRun}
    {sj : ScanJob}
    (hRead : Api.readScanJob s.object = some sj) :
    sj.phase.getD .pending = s.phase ∧
      sj.metadata = s.metadata := by
  rcases Option.map_eq_some_iff.mp hRead with
    ⟨old, hOld, rfl⟩
  have hOld : ScanJobStatus.ofStored s.stored = some old :=
    hOld
  refine ⟨?_, rfl⟩
  unfold phase status
  rw [hOld]
  cases old with
  | none => rfl
  | some st => rfl

/-
  What a step may do to the status: nothing, or one patch of
  its phase and what goes with it.
-/
def Writes (s : ScanRun) (st : ScanJobStatus) : Prop :=
  ∃ ctx sj phase findings attestation,
    sj.phase.getD .pending = s.phase ∧
      Patches ctx sj phase findings attestation ∧
      st = patchedStatus s.status phase findings attestation

/- A turn writes a status that reads back, or nothing. -/
theorem stored_step
    (hEmpty : PrintsEmptyList)
    (s : ScanRun)
    (e : Event) :
    s.step e = s ∨
      ∃ st, s.Writes st ∧
        ScanJobStatus.ofStored (s.step e).stored =
          some (some st) := by
  unfold step
  cases hRead : Api.readScanJob s.object with
  | none => exact .inl rfl
  | some sj =>
      rcases phase_of_readScanJob hRead with
        ⟨hPhase, hMetadata⟩
      rcases Option.map_eq_some_iff.mp hRead with
        ⟨old, hOld, hObject⟩
      have hOld :
          ScanJobStatus.ofStored s.stored = some old := hOld
      have hStatus : old.getD .default = s.status := by
        unfold status
        rw [hOld, Option.join_some]
      have hOwn :
          s.object.isNamed sj.metadata.namespaceOrDefault
            sj.metadata.nameAny = true := by
        simp [hMetadata, Stored.isNamed, object]
      rcases scanJobs_exec_reconcile hEmpty e.ctx sj
        (s.world e) with hSame | ⟨phase, findings,
          attestation, hPatches, hPatched⟩
      · refine .inl ?_
        simp only [write, hSame]
        rfl
      · refine .inr ⟨_, ⟨e.ctx, sj, phase, findings,
          attestation, hPhase, hPatches, rfl⟩, ?_⟩
        have hStored :
            (s.write ((reconcile e.ctx sj).exec
                (s.world e)).2).stored =
              Json.mergeMember s.stored
                (some (Json.record
                  (phaseFields phase findings
                    attestation))) := by
          unfold write
          rw [hPatched]
          simp only [patchedJobs, scanJobs, world,
            Stored.patchNamed, hOwn, if_true,
            Option.getD_some]
          rfl
        rw [hStored, ← hStatus]
        exact ofStored_merge_phaseFields phase findings
          attestation hOld

end ScanRun

end EngenhoPromessa

------------------------------------------------------------
-- The Status Invariant
------------------------------------------------------------

namespace EngenhoPromessa

open ScanJobController

namespace ScanRun

/- The one way the phase of a scan job moves. -/
inductive NextPhase : ScanJobPhase → ScanJobPhase → Prop where
  | fork : NextPhase .pending .forking
  | exec : NextPhase .forking .execing
  | run : NextPhase .execing .running
  | attest : NextPhase .running .attested

variable [Chrono] [SerdeJson] [Blake3]

/- The fields of a status belong together. -/
structure StatusInvariant (st : ScanJobStatus) : Prop where
  attested_iff :
    st.attestationRef.isSome = true ↔
      st.phase = some .attested
  empty_before :
    st.phase ≠ some .attested →
      st.findings = [] ∧ st.findingsCount = 0
  count : st.findingsCount = st.findings.length
  hash : ∀ a, st.attestationRef = some a →
    a.hash = hashOf st.findings

theorem statusInvariant_default :
    StatusInvariant ScanJobStatus.default where
  attested_iff := by simp [ScanJobStatus.default]
  empty_before _ := ⟨rfl, rfl⟩
  count := rfl
  hash a hRef := by simp [ScanJobStatus.default] at hRef

/- A status in a phase before the last has no results. -/
theorem attestationRef_eq_none
    {st : ScanJobStatus}
    (hInv : StatusInvariant st)
    (hPhase : st.phase ≠ some .attested) :
    st.attestationRef = none := by
  cases hRef : st.attestationRef with
  | none => rfl
  | some a =>
      exact absurd (hInv.attested_iff.mp (by simp [hRef]))
        hPhase

/- Patching the phase alone leaves a status without results. -/
theorem statusInvariant_of_phase
    {st : ScanJobStatus}
    (hInv : StatusInvariant st)
    (hBefore : st.phase ≠ some .attested)
    {phase : ScanJobPhase}
    (hAfter : phase ≠ .attested) :
    StatusInvariant (patchedStatus st phase none none) := by
  have hRef := attestationRef_eq_none hInv hBefore
  rcases hInv.empty_before hBefore with ⟨hFindings, hCount⟩
  constructor
  · simp [patchedStatus, hRef, hAfter]
  · intro _
    exact ⟨hFindings, hCount⟩
  · exact hInv.count
  · intro a hSome
    exact hInv.hash a hSome

/- What a write keeps, and how it moves the phase. -/
theorem statusInvariant_of_writes
    {s : ScanRun}
    (hInv : StatusInvariant s.status)
    {st : ScanJobStatus}
    (hWrites : s.Writes st) :
    StatusInvariant st ∧
      NextPhase s.phase (st.phase.getD .pending) := by
  rcases hWrites with
    ⟨ctx, sj, phase, findings, attestation, hPhase,
      hPatches, rfl⟩
  have hBefore :
      s.phase ≠ .attested →
        s.status.phase ≠ some .attested := by
    intro hNot hEq
    exact hNot (by simp [ScanRun.phase, hEq])
  cases hPatches with
  | fork hCopy =>
      have hNow : s.phase = .pending := hPhase.symm.trans hCopy
      exact ⟨statusInvariant_of_phase hInv
        (hBefore (by simp [hNow])) (by simp),
        hNow ▸ .fork⟩
  | exec hCopy =>
      have hNow : s.phase = .forking := hPhase.symm.trans hCopy
      exact ⟨statusInvariant_of_phase hInv
        (hBefore (by simp [hNow])) (by simp),
        hNow ▸ .exec⟩
  | run hCopy =>
      have hNow : s.phase = .execing := hPhase.symm.trans hCopy
      exact ⟨statusInvariant_of_phase hInv
        (hBefore (by simp [hNow])) (by simp),
        hNow ▸ .run⟩
  | attest hCopy findings =>
      have hNow : s.phase = .running := hPhase.symm.trans hCopy
      refine ⟨?_, hNow ▸ .attest⟩
      constructor
      · simp [patchedStatus]
      · intro hNot
        exact absurd rfl hNot
      · rfl
      · intro a hSome
        have hRef := Option.some.inj hSome
        rw [← hRef]
        rfl

/- The stored status can be read and its fields fit. -/
structure ScanInvariant (s : ScanRun) : Prop where
  readable : (ScanJobStatus.ofStored s.stored).isSome = true
  status : StatusInvariant s.status

theorem scanInvariant_created
    (metadata : ObjectMeta)
    (spec : ScanJobSpec) :
    ScanInvariant (created metadata spec) where
  readable := rfl
  status := statusInvariant_default

/-
  A turn keeps the invariant; it changes nothing or moves to
  a next phase.
-/
theorem scanInvariant_step
    (hEmpty : PrintsEmptyList)
    {s : ScanRun}
    (hInv : ScanInvariant s)
    (e : Event) :
    ScanInvariant (s.step e) ∧
      (s.step e = s ∨ NextPhase s.phase (s.step e).phase) := by
  rcases stored_step hEmpty s e with
    hSame | ⟨st, hWrites, hStored⟩
  · rw [hSame]
    exact ⟨hInv, .inl rfl⟩
  · have hStatus : (s.step e).status = st := by
      unfold ScanRun.status
      rw [hStored]
      rfl
    rcases statusInvariant_of_writes hInv.status hWrites with
      ⟨hKept, hMoves⟩
    refine ⟨⟨by rw [hStored]; rfl, hStatus ▸ hKept⟩,
      .inr ?_⟩
    unfold ScanRun.phase
    rw [hStatus]
    exact hMoves

/- A run keeps the invariant. -/
theorem scanInvariant_run
    (hEmpty : PrintsEmptyList)
    {s : ScanRun}
    (hInv : ScanInvariant s)
    (events : List Event) :
    ScanInvariant (Run.run step s events) :=
  Run.invariant_run ScanInvariant
    (fun _ e hInv _ =>
      (scanInvariant_step hEmpty hInv e).1)
    hInv (Run.allowed_true step s events)

/- An attested scan job is never written again. -/
theorem run_of_attested
    (hEmpty : PrintsEmptyList)
    {s : ScanRun}
    (hInv : ScanInvariant s)
    (hAttested : s.phase = .attested)
    (events : List Event) :
    Run.run step s events = s := by
  induction events with
  | nil => rfl
  | cons e events ih =>
      have hStep : s.step e = s := by
        rcases (scanInvariant_step hEmpty hInv e).2 with
          hSame | hMoves
        · exact hSame
        · rw [hAttested] at hMoves
          cases hMoves
      rw [Run.run_cons, hStep, ih]

/-
  In every run the fields of the stored status belong
  together, a write moves the phase one step along, and an
  attested status stays as it is.
-/
theorem statusInvariant_run
    (hEmpty : PrintsEmptyList)
    (metadata : ObjectMeta)
    (spec : ScanJobSpec)
    (events : List Event) :
    let s := Run.run step (created metadata spec) events
    ScanInvariant s ∧
      (∀ e, s.step e = s ∨
        NextPhase s.phase (s.step e).phase) ∧
      (s.phase = .attested →
        ∀ more, Run.run step s more = s) := by
  intro s
  have hInv : ScanInvariant s :=
    scanInvariant_run hEmpty
      (scanInvariant_created metadata spec) events
  exact ⟨hInv,
    fun e => (scanInvariant_step hEmpty hInv e).2,
    fun hAttested more =>
      run_of_attested hEmpty hInv hAttested more⟩

end ScanRun

namespace Reference

/- A scan whose job is done and whose pod is gone. -/
def podlessRun : List ScanRun.Event :=
  let quiet : ScanRun.Event :=
    { ctx := ctx, surroundings := emptyCluster, faults := [] }
  [quiet, quiet, quiet,
    { quiet with
      surroundings :=
        { emptyCluster with jobs := [jobAfter 1 0] } }]

end Reference

namespace ScanRun

/- A scan whose `Job` is over before its pods are seen. -/
theorem statusInvariant_run_podless :
    let s := Run.run step
      (created Reference.runningScan.metadata
        Reference.runningScan.spec) Reference.podlessRun
    s.phase = .attested ∧
      ∀ more, Run.run step s more = s := by
  have hAttested :
      (Run.run step
        (created Reference.runningScan.metadata
          Reference.runningScan.spec)
        Reference.podlessRun).phase = .attested := by
    decide +kernel
  exact ⟨hAttested,
    (statusInvariant_run rfl _ _ _).2.2 hAttested⟩

end ScanRun

end EngenhoPromessa
