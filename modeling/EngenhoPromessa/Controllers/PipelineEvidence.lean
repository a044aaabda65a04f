import EngenhoPromessa.Controllers.PipelineRounds
import EngenhoPromessa.Controllers.ReceiptBinding

/-
  What a validation leaves behind when its scans are done.

  On a platform that does not disturb it, its scan jobs are
  from then on as they are. Its status summarizes them, its
  evidence hash is the hash of their findings, its decision
  is the one that the gate takes about them, and its receipt
  is the hash of both, at whatever time they are looked at.

  Key definitions include:
    * `Pipeline.IsScanned`
    * `Pipeline.Settled`
    * `Pipeline.Frozen`
    * `Pipeline.IsAttested`

  Key theorems include:
    * `Pipeline.freezes_step`
    * `Pipeline.frozen_run`
    * `Pipeline.settled_of_isNew`
-/

------------------------------------------------------------
-- Settled Evidence
------------------------------------------------------------

namespace EngenhoPromessa

namespace Pipeline

open ImageValidation

variable [Chrono] [SerdeJson]

/- The scan jobs of the validation, as they are read. -/
def children
    («namespace» name : String)
    (cluster : Cluster) : List ScanJob :=
  (scans «namespace» name cluster.scanJobs).filterMap
    Api.readScanJob

/- The validation has left the phase it scans in. -/
def IsScanned
    («namespace» name : String)
    (cluster : Cluster) : Prop :=
  (phaseOf «namespace» name cluster).rank ≤ 3

variable [Blake3] [PromessaSerde]

/- A receipt is that of the validation it is stored with. -/
def Receipted (obj : AkeylessImageValidation) : Prop :=
  ∀ receipt,
    obj.statusOrDefault.outcomeReceiptRef = some receipt →
      receipt.blake3Hash =
        Blake3.hashHex (OutcomeChain.canonicalBytes obj)

/-
  The status says of the scan jobs what they say, and was
  decided in a context that was taken.
-/
structure Settled
    (Taken : ReconcileCtx → Prop)
    (children : List ScanJob)
    (obj : AkeylessImageValidation) : Prop where
  scans_there : children ≠ []
  summarized :
    obj.statusOrDefault.scanJobs = children.map summaryOf
  hashed :
    obj.currentPhase ≠ .aggregating →
      obj.statusOrDefault.evidenceBundleHash =
        some (Blake3.hashHex
          (canonicalFindingsBytes children))
  judged :
    obj.currentPhase.isTerminal = true →
      ∃ ctx : ReconcileCtx, Taken ctx ∧
        obj.gateDecision? =
          some ((gateDecisionOf ctx
            (securitySpecFor ctx.env obj.spec.promessaRef)
            obj children).mergeOver none)
  receipted : Receipted obj

/- Once it is scanned its scan jobs are done and settled. -/
structure Frozen
    (Taken : ReconcileCtx → Prop)
    («namespace» name : String)
    (cluster : Cluster) : Prop where
  attested :
    IsScanned «namespace» name cluster →
      ∀ o ∈ scans «namespace» name cluster.scanJobs,
        scanRank o = 0
  settled :
    IsScanned «namespace» name cluster →
      ∀ obj,
        cluster.validationIn «namespace» name = some obj →
          Settled Taken (children «namespace» name cluster)
            obj

variable {Taken : ReconcileCtx → Prop}
variable {«namespace» name : String}
variable {cluster cluster' : Cluster}
variable {obj : AkeylessImageValidation}

theorem frozen_of_not_isScanned
    (hNot : ¬ IsScanned «namespace» name cluster) :
    Frozen Taken «namespace» name cluster where
  attested hScanned := absurd hScanned hNot
  settled hScanned := absurd hScanned hNot

/- Nothing that the evidence rests on is changed. -/
theorem frozen_of_eq
    (hFrozen : Frozen Taken «namespace» name cluster)
    (hSame :
      cluster'.validationIn «namespace» name =
        cluster.validationIn «namespace» name)
    (hScans :
      scans «namespace» name cluster'.scanJobs =
        scans «namespace» name cluster.scanJobs) :
    Frozen Taken «namespace» name cluster' := by
  have hPhase :
      phaseOf «namespace» name cluster' =
        phaseOf «namespace» name cluster := by
    rw [phaseOf, hSame, phaseOf]
  constructor
  · rw [IsScanned, hPhase, hScans]
    exact hFrozen.attested
  · rw [IsScanned, hPhase, hSame, children, hScans]
    exact hFrozen.settled

omit [Chrono] [SerdeJson] [Blake3] [PromessaSerde] in
/- A status is merged over one with the same scan jobs. -/
theorem scanJobs_mergeOver_self
    {old new : AkeylessImageValidationStatus}
    (hSame : new.scanJobs = old.scanJobs) :
    (old.mergeOver new).scanJobs = old.scanJobs := by
  unfold AkeylessImageValidationStatus.mergeOver
  rw [hSame]
  exact ite_self _

omit [Chrono] [SerdeJson] [Blake3] [PromessaSerde] in
/- What is finished has no phase to go. -/
theorem rank_of_isFinished
    {sj : ScanJob}
    (hDone : isFinished sj = true) :
    (sj.phase.getD .pending).rank = 0 := by
  rcases RunState.isFinished_iff.mp hDone with
    hPhase | hPhase | hPhase
  · rw [hPhase]
    rfl
  · rw [hPhase]
    rfl
  · rw [hPhase]
    rfl

omit [Blake3] [PromessaSerde] in
/- The rank of a scan job that reads. -/
theorem scanRank_eq
    {o : Stored ScanJobSpec}
    {sj : ScanJob}
    (hRead : Api.readScanJob o = some sj) :
    scanRank o = (sj.phase.getD .pending).rank :=
  congrArg ScanJobPhase.rank
    (ScanRun.phase_of_readScanJob
      (s := ScanRun.onObject o) hRead).1.symm

omit [Blake3] [PromessaSerde] in
/- If all of them are finished, they have all arrived. -/
theorem scanRank_of_all_isFinished
    (hOrderly : Orderly «namespace» name cluster.scanJobs)
    (hAll :
      (children «namespace» name cluster).all isFinished =
        true) :
    ∀ o ∈ scans «namespace» name cluster.scanJobs,
      scanRank o = 0 := by
  intro o hMem
  rcases List.mem_filter.mp hMem with ⟨hIn, hOwn⟩
  rw [isScan, Bool.and_eq_true, decide_eq_true_eq] at hOwn
  rcases Option.isSome_iff_exists.mp
    (hOrderly.readable o hIn hOwn.1) with ⟨sj, hRead⟩
  rw [scanRank_eq hRead]
  exact rank_of_isFinished (List.all_eq_true.mp hAll sj
    (List.mem_filterMap.mpr ⟨o, hMem, hRead⟩))

end Pipeline

end EngenhoPromessa

------------------------------------------------------------
-- Turns
------------------------------------------------------------

namespace EngenhoPromessa

namespace Pipeline

open Fallible ImageValidation ScanJobController

variable [Chrono] [SerdeJson] [Blake3] [PromessaSerde]
variable {Taken : ReconcileCtx → Prop}
variable {«namespace» name : String}
variable {cluster cluster' : Cluster}
variable {obj : AkeylessImageValidation}
variable {ctx : ReconcileCtx}

omit [Chrono] [SerdeJson] [PromessaSerde] in
/- What is still open has no receipt, and gets none here. -/
theorem receipted_merged
    {new : AkeylessImageValidationStatus}
    (hConsistent : Consistent name obj)
    (hOpen : obj.currentPhase.isTerminal = false)
    (hSame :
      new.outcomeReceiptRef =
        obj.statusOrDefault.outcomeReceiptRef) :
    Receipted (merged obj new) := by
  have hNone :=
    (hConsistent.fields.open_fields hOpen).2.2
  intro receipt hReceipt
  have hStored :
      (new.outcomeReceiptRef.or
        obj.statusOrDefault.outcomeReceiptRef) =
        some receipt := hReceipt
  rw [hSame, hNone] at hStored
  cases hStored

/- Scanning ends with the summaries of finished scan jobs. -/
theorem settled_scanned
    {children : List ScanJob}
    (hPhase : obj.currentPhase = .scanning)
    (hConsistent : Consistent name obj)
    (hSome : children ≠ [])
    (hScanned :
      (merged obj (scannedStatus obj
        children)).currentPhase.rank ≤ 3) :
    children.all isFinished = true ∧
      Settled Taken children
        (merged obj (scannedStatus obj children)) := by
  have hOld := RunState.phase_statusOrDefault obj
  rw [hPhase] at hOld
  have hAfter :
      (merged obj (scannedStatus obj children)).currentPhase =
        if children.all isFinished then .aggregating
        else .scanning := by
    show ((if children.all isFinished then
        some AkeylessImageValidationPhase.aggregating
        else obj.statusOrDefault.phase).or
          obj.statusOrDefault.phase).getD .pending = _
    split
    · rfl
    · rw [Option.or_self, hOld]
  cases hAll : children.all isFinished with
  | false =>
      rw [hAfter, hAll] at hScanned
      simp [AkeylessImageValidationPhase.rank] at hScanned
  | true =>
      rw [hAll, if_pos rfl] at hAfter
      refine ⟨rfl, hSome, ?_,
        fun hNot => absurd hAfter hNot, ?_,
        receipted_merged hConsistent (by rw [hPhase]; rfl)
          rfl⟩
      · show (if (children.map summaryOf).isEmpty then _
          else children.map summaryOf) = _
        rw [if_neg (by simpa using hSome)]
      · rw [hAfter]
        exact fun hEnded => absurd hEnded (by decide)

/- Aggregating keeps the hash settled. -/
theorem settled_aggregated
    {children : List ScanJob}
    (hPhase : obj.currentPhase = .aggregating)
    (hConsistent : Consistent name obj)
    (hSettled : Settled Taken children obj) :
    Settled Taken children
      (merged obj (aggregatedStatus obj children)) where
  scans_there := hSettled.scans_there
  summarized :=
    (scanJobs_mergeOver_self rfl).trans hSettled.summarized
  hashed _ := rfl
  judged hEnded := absurd hEnded (by
    show ¬ AkeylessImageValidationPhase.attesting.isTerminal =
      true
    decide)
  receipted :=
    receipted_merged hConsistent (by rw [hPhase]; rfl) rfl

/- Attesting keeps the hash settled. -/
theorem settled_attested
    {children : List ScanJob}
    (hPhase : obj.currentPhase = .attesting)
    (hConsistent : Consistent name obj)
    (hSettled : Settled Taken children obj) :
    Settled Taken children (merged obj (attestedStatus obj)) where
  scans_there := hSettled.scans_there
  summarized :=
    (scanJobs_mergeOver_self rfl).trans hSettled.summarized
  hashed _ :=
    Option.or_self.trans
      (hSettled.hashed (by rw [hPhase]; decide))
  judged hEnded := absurd hEnded (by
    show ¬ AkeylessImageValidationPhase.gating.isTerminal =
      true
    decide)
  receipted :=
    receipted_merged hConsistent (by rw [hPhase]; rfl) rfl

/- The gate finds no decision, and judges the children. -/
theorem settled_gated
    {children : List ScanJob}
    (hTaken : Taken ctx)
    (hPhase : obj.currentPhase = .gating)
    (hConsistent : Consistent name obj)
    (hSettled : Settled Taken children obj) :
    Settled Taken children
      (merged obj (gatedStatus ctx
        (securitySpecFor ctx.env obj.spec.promessaRef) obj
        children)) where
  scans_there := hSettled.scans_there
  summarized :=
    (scanJobs_mergeOver_self rfl).trans hSettled.summarized
  hashed _ :=
    Option.or_self.trans
      (hSettled.hashed (by rw [hPhase]; decide))
  judged _ := by
    have hNone : obj.statusOrDefault.gateDecision = none := by
      rw [← Option.not_isSome_iff_eq_none,
        hConsistent.fields.gate_present, hPhase]
      decide
    refine ⟨ctx, hTaken, ?_⟩
    show some (GateDecision.mergeOver
      obj.statusOrDefault.gateDecision _) = _
    rw [hNone]
    rfl
  receipted :=
    receipted_merged hConsistent (by rw [hPhase]; rfl) rfl

/- An answer settles what it says of the scan jobs. -/
theorem settled_of_advance
    (hTaken : Taken ctx)
    (hSound : Sound «namespace» name cluster)
    (hFrozen : Frozen Taken «namespace» name cluster)
    (hObj :
      cluster.validationIn «namespace» name = some obj)
    {new : AkeylessImageValidationStatus}
    (hAdvance : Advance ctx cluster obj new)
    (hScanned : (merged obj new).currentPhase.rank ≤ 3) :
    (∀ o ∈ scans «namespace» name cluster.scanJobs,
        scanRank o = 0) ∧
      Settled Taken (children «namespace» name cluster)
        (merged obj new) := by
  rcases exists_stored_of_validationIn hObj with
    ⟨_, _, _, _, _, hNamespace, hName⟩
  have hListed :
      childrenIn cluster obj =
        some (children «namespace» name cluster) :=
    childrenIn_eq hSound.orderly hNamespace hName
  have hBefore :
      obj.currentPhase.rank ≤ 3 →
        IsScanned «namespace» name cluster := by
    rw [IsScanned, phaseOf_eq hObj]
    exact id
  have hConsistent := consistent_of_sound hSound hObj
  have hNot : ¬ 5 ≤ 3 ∧ ¬ 4 ≤ 3 := by decide
  cases hAdvance with
  | provisionFirst hPhase => exact absurd hScanned hNot.1
  | provisionAgain hPhase hTenant =>
      exact absurd hScanned hNot.1
  | scan summaries tenant hPhase hTenant hReady hSome =>
      exact absurd hScanned hNot.2
  | watch children hPhase hChildren hSome =>
      obtain rfl :=
        Option.some.inj (hChildren.symm.trans hListed)
      rcases settled_scanned hPhase hConsistent hSome
        hScanned with
        ⟨hAll, hSettled⟩
      exact ⟨scanRank_of_all_isFinished hSound.orderly hAll,
        hSettled⟩
  | aggregate children hPhase hChildren =>
      obtain rfl :=
        Option.some.inj (hChildren.symm.trans hListed)
      have hPast := hBefore (by rw [hPhase]; decide)
      exact ⟨hFrozen.attested hPast,
        settled_aggregated hPhase hConsistent
          (hFrozen.settled hPast obj hObj)⟩
  | attest hPhase =>
      have hPast := hBefore (by rw [hPhase]; decide)
      exact ⟨hFrozen.attested hPast,
        settled_attested hPhase hConsistent
          (hFrozen.settled hPast obj hObj)⟩
  | gate children hPhase hChildren =>
      obtain rfl :=
        Option.some.inj (hChildren.symm.trans hListed)
      have hPast := hBefore (by rw [hPhase]; decide)
      exact ⟨hFrozen.attested hPast,
        settled_gated hTaken hPhase hConsistent
          (hFrozen.settled hPast obj hObj)⟩

/-
  What a turn leaves is frozen, and what was scanned has the
  scan jobs it had.
-/
def Freezes
    (Taken : ReconcileCtx → Prop)
    («namespace» name : String)
    (before after : Cluster) : Prop :=
  Frozen Taken «namespace» name after ∧
    (IsScanned «namespace» name before →
      scans «namespace» name after.scanJobs =
        scans «namespace» name before.scanJobs)

/- Nothing moves when validation and scan jobs stay. -/
theorem freezes_of_eq
    (hFrozen : Frozen Taken «namespace» name cluster)
    (hSame :
      cluster'.validationIn «namespace» name =
        cluster.validationIn «namespace» name)
    (hScans :
      scans «namespace» name cluster'.scanJobs =
        scans «namespace» name cluster.scanJobs) :
    Freezes Taken «namespace» name cluster cluster' :=
  ⟨frozen_of_eq hFrozen hSame hScans, fun _ => hScans⟩

/- Before its scans are done nothing is promised of them. -/
theorem freezes_of_not_isScanned
    (hSame :
      cluster'.validationIn «namespace» name =
        cluster.validationIn «namespace» name)
    (hNot : ¬ IsScanned «namespace» name cluster) :
    Freezes Taken «namespace» name cluster cluster' := by
  refine ⟨frozen_of_not_isScanned ?_,
    fun hScanned => absurd hScanned hNot⟩
  rwa [IsScanned, phaseOf, hSame]

/- What leaves the validation alone leaves it frozen. -/
theorem freezes_of_leavesAlone
    (hFrozen : Frozen Taken «namespace» name cluster)
    (hAlone :
      LeavesAlone «namespace» name cluster cluster') :
    Freezes Taken «namespace» name cluster cluster' := by
  refine freezes_of_eq hFrozen ?_ hAlone.scans_same
  rw [Cluster.validationIn, hAlone.validation_same]
  rfl

/- An answer leaves alone the scan jobs that it settles. -/
theorem scanJobs_of_settled
    {w w₁ : World}
    (hCluster : w.cluster = cluster)
    {new : AkeylessImageValidationStatus}
    (hNext :
      (nextStatus ctx obj).exec w = (.ok (some new), w₁))
    (hAdvance : Advance ctx cluster obj new)
    (hScanned : (merged obj new).currentPhase.rank ≤ 3) :
    scanJobs w₁ = cluster.scanJobs := by
  have hAfter : scanJobs ((nextStatus ctx obj).exec w).2 =
      scanJobs w := by
    have hNot : ¬ 5 ≤ 3 ∧ ¬ 4 ≤ 3 := by decide
    cases hAdvance with
    | provisionFirst hPhase => exact absurd hScanned hNot.1
    | provisionAgain hPhase hTenant =>
        exact absurd hScanned hNot.1
    | scan summaries tenant hPhase hTenant hReady hSome =>
        exact absurd hScanned hNot.2
    | watch children hPhase hChildren hSome =>
        refine scanJobs_exec_nextStatus_of_scanning ctx
          hPhase ?_
        rw [hCluster, hChildren]
        exact fun hNone => hSome (Option.some.inj hNone)
    | aggregate children hPhase hChildren =>
        exact scanJobs_exec_nextStatus_of_scanned ctx
          (by rw [hPhase]; decide) w
    | attest hPhase =>
        exact scanJobs_exec_nextStatus_of_scanned ctx
          (by rw [hPhase]; decide) w
    | gate children hPhase hChildren =>
        exact scanJobs_exec_nextStatus_of_scanned ctx
          (by rw [hPhase]; decide) w
  rw [hNext] at hAfter
  rw [hAfter, scanJobs, hCluster]

/-
  A turn of the validation only takes it on to the next
  phase.
-/
theorem freezes_validation_turn
    (hTaken : Taken ctx)
    (hSound : Sound «namespace» name cluster)
    (hFrozen : Frozen Taken «namespace» name cluster)
    (hObj :
      cluster.validationIn «namespace» name = some obj)
    (hScope : ctx.namespace.getD «namespace» = «namespace»)
    {w : World}
    (hCluster : w.cluster = cluster)
    (hAfter :
      ((ImageValidation.reconcile ctx obj).exec w).2.cluster =
        cluster') :
    Freezes Taken «namespace» name cluster cluster' := by
  rcases exists_stored_of_validationIn hObj with
    ⟨_, _, _, _, _, hNamespace, hName⟩
  cases hOpen : obj.currentPhase.isTerminal with
  | true =>
      rw [exec_reconcile_of_terminal ctx hOpen, hCluster]
        at hAfter
      rw [← hAfter]
      exact freezes_of_eq hFrozen rfl rfl
  | false =>
      rcases ImageValidation.exec_reconcile_cases ctx obj
        hOpen w with ⟨answer, w₁, hNext, _, hJobs, hWrite⟩
      unfold scanJobs at hJobs
      unfold validations at hWrite
      rw [hAfter] at hJobs hWrite
      rw [hCluster] at hWrite
      -- What is scanned already schedules no scan.
      have hKept :
          IsScanned «namespace» name cluster →
            cluster'.scanJobs = cluster.scanJobs := by
        intro hScanned
        rw [IsScanned, phaseOf_eq hObj] at hScanned
        have hSame := scanJobs_exec_nextStatus_of_scanned
          ctx hScanned w
        rw [hNext] at hSame
        unfold scanJobs at hSame
        rw [hJobs, hSame, hCluster]
      rcases hWrite with hSame | ⟨new, rfl, hPatch⟩
      · have hSeen :
            cluster'.validationIn «namespace» name =
              cluster.validationIn «namespace» name :=
          validationIn_of_eq hSame
        by_cases hScanned : IsScanned «namespace» name cluster
        · exact freezes_of_eq hFrozen hSeen
            (by rw [hKept hScanned])
        · exact freezes_of_not_isScanned hSeen hScanned
      · have hAdvance : Advance ctx cluster obj new := by
          rw [← hCluster]
          exact advance_of_exec_nextStatus hNext
        have hMerged :
            cluster'.validationIn «namespace» name =
              some (merged obj new) := by
          rw [hNamespace, hName, hScope] at hPatch
          exact validationIn_of_patched hObj
            (RunState.writable_of_advance hAdvance
              (consistent_of_sound hSound hObj).writable)
            hPatch
        refine ⟨?_, fun hScanned => by rw [hKept hScanned]⟩
        by_cases hScanned : IsScanned «namespace» name cluster'
        · have hRank := hScanned
          rw [IsScanned, phaseOf_eq hMerged] at hRank
          have hSame :
              cluster'.scanJobs = cluster.scanJobs :=
            hJobs.trans
              (scanJobs_of_settled hCluster hNext hAdvance
                hRank)
          rcases settled_of_advance hTaken hSound hFrozen
            hObj hAdvance hRank with ⟨hAttested, hSettled⟩
          refine ⟨fun _ => by rwa [hSame],
            fun _ obj' hObj' => ?_⟩
          obtain rfl : merged obj new = obj' :=
            Option.some.inj (hMerged.symm.trans hObj')
          rwa [children, hSame]
        · exact frozen_of_not_isScanned hScanned

omit [PromessaSerde] in
/- A scan job that has arrived is not patched. -/
theorem rank_of_patches
    {sj : ScanJob}
    {phase : ScanJobPhase}
    {findings : Option (List ScanFinding)}
    {attestation : Option AttestationRef}
    (hPatches : Patches ctx sj phase findings attestation) :
    0 < (sj.phase.getD .pending).rank := by
  cases hPatches with
  | fork hPhase =>
      rw [hPhase]
      decide
  | exec hPhase =>
      rw [hPhase]
      decide
  | run hPhase =>
      rw [hPhase]
      decide
  | attest hPhase findings =>
      rw [hPhase]
      decide

/- A turn of a scan job that is done writes nothing. -/
theorem freezes_scan_turn
    (hEmpty : PrintsEmptyList)
    (hSound : Sound «namespace» name cluster)
    (hFrozen : Frozen Taken «namespace» name cluster)
    {o : Stored ScanJobSpec}
    (hOwn : o ∈ scans «namespace» name cluster.scanJobs)
    {sj : ScanJob}
    (hScan : cluster.scanJobIn o.key.1 o.key.2 = some sj)
    {w : World}
    (hCluster : w.cluster = cluster)
    (hAfter :
      ((ScanJobController.reconcile ctx sj).exec
        w).2.cluster = cluster') :
    Freezes Taken «namespace» name cluster cluster' := by
  have hKept := ScanJobController.keeps_reconcile ctx sj w
  dsimp only at hKept
  rw [hAfter, hCluster] at hKept
  have hSame :
      cluster'.validationIn «namespace» name =
        cluster.validationIn «namespace» name :=
    validationIn_of_eq (Prod.mk.inj hKept).1
  by_cases hScanned : IsScanned «namespace» name cluster
  · have hCases :=
      ScanJobController.exec_reconcile_cases hEmpty ctx sj w
    unfold scanJobs at hCases
    rw [hAfter, hCluster] at hCases
    rcases hCases with hJobs | ⟨_, _, _, hPatches, _⟩
    · exact freezes_of_eq hFrozen hSame (by rw [hJobs])
    · rcases exists_stored_of_scanJobIn hScan with
        ⟨p, hFind, hRead, _, _, hKey⟩
      obtain rfl : o = p :=
        eq_of_key_eq hSound.orderly
          (List.mem_filter.mp hOwn).1
          (List.mem_of_find?_eq_some hFind) hKey.symm
      have hOpen := rank_of_patches hPatches
      rw [← scanRank_eq hRead,
        hFrozen.attested hScanned o hOwn] at hOpen
      exact absurd hOpen (Nat.lt_irrefl 0)
  · exact freezes_of_not_isScanned hSame hScanned

omit [Chrono] [SerdeJson] [Blake3] [PromessaSerde] in
/- A receipt does not change what receipts are made of. -/
theorem canonicalBytes_signed
    (obj : AkeylessImageValidation)
    (receipt : OutcomeReceiptRef) :
    OutcomeChain.canonicalBytes (signed obj receipt) =
      OutcomeChain.canonicalBytes obj := by
  have hHash :
      (signed obj receipt).evidenceHash? =
        obj.evidenceHash? := by
    unfold signed AkeylessImageValidation.evidenceHash?
      AkeylessImageValidation.statusOrDefault
    cases obj.status with
    | none => rfl
    | some st => rfl
  unfold OutcomeChain.canonicalBytes
  rw [OutcomeChain.canonicalText_eq,
    OutcomeChain.canonicalText_eq, hHash,
    (currentPhase_signed obj receipt).2]
  rfl

/- A receipt adds to the status, and changes nothing else. -/
theorem settled_signed
    {children : List ScanJob}
    (hSettled : Settled Taken children obj)
    (ctx : ReconcileCtx) :
    Settled Taken children
      (signed obj (OutcomeChain.buildReceipt ctx obj)) where
  scans_there := hSettled.scans_there
  summarized := hSettled.summarized
  hashed := by
    rw [(currentPhase_signed obj _).1]
    exact hSettled.hashed
  judged := by
    rw [(currentPhase_signed obj _).1,
      (currentPhase_signed obj _).2]
    exact hSettled.judged
  receipted receipt hReceipt := by
    obtain rfl := Option.some.inj hReceipt
    rw [canonicalBytes_signed,
      OutcomeChain.blake3Hash_buildReceipt]

/- A receipt leaves the evidence as it is. -/
theorem freezes_receipt_turn
    (hFrozen : Frozen Taken «namespace» name cluster)
    (hObj :
      cluster.validationIn «namespace» name = some obj)
    (hScope : ctx.namespace.getD «namespace» = «namespace»)
    {w : World}
    (hCluster : w.cluster = cluster)
    (hAfter :
      ((OutcomeChain.handle ctx obj).exec w).2.cluster =
        cluster') :
    Freezes Taken «namespace» name cluster cluster' := by
  have hKept := OutcomeChain.keeps_handle ctx obj w
  dsimp only at hKept
  rw [hAfter, hCluster] at hKept
  have hJobs := (Prod.mk.inj hKept).2
  have hCases :=
    OutcomeChain.exec_handle_validations ctx obj w
  dsimp only at hCases
  rw [hAfter, hCluster] at hCases
  rcases hCases with hSame | ⟨_, ns, hNs, hPatch⟩
  · exact freezes_of_eq hFrozen (validationIn_of_eq hSame)
      (by rw [hJobs])
  · rcases exists_stored_of_validationIn hObj with
      ⟨_, _, _, _, _, _, hName⟩
    rw [hNs, Option.getD_some] at hScope
    rw [hScope, hName] at hPatch
    have hSigned := validationIn_of_signed hObj _ hPatch
    have hPhase :
        phaseOf «namespace» name cluster' =
          phaseOf «namespace» name cluster := by
      rw [phaseOf_eq hSigned, phaseOf_eq hObj]
      exact (currentPhase_signed obj _).1
    refine ⟨⟨?_, fun hScanned obj' hObj' => ?_⟩,
      fun _ => by rw [hJobs]⟩
    · rw [IsScanned, hPhase, hJobs]
      exact hFrozen.attested
    · rw [IsScanned, hPhase] at hScanned
      rw [← Option.some.inj (hSigned.symm.trans hObj'),
        children, hJobs]
      exact settled_signed (hFrozen.settled hScanned obj hObj)
        ctx

/- Whichever of its objects the turn is on. -/
theorem freezes_of_ownTurn
    (hEmpty : PrintsEmptyList)
    (hTaken : Taken ctx)
    {w : World}
    (hSound : Sound «namespace» name w.cluster)
    (hFrozen : Frozen Taken «namespace» name w.cluster)
    (hTurn : OwnTurn ctx «namespace» name w cluster') :
    Freezes Taken «namespace» name w.cluster cluster' := by
  cases hTurn with
  | validation obj hObj hScope hAfter =>
      exact freezes_validation_turn hTaken hSound hFrozen
        hObj hScope rfl hAfter
  | tenant t hTenant hAfter =>
      have hKept := EphemeralTenant.keeps_reconcile ctx t w
      dsimp only at hKept
      rw [hAfter] at hKept
      rcases Prod.mk.inj hKept with ⟨hValidations, hJobs⟩
      exact freezes_of_eq hFrozen
        (validationIn_of_eq hValidations) (by rw [hJobs])
  | scanJob sj o hOwn hScan hAfter =>
      exact freezes_scan_turn hEmpty hSound hFrozen hOwn
        hScan rfl hAfter
  | receipt obj hObj hScope hAfter =>
      exact freezes_receipt_turn hFrozen hObj hScope rfl
        hAfter

end Pipeline

end EngenhoPromessa

------------------------------------------------------------
-- Runs
------------------------------------------------------------

namespace EngenhoPromessa

namespace Pipeline

open ScanJobController Platform

variable {σ : Type}
variable [Chrono] [SerdeJson] [Blake3] [PromessaSerde]
variable [ErrorText] [OutcomeSerde]
variable {Taken : ReconcileCtx → Prop}
variable {«namespace» name : String}
variable {executor : ActionExecutor (StateM σ)}
variable {s : Platform σ} {e : Event}

variable (executor) in
/- One undisturbed step freezes. -/
theorem freezes_step
    (hEmpty : PrintsEmptyList)
    (hSound : Sound «namespace» name s.cluster)
    (hFrozen : Frozen Taken «namespace» name s.cluster)
    (hUndisturbed : Undisturbed «namespace» name s e)
    (hTaken : ∀ ctx, ctxOf? e = some ctx → Taken ctx) :
    Freezes Taken «namespace» name s.cluster
      (s.step executor e).cluster := by
  rcases step_cases executor hEmpty hUndisturbed with
    hAlone | ⟨ctx, w, hCtx, hCluster, hTurn⟩
  · exact freezes_of_leavesAlone hFrozen hAlone
  · rw [← hCluster] at hSound hFrozen ⊢
    exact freezes_of_ownTurn hEmpty (hTaken ctx hCtx) hSound
      hFrozen hTurn

omit [Blake3] [PromessaSerde] [ErrorText] [OutcomeSerde] in
/- What has left a phase does not come back to it. -/
theorem isScanned_of_onward
    {before after : Cluster}
    (hOn : Onward «namespace» name before after)
    (hScanned : IsScanned «namespace» name before) :
    IsScanned «namespace» name after :=
  hOn.phase_le.trans hScanned

/- What was scanned has the scan jobs it had. -/
def KeepsScans
    («namespace» name : String)
    (before after : Cluster) : Prop :=
  IsScanned «namespace» name before →
    IsScanned «namespace» name after ∧
      scans «namespace» name after.scanJobs =
        scans «namespace» name before.scanJobs

/- From scanned on, a run freezes. -/
theorem frozen_run
    (hEmpty : PrintsEmptyList)
    (executor : ActionExecutor (StateM σ))
    (hSound : Sound «namespace» name s.cluster)
    (hFrozen : Frozen Taken «namespace» name s.cluster)
    {events : List Event}
    (hUndisturbed :
      Run.Allowed (step executor)
        (Undisturbed «namespace» name) s events)
    (hTaken :
      ∀ e ∈ events, ∀ ctx, ctxOf? e = some ctx → Taken ctx) :
    let t := Run.run (step executor) s events
    Sound «namespace» name t.cluster ∧
      Frozen Taken «namespace» name t.cluster ∧
      KeepsScans «namespace» name s.cluster t.cluster := by
  let Inv : Platform σ → Prop := fun s =>
    Sound «namespace» name s.cluster ∧
      Frozen Taken «namespace» name s.cluster
  let Ok : Platform σ → Event → Prop := fun s e =>
    Undisturbed «namespace» name s e ∧
      ∀ ctx, ctxOf? e = some ctx → Taken ctx
  have hOk : Run.Allowed (step executor) Ok s events :=
    Run.allowed_and_iff.mpr
      ⟨hUndisturbed, Run.allowed_of_forall hTaken s⟩
  have hStep :
      ∀ s e, Inv s → Ok s e → Inv (s.step executor e) :=
    fun _ _ hInv hOk =>
      ⟨(sound_step executor hEmpty hInv.1 hOk.1).1,
        (freezes_step executor hEmpty hInv.1 hInv.2 hOk.1
          hOk.2).1⟩
  have hKeeps :
      ∀ s e, Inv s → Ok s e →
        KeepsScans «namespace» name s.cluster
          (s.step executor e).cluster :=
    fun _ _ hInv hOk hScanned =>
      ⟨isScanned_of_onward
          (sound_step executor hEmpty hInv.1 hOk.1).2
          hScanned,
        (freezes_step executor hEmpty hInv.1 hInv.2 hOk.1
          hOk.2).2 hScanned⟩
  have hThen :=
    Run.invariant_run Inv hStep ⟨hSound, hFrozen⟩ hOk
  have hKept :=
    Run.relates_run Inv
      (fun s t =>
        KeepsScans «namespace» name s.cluster t.cluster)
      (fun _ hScanned => ⟨hScanned, rfl⟩)
      (fun hst htu hScanned =>
        ⟨(htu (hst hScanned).1).1,
          (htu (hst hScanned).1).2.trans (hst hScanned).2⟩)
      hStep hKeeps ⟨hSound, hFrozen⟩ hOk
  exact ⟨hThen.1, hThen.2, hKept⟩

/- It has its findings, their number and their hash. -/
def IsAttested (sj : ScanJob) : Prop :=
  ∃ st a, sj.status = some st ∧
    st.phase = some .attested ∧
    st.findingsCount = st.findings.length ∧
    st.attestationRef = some a ∧
    a.hash = hashOf st.findings

omit [PromessaSerde] [ErrorText] [OutcomeSerde] in
/- A scan job with no phase to go is attested. -/
theorem isAttested_of_scanRank
    {o : Stored ScanJobSpec}
    (hWay : ScanRun.ProgressInvariant (ScanRun.onObject o))
    (hRank : scanRank o = 0)
    {sj : ScanJob}
    (hRead : Api.readScanJob o = some sj) :
    IsAttested sj := by
  have hPhase :
      (ScanRun.onObject o).phase = .attested :=
    hWay.2.resolve_right (Nat.not_lt.mpr hRank.le)
  have hInv := hWay.1.status
  rcases Option.map_eq_some_iff.mp hRead with
    ⟨old, hOld, rfl⟩
  have hStatus :
      (ScanRun.onObject o).status = old.getD .default := by
    rw [ScanRun.status, ScanRun.onObject, hOld,
      Option.join_some]
  rw [ScanRun.phase, hStatus] at hPhase
  rw [hStatus] at hInv
  cases old with
  | none => exact absurd hPhase (by decide)
  | some st =>
      rw [Option.getD_some] at hPhase hInv
      have hAttested : st.phase = some .attested := by
        cases hSome : st.phase with
        | none =>
            rw [hSome] at hPhase
            exact absurd hPhase (by decide)
        | some phase =>
            rw [hSome, Option.getD_some] at hPhase
            rw [hPhase]
      rcases Option.isSome_iff_exists.mp
        (hInv.attested_iff.mpr hAttested) with ⟨a, hRef⟩
      exact ⟨st, a, rfl, hAttested, hInv.count, hRef,
        hInv.hash a hRef⟩

/- The contexts that controllers had their turns in. -/
def TakenIn (events : List Event) : ReconcileCtx → Prop :=
  fun ctx => ∃ e ∈ events, ctxOf? e = some ctx

/-
  From a new validation on, once its scans are done, they
  are all attested and stay as they are, and what its status
  says of them is so.
-/
theorem settled_of_isNew
    (hEmpty : PrintsEmptyList)
    (executor : ActionExecutor (StateM σ))
    (start : Platform σ)
    (hNew : IsNew «namespace» name start.cluster)
    (earlier later : List Event)
    (hUndisturbed :
      Run.Allowed (step executor)
        (Undisturbed «namespace» name) start
        (earlier ++ later)) :
    let s := Run.run (step executor) start earlier
    let t := Run.run (step executor) start
      (earlier ++ later)
    IsScanned «namespace» name s.cluster →
      scans «namespace» name t.cluster.scanJobs =
          scans «namespace» name s.cluster.scanJobs ∧
        (∀ sj ∈ children «namespace» name t.cluster,
          IsAttested sj) ∧
        ∃ obj,
          t.cluster.validationIn «namespace» name =
              some obj ∧
            Settled (TakenIn (earlier ++ later))
              (children «namespace» name t.cluster) obj := by
  intro s t hScanned
  have hStart :
      ¬ IsScanned «namespace» name start.cluster := by
    rw [IsScanned, phaseOf_of_isNew hNew]
    decide
  have hTaken :
      ∀ e ∈ earlier ++ later, ∀ ctx, ctxOf? e = some ctx →
        TakenIn (earlier ++ later) ctx :=
    fun e hMem _ hCtx => ⟨e, hMem, hCtx⟩
  rcases Run.allowed_append_iff.mp hUndisturbed with
    ⟨hBefore, hLater⟩
  rcases frozen_run hEmpty executor (sound_of_isNew hNew)
    (frozen_of_not_isScanned hStart) hBefore
    (fun e hMem =>
      hTaken e (List.mem_append_left later hMem)) with
    ⟨hSound, hFrozen, _⟩
  rcases frozen_run hEmpty executor hSound hFrozen hLater
    (fun e hMem =>
      hTaken e (List.mem_append_right earlier hMem)) with
    ⟨hSoundThen, hFrozenThen, hKept⟩
  rw [← Run.run_append] at hSoundThen hFrozenThen hKept
  rcases hKept hScanned with ⟨hStill, hSame⟩
  refine ⟨hSame, ?_, ?_⟩
  · intro sj hMem
    rcases List.mem_filterMap.mp hMem with ⟨o, hIn, hRead⟩
    exact isAttested_of_scanRank
      (hSoundThen.on_their_way o hIn)
      (hFrozenThen.attested hStill o hIn) hRead
  · rcases hSoundThen.validation with ⟨obj, hObj, _⟩
    exact ⟨obj, hObj, hFrozenThen.settled hStill obj hObj⟩

end Pipeline

end EngenhoPromessa

namespace EngenhoPromessa

namespace Reference

/- The rounds up to the end of the scans, and those after. -/
def scannedEvents : List Platform.Event :=
  unservedEvents ++ (servedRounds.take 6).flatten

/- The served rounds after the scans are done. -/
def settledEvents : List Platform.Event :=
  (servedRounds.drop 6).flatten

theorem scannedEvents_append_settledEvents :
    scannedEvents ++ settledEvents =
      unservedEvents ++ servedRounds.flatten := by
  rw [scannedEvents, settledEvents, List.append_assoc,
    ← List.flatten_append, List.take_append_drop]

end Reference

namespace Pipeline

open Platform

/-
  The served run of the reference, from its creation to its
  decision and beyond.
-/
theorem settled_of_isNew_served :
    let s := Run.run (step Reference.executor)
      (start Reference.withValidation ())
      Reference.scannedEvents
    let t := Run.run (step Reference.executor)
      (start Reference.withValidation ())
      (Reference.scannedEvents ++ Reference.settledEvents)
    scans "validation" "auth-00" t.cluster.scanJobs =
        scans "validation" "auth-00" s.cluster.scanJobs ∧
      (∀ sj ∈ children "validation" "auth-00" t.cluster,
        IsAttested sj) ∧
      ∃ obj,
        t.cluster.validationIn "validation" "auth-00" =
            some obj ∧
          Settled
            (TakenIn (Reference.scannedEvents ++
              Reference.settledEvents))
            (children "validation" "auth-00" t.cluster)
            obj :=
  settled_of_isNew rfl Reference.executor
    (start Reference.withValidation ())
    Reference.isNew_withValidation
    Reference.scannedEvents Reference.settledEvents
    (by
      rw [Reference.scannedEvents_append_settledEvents]
      exact Reference.allowed_events)
    (by
      unfold IsScanned
      decide +kernel)

end Pipeline

end EngenhoPromessa
