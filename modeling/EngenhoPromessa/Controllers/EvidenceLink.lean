import EngenhoPromessa.Controllers.ChildRuns
import EngenhoPromessa.Controllers.StaleReads

/-
  Whether the gate judges the evidence whose hash is stored.

  The hash and the decision come from different steps, each
  with a listing of its own, and the scan jobs may change in
  between.

  Key definitions include:
    * `ChildRun.evidence`
    * `ChildRun.KeepsEvidence`
    * `ChildRun.JudgesHashed`

  Key theorems include:
    * `ChildRun.evidenceInvariant_step`
    * `ChildRun.judgesHashed_of_keepsEvidence`
-/

------------------------------------------------------------
-- Evidence
------------------------------------------------------------

namespace EngenhoPromessa

namespace ChildRun

open ImageValidation AkeylessImageValidationStatus

variable [Chrono] [SerdeJson] [Blake3] [PromessaSerde]

/- The bytes that the children's findings are hashed as. -/
def evidence (s : ChildRun) : Option (List UInt8) :=
  s.children.map canonicalFindingsBytes

/-
  Between the step that hashes the evidence and the gate, a
  step leaves the canonical bytes of the findings as they are.
-/
def KeepsEvidence (s : ChildRun) (e : Event) : Prop :=
  s.validation.phase = .attesting ∨
      s.validation.phase = .gating →
    (s.step e).evidence = s.evidence

instance (s : ChildRun) (e : Event) :
    Decidable (s.KeepsEvidence e) :=
  inferInstanceAs (Decidable (_ → _))

/- The children a stored decision was computed from. -/
def IsJudgementOf
    (s : ChildRun)
    (children : List ScanJob) : Prop :=
  s.judged = some children ∧
    ∃ ctx obj,
      obj.spec = s.validation.spec ∧
      s.validation.status.gateDecision =
        some (GateDecision.mergeOver none
          (gateDecisionOf ctx
            (securitySpecFor ctx.env obj.spec.promessaRef)
            obj children))

/- A validation that ended was judged on the hashed evidence. -/
def JudgesHashed (s : ChildRun) : Prop :=
  s.validation.phase.isTerminal = true →
    ∃ children, s.IsJudgementOf children ∧
      s.validation.status.evidenceBundleHash =
        some (Blake3.hashHex
          (canonicalFindingsBytes children))

/- The stored hash is that of the children as they are now. -/
def IsHashed (s : ChildRun) : Prop :=
  ∃ bytes, s.evidence = some bytes ∧
    s.validation.status.evidenceBundleHash =
      some (Blake3.hashHex bytes)

/-
  From `Attesting` on, the stored hash is the hash of the
  children that were aggregated and then judged.
-/
structure EvidenceInvariant (s : ChildRun) : Prop where
  is_fresh : s.validation.FreshInvariant
  is_hashed :
    s.validation.phase = .attesting ∨
        s.validation.phase = .gating →
      s.IsHashed
  judges_hashed : s.JudgesHashed

/- A created validation has no evidence yet. -/
theorem evidenceInvariant_created
    (metadata : ObjectMeta)
    (spec : AkeylessImageValidationSpec)
    (jobs : List (Stored ScanJobSpec)) :
    EvidenceInvariant (created metadata spec jobs) where
  is_fresh := RunState.freshInvariant_created metadata spec
  is_hashed := by
    rintro (hPhase | hPhase)
    · exact absurd hPhase (by simp [created])
    · exact absurd hPhase (by simp [created])
  judges_hashed := by
    intro hTerminal
    exact absurd hTerminal (by simp [created]; decide)

/- Whatever keeps the evidence and the status keeps it all. -/
theorem evidenceInvariant_of_same
    {s s' : ChildRun}
    (hInv : EvidenceInvariant s)
    (hFresh : s'.validation.FreshInvariant)
    (hStatus : s'.validation.status = s.validation.status)
    (hSpec : s'.validation.spec = s.validation.spec)
    (hJudged : s'.judged = s.judged)
    (hKeeps :
      s.validation.phase = .attesting ∨
          s.validation.phase = .gating →
        s'.evidence = s.evidence) :
    EvidenceInvariant s' := by
  have hPhase : s'.validation.phase = s.validation.phase := by
    rw [RunState.phase, hStatus, RunState.phase]
  refine ⟨hFresh, ?_, ?_⟩
  · rw [hPhase]
    intro hOpen
    rw [IsHashed, hStatus, hKeeps hOpen]
    exact hInv.is_hashed hOpen
  · rw [JudgesHashed, hPhase]
    intro hTerminal
    rcases hInv.judges_hashed hTerminal with
      ⟨children, ⟨hChildren, ctx, obj, hObj, hGate⟩, hHash⟩
    rw [hStatus]
    refine ⟨children, ⟨hJudged.trans hChildren, ctx, obj,
      hObj.trans hSpec.symm, ?_⟩, hHash⟩
    rw [hStatus]
    exact hGate

end ChildRun

end EngenhoPromessa

------------------------------------------------------------
-- The Validation's Own Steps
------------------------------------------------------------

namespace EngenhoPromessa

namespace ChildRun

open ImageValidation AkeylessImageValidationStatus

variable [Chrono] [SerdeJson] [Blake3] [PromessaSerde]

/- A step of the validation that acts on the stored object. -/
theorem step_validation_eq
    {s : ChildRun}
    (ctx : ReconcileCtx)
    (surroundings : Cluster)
    (faults : List ApiFault)
    {obj : AkeylessImageValidation}
    (hCopy : s.validation.copy 0 = some obj) :
    (s.step (.validation ctx surroundings faults)).jobs =
        ScanJobController.scanJobs
          ((reconcile ctx obj).exec
            (s.world surroundings faults)).2 ∧
      (s.step (.validation ctx surroundings
          faults)).judged =
        if obj.currentPhase = .gating ∧
            (s.step (.validation ctx surroundings
              faults)).validation.phase.isTerminal = true
          then s.children
        else s.judged := by
  constructor
  · simp only [step, hCopy]
    rfl
  · simp only [step, hCopy]

/- Only a phase that provisions can change the evidence. -/
theorem evidence_step_validation
    {s : ChildRun}
    (ctx : ReconcileCtx)
    (surroundings : Cluster)
    (faults : List ApiFault)
    {obj : AkeylessImageValidation}
    (hCopy : s.validation.copy 0 = some obj)
    (hPhase : provisions obj.currentPhase = false) :
    (s.step (.validation ctx surroundings
        faults)).evidence =
      s.evidence := by
  have hJobs :
      (s.step (.validation ctx surroundings faults)).jobs =
        s.jobs :=
    (step_validation_eq ctx surroundings faults
        hCopy).1.trans
      (keeps_scanJobs_reconcile ctx hPhase
        (s.world surroundings faults))
  have hMetadata := (validation_frame s
    (.validation ctx surroundings faults)).1
  rw [evidence, children, hJobs, hMetadata]
  rfl

/- The phases before there is any evidence to speak of. -/
def precedesEvidence : AkeylessImageValidationPhase → Bool
| .pending => true
| .provisioning => true
| .scanning => true
| .aggregating => true
| _ => false

/- Before its evidence there is nothing to link. -/
theorem evidenceInvariant_of_precedes
    {s : ChildRun}
    (hFresh : s.validation.FreshInvariant)
    (hPrecedes :
      precedesEvidence s.validation.phase = true) :
    EvidenceInvariant s where
  is_fresh := hFresh
  is_hashed := by
    rintro (hPhase | hPhase)
    · simp [hPhase, precedesEvidence] at hPrecedes
    · simp [hPhase, precedesEvidence] at hPrecedes
  judges_hashed := by
    intro hTerminal
    cases hPhase : s.validation.phase <;>
      simp [hPhase, precedesEvidence,
        AkeylessImageValidationPhase.isTerminal]
        at hPrecedes hTerminal

/-
  With its evidence stored, the children are still those
  hashed.
-/
theorem evidenceInvariant_of_hashed
    {s : ChildRun}
    (hFresh : s.validation.FreshInvariant)
    (hOpen : s.validation.phase.isTerminal = false)
    (hHashed : s.IsHashed) :
    EvidenceInvariant s where
  is_fresh := hFresh
  is_hashed := fun _ => hHashed
  judges_hashed := by
    intro hTerminal
    rw [hOpen] at hTerminal
    exact absurd hTerminal (by decide)

/- A decided validation was judged on the hashed children. -/
theorem evidenceInvariant_of_judged
    {s : ChildRun}
    (hFresh : s.validation.FreshInvariant)
    (hTerminal : s.validation.phase.isTerminal = true)
    (hJudged : s.JudgesHashed) :
    EvidenceInvariant s where
  is_fresh := hFresh
  is_hashed := by
    rintro (hPhase | hPhase)
    · rw [hPhase] at hTerminal
      exact absurd hTerminal (by decide)
    · rw [hPhase] at hTerminal
      exact absurd hTerminal (by decide)
  judges_hashed := hJudged

/-
  The answer of a handler for the object as it is stored: it
  comes before the evidence, hashes it, passes it on, or
  judges it.
-/
theorem evidenceInvariant_of_advance
    {s : ChildRun}
    {ctx : ReconcileCtx}
    {surroundings : Cluster}
    {faults : List ApiFault}
    {obj : AkeylessImageValidation}
    {new : AkeylessImageValidationStatus}
    (hInv : EvidenceInvariant s)
    (hFresh :
      (s.step (.validation ctx surroundings
        faults)).validation.FreshInvariant)
    (hCopy : s.validation.copy 0 = some obj)
    (hAdvance :
      Advance ctx
        (s.validation.clusterIn (s.around surroundings)) obj
        new)
    (hStatus :
      (s.step (.validation ctx surroundings
          faults)).validation.status =
        s.validation.status.mergeOver new) :
    EvidenceInvariant
      (s.step (.validation ctx surroundings faults)) := by
  rcases RunState.copy_zero_eq_some hCopy with
    ⟨hObj, hObjPhase⟩
  rcases RunState.copy_eq_some hCopy with
    ⟨hMetadata, hSpec, _⟩
  have hPhaseEq :
      (s.step (.validation ctx surroundings
          faults)).validation.phase =
        (s.validation.status.mergeOver new).phase.getD
          .pending := by
    rw [RunState.phase, hStatus]
  have hChildrenEq :
      childrenIn
          (s.validation.clusterIn (s.around surroundings))
          obj =
        s.children := by
    rw [childrenIn_eq, hMetadata]
    rfl
  have hEvidence :=
    evidence_step_validation ctx surroundings faults hCopy
  have hJudged :=
    (step_validation_eq ctx surroundings faults hCopy).2
  have hFrame := (validation_frame s
    (.validation ctx surroundings faults)).2
  generalize s.step (.validation ctx surroundings faults) =
    s' at hFresh hStatus hPhaseEq hEvidence hJudged hFrame ⊢
  have hEarly :
      ∀ {phase}, s'.validation.phase = phase →
        precedesEvidence phase = true →
          EvidenceInvariant s' := by
    intro phase hPhase hPrecedes
    exact evidenceInvariant_of_precedes hFresh
      (by rwa [hPhase])
  cases hAdvance with
  | provisionFirst hPhase => exact hEarly hPhaseEq rfl
  | provisionAgain hPhase hTenant =>
      exact hEarly hPhaseEq rfl
  | scan summaries tenant hPhase hTenant hReady hSome =>
      exact hEarly hPhaseEq rfl
  | watch children hPhase hChildren hSome =>
      rw [← hObj, RunState.phase_mergeOver_scannedStatus,
        hPhase] at hPhaseEq
      split at hPhaseEq
      · exact hEarly hPhaseEq rfl
      · exact hEarly hPhaseEq rfl
  | aggregate children hPhase hChildren =>
      replace hPhaseEq :
          s'.validation.phase = .attesting := hPhaseEq
      have hBytes :
          s'.evidence =
            some (canonicalFindingsBytes children) := by
        rw [hEvidence (by rw [hPhase]; rfl), evidence,
          ← hChildrenEq, hChildren]
        rfl
      exact evidenceInvariant_of_hashed hFresh
        (by rw [hPhaseEq]; rfl)
        ⟨_, hBytes, by rw [hStatus]; rfl⟩
  | attest hPhase =>
      replace hPhaseEq :
          s'.validation.phase = .gating := hPhaseEq
      rw [hObjPhase] at hPhase
      rcases hInv.is_hashed (Or.inl hPhase) with
        ⟨bytes, hBytes, hHash⟩
      have hBytes' : s'.evidence = some bytes := by
        rw [hEvidence (by rw [hObjPhase, hPhase]; rfl)]
        exact hBytes
      have hHash' :
          s'.validation.status.evidenceBundleHash =
            some (Blake3.hashHex bytes) := by
        rw [hStatus]
        simp [mergeOver, attestedStatus, hObj, hHash]
      exact evidenceInvariant_of_hashed hFresh
        (by rw [hPhaseEq]; rfl) ⟨bytes, hBytes', hHash'⟩
  | gate children hPhase hChildren =>
      have hTerminal :
          s'.validation.phase.isTerminal = true := by
        rw [hPhaseEq]
        exact GateVerdict.isTerminal_phase _
      rw [if_pos ⟨hPhase, hTerminal⟩, ← hChildrenEq,
        hChildren] at hJudged
      rw [hObjPhase] at hPhase
      have hNoGate :
          s.validation.status.gateDecision = none :=
        (hInv.is_fresh.phase_invariant.open_fields
          (by rw [hPhase]; rfl)).1
      rcases hInv.is_hashed (Or.inr hPhase) with
        ⟨bytes, hBytes, hHash⟩
      obtain rfl : canonicalFindingsBytes children = bytes := by
        rw [evidence, ← hChildrenEq, hChildren] at hBytes
        exact Option.some.inj hBytes
      refine evidenceInvariant_of_judged hFresh hTerminal
        (fun _ => ⟨children, ⟨hJudged, ctx, obj,
          hSpec.trans hFrame.symm, ?_⟩, ?_⟩)
      · rw [hStatus]
        simp only [mergeOver, gatedStatus, hNoGate]
      · rw [hStatus]
        simp [mergeOver, gatedStatus, hObj, hHash]

/- Without a new status, nothing new was judged. -/
theorem judged_step_of_same
    {s : ChildRun}
    {ctx : ReconcileCtx}
    {surroundings : Cluster}
    {faults : List ApiFault}
    {obj : AkeylessImageValidation}
    (hCopy : s.validation.copy 0 = some obj)
    (hSame :
      (s.step (.validation ctx surroundings
          faults)).validation.status =
        s.validation.status) :
    (s.step (.validation ctx surroundings faults)).judged =
      s.judged := by
  rw [(step_validation_eq ctx surroundings faults hCopy).2,
    if_neg]
  rintro ⟨hGating, hTerminal⟩
  rw [(RunState.copy_zero_eq_some hCopy).2] at hGating
  rw [RunState.phase, hSame, ← RunState.phase, hGating]
    at hTerminal
  exact absurd hTerminal (by decide)

/- A step that keeps hashed evidence keeps the invariant. -/
theorem evidenceInvariant_step
    {s : ChildRun}
    {e : Event}
    (hInv : EvidenceInvariant s)
    (hKeeps : s.KeepsEvidence e) :
    EvidenceInvariant (s.step e) := by
  have hSpec := (validation_frame s e).2
  cases e with
  | validation ctx surroundings faults =>
      have hFresh :
          (s.step (.validation ctx surroundings
            faults)).validation.FreshInvariant := by
        rw [validation_step]
        exact RunState.freshInvariant_step hInv.is_fresh rfl
      cases hCopy : s.validation.copy 0 with
      | none =>
          have hSame :
              s.step (.validation ctx surroundings faults) =
                s := by
            simp only [step, hCopy]
          rwa [hSame]
      | some obj =>
          have hReadable := hInv.is_fresh.is_readable
          rcases RunState.step_status hReadable
            (.reconcile ctx 0 (s.around surroundings)
              faults) with
            hSame | ⟨st, hWrites, hStatus⟩
          · rw [← validation_step] at hSame
            exact evidenceInvariant_of_same hInv hFresh hSame
              hSpec (judged_step_of_same hCopy hSame) hKeeps
          · rw [← validation_step] at hStatus
            cases hWrites with
            | advance hCopy' hAdvance =>
                exact evidenceInvariant_of_advance hInv
                  hFresh hCopy' hAdvance hStatus
  | scan ctx copy surroundings faults =>
      exact evidenceInvariant_of_same hInv hInv.is_fresh rfl
        rfl rfl hKeeps
  | create job =>
      have hValidation :
          (s.step (.create job)).validation =
              s.validation ∧
            (s.step (.create job)).judged = s.judged := by
        simp only [step]
        split
        · exact ⟨rfl, rfl⟩
        · exact ⟨rfl, rfl⟩
      rcases hValidation with ⟨hValidation, hJudged⟩
      exact evidenceInvariant_of_same hInv
        (by rw [hValidation]; exact hInv.is_fresh)
        (by rw [hValidation]) hSpec hJudged hKeeps
  | delete «namespace» name =>
      exact evidenceInvariant_of_same hInv hInv.is_fresh rfl
        rfl rfl hKeeps

/-
  In a run that leaves hashed evidence alone, the gate judges
  what was hashed.
-/
theorem judgesHashed_of_keepsEvidence
    (metadata : ObjectMeta)
    (spec : AkeylessImageValidationSpec)
    (jobs : List (Stored ScanJobSpec))
    (events : List Event)
    (hKeeps :
      Run.Allowed step KeepsEvidence
        (created metadata spec jobs) events) :
    JudgesHashed
      (Run.run step (created metadata spec jobs) events) :=
  (Run.invariant_run EvidenceInvariant
    (fun _ _ hInv hKeep => evidenceInvariant_step hInv hKeep)
    (evidenceInvariant_created metadata spec jobs)
    hKeeps).judges_hashed

end ChildRun

namespace Reference

/- The JSON text of one critical finding. -/
def criticalBytes : List UInt8 :=
  ("[\x7b\"scanner\":\"Trivy\"," ++
    "\"cveId\":\"CVE-2026-0001\"," ++
    "\"severity\":\"Critical\"," ++
    "\"firstSeen\":\"1970-01-01T00:00:00Z\"\x7d]"
    ).toUTF8.data.toList

/- JSON text that can also be written of this finding. -/
abbrev criticalSerde : SerdeJson :=
  { serdeJson with
    toVec := fun
      | .arr [.obj [("scanner", .str "Trivy"),
          ("cveId", .str "CVE-2026-0001"),
          ("severity", .str "Critical"),
          ("firstSeen", .str "1970-01-01T00:00:00Z")]] =>
          criticalBytes
      | j => toVec j }

/- A hash that knows the evidence of one critical finding. -/
abbrev criticalBlake3 : Blake3 where
  hashHex bytes :=
    if bytes = criticalBytes then
      "4707750ab8ecadc12227c1dabcf4823b" ++
        "9c11bf6b2d0fe053eb9625e93e646a15"
    else
      blake3.hashHex bytes

/- A trivy scan of the validation that found it. -/
def criticalScan : Stored ScanJobSpec where
  metadata := (childOf .trivy .attested []).metadata
  spec := (childOf .trivy .attested []).spec
  status := some (.obj
    [("phase", .str "Attested"),
      ("findings", .arr [.obj [("scanner", .str "Trivy"),
        ("cveId", .str "CVE-2026-0001"),
        ("severity", .str "Critical"),
        ("firstSeen", .str "1970-01-01T00:00:00Z")]]),
      ("findingsCount", .ofInt 1)])

/- The scan jobs of the other scanners are deleted. -/
def onlyTrivy : List ChildRun.Event :=
  ["grype", "syft", "trufflehog", "kubebench",
    "kubehunter", "polaris", "stig"].map (fun scanner =>
      .delete "validation" ("sj-" ++ scanner ++ "-auth-00"))

/- From creation until the gate is to decide. -/
def untilGate : List ChildRun.Event :=
  [.validation ctx emptyCluster [],
    .validation ctx withTenant []] ++ onlyTrivy ++
    [.validation ctx emptyCluster [],
      .validation ctx emptyCluster [],
      .validation ctx emptyCluster []]

end Reference

namespace ChildRun

local instance : SerdeJson := Reference.criticalSerde

local instance : Blake3 := Reference.criticalBlake3

/-
  The scan job with the critical finding is deleted after the
  finding was hashed: the gate judges no children at all.
-/
theorem not_judgesHashed_deletedScan :
    ¬ JudgesHashed
      (Run.run step
        (created (Reference.metadata "auth-00")
          Reference.validationSpec [Reference.criticalScan])
        (Reference.untilGate ++
          [.delete "validation" "sj-trivy-auth-00",
            .validation Reference.ctx
              Reference.emptyCluster []])) := by
  intro hJudges
  rcases hJudges (by decide +kernel) with
    ⟨children, ⟨hJudged, _⟩, hHash⟩
  obtain rfl : children = [] := by
    refine Option.some.inj (hJudged.symm.trans ?_)
    decide +kernel
  exact absurd hHash (by decide +kernel)

/- The same run, but the scan job stays until the gate. -/
theorem judgesHashed_of_keepsEvidence_kept :
    JudgesHashed
      (Run.run step
        (created (Reference.metadata "auth-00")
          Reference.validationSpec [Reference.criticalScan])
        (Reference.untilGate ++
          [.validation Reference.ctx
            Reference.emptyCluster []])) :=
  judgesHashed_of_keepsEvidence
    (Reference.metadata "auth-00") Reference.validationSpec
    [Reference.criticalScan] _ (by decide +kernel)

end ChildRun

end EngenhoPromessa
