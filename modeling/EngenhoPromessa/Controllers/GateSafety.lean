import EngenhoPromessa.Controllers.PhaseStep
import EngenhoPromessa.External.Reference

/-
  What the gate lets through.

  Each safety property of the gate is stated over the
  validation, the children and the spec it works on, next to
  the condition on these under which the gate has it.

  Key definitions include:
    * `ImageValidation.BlocksCritical`
    * `ImageValidation.ProvesScannerRan`
    * `ImageValidation.BlocksUnattested`

  Key theorems include:
    * `ImageValidation.blocksCritical_iff`
    * `ImageValidation.provesScannerRan_iff`
    * `ImageValidation.blocksUnattested_iff`
-/

------------------------------------------------------------
-- Reference Objects
------------------------------------------------------------

namespace EngenhoPromessa

namespace Reference

/- A context with no switch set and a clock that stands. -/
def ctx : ReconcileCtx where
  «namespace» := some "validation"
  env := fun _ => none
  clock := fun _ => second 0

/- A cluster that stores nothing. -/
def emptyCluster : Cluster where
  validations := []
  tenants := []
  scanJobs := []
  jobs := []
  pods := []
  configMaps := []
  services := []

/- The metadata of an object of the reference. -/
def metadata (name : String) : ObjectMeta where
  name := some name
  «namespace» := some "validation"
  labels := []
  ownerReferences := []
  uid := some ("uid-" ++ name)
  generation := some 1

/- The spec of a validation of the reference. -/
def validationSpec : AkeylessImageValidationSpec where
  imageDigest := "sha256:00"
  imageRepo := "ghcr.io/akeylesslabs/akeyless-auth"
  service := "auth"
  promessaRef := "akeyless-nix-images-fedramp-scr"
  pack := "fedramp-high"
  keepFor := none

/- A validation of the reference spec at a given phase. -/
def validationAt
    (phase : AkeylessImageValidationPhase) :
    AkeylessImageValidation where
  metadata := metadata "auth-00"
  spec := validationSpec
  status := some { AkeylessImageValidationStatus.default with
    phase := some phase }

/- A child of the reference validation. -/
def childOf
    (scanner : RequiredScanner)
    (phase : ScanJobPhase)
    (findings : List ScanFinding) : ScanJob where
  metadata :=
    metadata ("sj-" ++ scannerKebab scanner ++ "-auth-00")
  spec :=
    { scanner := scannerKindFromRequired scanner
      scannerClass := scannerClassFor scanner
      targetDigest := some
        ("ghcr.io/akeylesslabs/akeyless-auth@sha256:00")
      targetSource := none
      targetTenantUrl := none
      parentValidation := "auth-00"
      pack := "fedramp-high"
      imageOverride := none }
  status := some
    { phase := some phase
      processRef := none
      findings := findings
      findingsCount := findings.length
      attestationRef := none
      conditions := []
      observedGeneration := 1 }

/- What the trufflehog parser makes of a verified secret. -/
def verifiedSecret : ScanFinding where
  scanner := .trufflehog
  cveId := none
  severity := .critical
  firstSeen := second 0
  fixedIn := none
  exceptionId := none
  cvssV3 := none
  message := some "verified secret (AWS) at src/cfg.go"

end Reference

end EngenhoPromessa

------------------------------------------------------------
-- Critical Findings
------------------------------------------------------------

namespace EngenhoPromessa

namespace ImageValidation

variable [PromessaSerde]

/- The children report a critical finding no one excepted. -/
def ReportsCritical (children : List ScanJob) : Prop :=
  ∃ c ∈ children, ∃ f ∈ childFindings c,
    isUnexceptedCritical f = true

/- The same, for a finding that carries a CVE id. -/
def ReportsCriticalCve (children : List ScanJob) : Prop :=
  ∃ c ∈ children, ∃ f ∈ childFindings c,
    isUnexceptedCritical f = true ∧ f.cveId.isSome = true

/- A reported critical finding keeps the gate from passing. -/
def BlocksCritical
    (ctx : ReconcileCtx)
    (obj : AkeylessImageValidation)
    (children : List ScanJob) : Prop :=
  ReportsCritical children →
    (gateDecisionOf ctx
      (securitySpecFor ctx.env obj.spec.promessaRef) obj
      children).verdict ≠ .passed

/-
  The verdict fails exactly when a critical finding with a
  `cve_id` is reported.
-/
theorem verdict_ne_passed_iff
    (ctx : ReconcileCtx)
    (spec : SecuritySpec)
    (obj : AkeylessImageValidation)
    (children : List ScanJob) :
    (gateDecisionOf ctx spec obj children).verdict ≠
        .passed ↔
      ReportsCriticalCve children := by
  rw [ne_eq, verdict_gateDecisionOf_eq_passed_iff, not_not]
  rfl

/-
  The gate blocks critical findings exactly when one of
  them, if there are any, has a `cve_id`.
-/
theorem blocksCritical_iff
    (ctx : ReconcileCtx)
    (obj : AkeylessImageValidation)
    (children : List ScanJob) :
    BlocksCritical ctx obj children ↔
      (ReportsCritical children →
        ReportsCriticalCve children) := by
  rw [BlocksCritical, verdict_ne_passed_iff]

end ImageValidation

namespace ImageValidation

/-
  A secret has no CVE id: the drift does not mention it, and
  the image passes.
-/
theorem not_blocksCritical_verifiedSecret :
    ¬ BlocksCritical Reference.ctx
      (Reference.validationAt .gating)
      [Reference.childOf .trufflehog .attested
        [Reference.verifiedSecret]] := by
  intro hBlocks
  refine hBlocks ⟨_, List.Mem.head _,
    Reference.verifiedSecret, List.Mem.head _, rfl⟩ ?_
  decide

end ImageValidation

end EngenhoPromessa

------------------------------------------------------------
-- Missing Scanners
------------------------------------------------------------

namespace EngenhoPromessa

namespace ImageValidation

open SecurityController

/- The scanner is among the missing ones of the drift. -/
def IsMissingScanner
    (ctx : ReconcileCtx)
    (obj : AkeylessImageValidation)
    (children : List ScanJob)
    (s : RequiredScanner) : Prop :=
  ∃ entry ∈
      (diff (securitySpecFor ctx.env obj.spec.promessaRef)
        (buildSecuritySnapshot ctx.clock obj
          children)).missingScanners,
    s ∈ entry.2

/- A scan job of this scanner exists. -/
def HasChildOf
    (children : List ScanJob)
    (s : RequiredScanner) : Prop :=
  ∃ c ∈ children,
    c.spec.scanner = scannerKindFromRequired s

/- A scan job of this scanner ran to its end. -/
def HasAttestedChildOf
    (children : List ScanJob)
    (s : RequiredScanner) : Prop :=
  ∃ c ∈ children,
    c.spec.scanner = scannerKindFromRequired s ∧
      c.phase = some .attested

/- A required scanner that is not missing has run. -/
def ProvesScannerRan
    (ctx : ReconcileCtx)
    (obj : AkeylessImageValidation)
    (children : List ScanJob)
    (s : RequiredScanner) : Prop :=
  s ∈ (securitySpecFor ctx.env
      obj.spec.promessaRef).requiredScanners →
    ¬ IsMissingScanner ctx obj children s →
      HasAttestedChildOf children s

/-
  A required scanner is missing when no child is of its
  kind.
-/
theorem isMissingScanner_iff
    (ctx : ReconcileCtx)
    (obj : AkeylessImageValidation)
    (children : List ScanJob)
    (s : RequiredScanner) :
    IsMissingScanner ctx obj children s ↔
      s ∈ (securitySpecFor ctx.env
          obj.spec.promessaRef).requiredScanners ∧
        ¬ HasChildOf children s := by
  rw [IsMissingScanner,
    exists_mem_missingScanners_diff_iff,
    mem_missingScannersOf_snapshot_iff]
  rfl

/-
  A scanner that is not missing ran, exactly when a required
  one with a child also has an attested child.
-/
theorem provesScannerRan_iff
    (ctx : ReconcileCtx)
    (obj : AkeylessImageValidation)
    (children : List ScanJob)
    (s : RequiredScanner) :
    ProvesScannerRan ctx obj children s ↔
      (s ∈ (securitySpecFor ctx.env
          obj.spec.promessaRef).requiredScanners →
        HasChildOf children s →
          HasAttestedChildOf children s) := by
  rw [ProvesScannerRan, isMissingScanner_iff]
  constructor
  · intro hProves hRequired hChild
    exact hProves hRequired (fun hMissing =>
      hMissing.2 hChild)
  · intro hAttested hRequired hPresent
    apply hAttested hRequired
    by_contra hNone
    exact hPresent ⟨hRequired, hNone⟩

/- A scan job that failed counts as a reported scanner. -/
theorem not_provesScannerRan_failed :
    ¬ ProvesScannerRan Reference.ctx
      (Reference.validationAt .gating)
      [Reference.childOf .trivy .failed []] .trivy := by
  intro hProves
  have hRequired :
      RequiredScanner.trivy ∈
        (securitySpecFor Reference.ctx.env
          (Reference.validationAt
            .gating).spec.promessaRef).requiredScanners := by
    decide
  have hPresent :
      ¬ IsMissingScanner Reference.ctx
        (Reference.validationAt .gating)
        [Reference.childOf .trivy .failed []] .trivy := by
    unfold IsMissingScanner
    decide
  rcases hProves hRequired hPresent with
    ⟨c, hc, _, hAttested⟩
  rw [List.mem_singleton.mp hc] at hAttested
  exact absurd hAttested (by decide)

end ImageValidation

end EngenhoPromessa

------------------------------------------------------------
-- Missing Attestations
------------------------------------------------------------

namespace EngenhoPromessa

namespace ImageValidation

variable [PromessaSerde]

/- The observation of the digest lacks an attestation. -/
def LacksAttestation
    (ctx : ReconcileCtx)
    (spec : SecuritySpec)
    (obj : AkeylessImageValidation)
    (children : List ScanJob) : Prop :=
  ∃ obs ∈ (buildSecuritySnapshot ctx.clock obj
      children).imageDigests,
    ∃ a ∈ spec.requiredAttestations,
      a ∉ obs.attestationsPresent

/- Without its attestations a digest does not pass. -/
def BlocksUnattested
    (ctx : ReconcileCtx)
    (spec : SecuritySpec)
    (obj : AkeylessImageValidation)
    (children : List ScanJob) : Prop :=
  LacksAttestation ctx spec obj children →
    (gateDecisionOf ctx spec obj children).verdict ≠
        .passed ∧
      (gatedStatus ctx spec obj children).phase ≠
        some .passed

omit [PromessaSerde] in
/- No attestation is ever observed. -/
theorem lacksAttestation_iff
    (ctx : ReconcileCtx)
    (spec : SecuritySpec)
    (obj : AkeylessImageValidation)
    (children : List ScanJob) :
    LacksAttestation ctx spec obj children ↔
      ∃ a, a ∈ spec.requiredAttestations := by
  simp [LacksAttestation, buildSecuritySnapshot]

/- The phase passes with the verdict. -/
theorem phase_gatedStatus_eq_passed_iff
    (ctx : ReconcileCtx)
    (spec : SecuritySpec)
    (obj : AkeylessImageValidation)
    (children : List ScanJob) :
    (gatedStatus ctx spec obj children).phase =
        some .passed ↔
      (gateDecisionOf ctx spec obj children).verdict =
        .passed := by
  simp only [gatedStatus, Option.some.injEq]
  cases (gateDecisionOf ctx spec obj children).verdict with
  | passed => simp [GateVerdict.phase]
  | failed => simp [GateVerdict.phase]
  | quarantined => simp [GateVerdict.phase]

/-
  The gate blocks an unattested image exactly when no
  attestation is required or a critical finding blocks it.
-/
theorem blocksUnattested_iff
    (ctx : ReconcileCtx)
    (spec : SecuritySpec)
    (obj : AkeylessImageValidation)
    (children : List ScanJob) :
    BlocksUnattested ctx spec obj children ↔
      ((∃ a, a ∈ spec.requiredAttestations) →
        ReportsCriticalCve children) := by
  rw [BlocksUnattested, lacksAttestation_iff, ne_eq, ne_eq,
    phase_gatedStatus_eq_passed_iff, and_self, ← ne_eq,
    verdict_ne_passed_iff]

end ImageValidation

namespace ImageValidation

/-
  With no child at all the digest is unattested and unscanned
  and still passes.
-/
theorem not_blocksUnattested_default :
    ¬ BlocksUnattested Reference.ctx SecuritySpec.default
      (Reference.validationAt .gating) [] := by
  intro hBlocks
  have hLacks :
      LacksAttestation Reference.ctx SecuritySpec.default
        (Reference.validationAt .gating) [] :=
    ⟨_, List.Mem.head _, .cosignSig, by decide, by decide⟩
  exact (hBlocks hLacks).1 (by decide)

end ImageValidation

end EngenhoPromessa
