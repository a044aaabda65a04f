import EngenhoPromessa.Controllers.Cluster
import EngenhoPromessa.ScannerCatalog.Catalog
import EngenhoPromessa.SecurityController.Drift

/-
  The gate: from a validation and its child scan jobs to a
  snapshot, a decision and a verdict.

  Key definitions include:
    * `securitySpecFor`
    * `buildSecuritySnapshot`
    * `gateOutcome`
    * `formatDriftReason`
    * `gateDecisionOf`

  Key theorems include:
    * `verdict_gateDecisionOf_eq_passed_iff`
    * `classify_snapshot_eq_critical_iff`
-/

------------------------------------------------------------
-- Scanners
------------------------------------------------------------

namespace EngenhoPromessa

/- `scanner_kebab`, the scanner's part of a scan job's name. -/
def scannerKebab : RequiredScanner → String
| .trivy => "trivy"
| .grype => "grype"
| .syft => "syft"
| .trufflehog => "trufflehog"
| .semgrep => "semgrep"
| .kubeLinter => "kubelinter"
| .kubeBench => "kubebench"
| .kubeHunter => "kubehunter"
| .polaris => "polaris"
| .stigCisValidator => "stig"
| .zap => "zap"
| .snyk => "snyk"
| .dockerScout => "scout"
| .jfrogXray => "xray"
| .wiz => "wiz"
| .prismaCloud => "prisma"
| .burpEnterprise => "burp"
| .codeql => "codeql"

/- `scanner_kind_from_required`, a table of names. -/
def scannerKindFromRequired : RequiredScanner → ScannerKind
| .trivy => .trivy
| .grype => .grype
| .syft => .syft
| .trufflehog => .trufflehog
| .semgrep => .semgrep
| .kubeLinter => .kubeLinter
| .kubeBench => .kubeBench
| .kubeHunter => .kubeHunter
| .polaris => .polaris
| .stigCisValidator => .stigCisValidator
| .zap => .zap
| .snyk => .snyk
| .dockerScout => .dockerScout
| .jfrogXray => .jfrogXray
| .wiz => .wiz
| .prismaCloud => .prismaCloud
| .burpEnterprise => .burpEnterprise
| .codeql => .codeql

/- `scanner_required_from_kind`, the table backwards. -/
def scannerRequiredFromKind : ScannerKind → RequiredScanner
| .trivy => .trivy
| .grype => .grype
| .syft => .syft
| .trufflehog => .trufflehog
| .semgrep => .semgrep
| .kubeLinter => .kubeLinter
| .kubeBench => .kubeBench
| .kubeHunter => .kubeHunter
| .polaris => .polaris
| .stigCisValidator => .stigCisValidator
| .zap => .zap
| .snyk => .snyk
| .dockerScout => .dockerScout
| .jfrogXray => .jfrogXray
| .wiz => .wiz
| .prismaCloud => .prismaCloud
| .burpEnterprise => .burpEnterprise
| .codeql => .codeql

/- The two tables are inverse on scanners, -/
@[simp] theorem scannerRequiredFromKind_fromRequired
    (s : RequiredScanner) :
    scannerRequiredFromKind (scannerKindFromRequired s) =
      s := by
  cases s <;> rfl

/- and on kinds. -/
@[simp] theorem scannerKindFromRequired_fromKind
    (k : ScannerKind) :
    scannerKindFromRequired (scannerRequiredFromKind k) =
      k := by
  cases k <;> rfl

/- `scanner_class_for`, the class a scanner attests. -/
def scannerClassFor : RequiredScanner → ScannerClass
| .trivy => .cve
| .grype => .cve
| .snyk => .cve
| .dockerScout => .cve
| .jfrogXray => .cve
| .wiz => .cve
| .prismaCloud => .cve
| .syft => .cve
| .trufflehog => .sast
| .semgrep => .sast
| .codeql => .sast
| .kubeLinter => .hardening
| .kubeBench => .hardening
| .kubeHunter => .hardening
| .polaris => .hardening
| .stigCisValidator => .hardening
| .burpEnterprise => .dast
| .zap => .dast

/- `map_severity`, grade by grade. -/
def mapSeverity : ScanFindingSeverity → FindingSeverity
| .low => .low
| .medium => .medium
| .high => .high
| .critical => .critical

end EngenhoPromessa

------------------------------------------------------------
-- Specs And Snapshots
------------------------------------------------------------

namespace EngenhoPromessa

/- `VALIDATION_SCAN_ONLY` drops attestations from the spec. -/
def scanOnlyMode (env : Env) : Bool :=
  env.isOn "VALIDATION_SCAN_ONLY"

/- `DAST_ENABLED` asks for the dynamic scanners. -/
def dastEnabled (env : Env) : Bool :=
  env.isOn "DAST_ENABLED"

/- `SAST_SOURCE_ENABLED` asks for the source scanners. -/
def sastSourceEnabled (env : Env) : Bool :=
  env.isOn "SAST_SOURCE_ENABLED"

/- The promessa reference is not looked at. -/
def securitySpecFor
    (env : Env)
    (_promessaRef : String) : SecuritySpec :=
  let spec : SecuritySpec :=
    if scanOnlyMode env then .scanOnly else .default
  { spec with
    requiredScanners := spec.requiredScanners.retain
      (fun s =>
        match (Catalog.forKind
            (scannerKindFromRequired s)).targetField with
        | .tenantUrl => dastEnabled env
        | .source => sastSourceEnabled env
        | .digest => true
        | .none => true) }

/- Trivy scans digests, which no switch turns off. -/
theorem trivy_mem_requiredScanners
    (env : Env)
    (promessaRef : String) :
    RequiredScanner.trivy ∈
      (securitySpecFor env promessaRef).requiredScanners := by
  have hBase :
      RequiredScanner.trivy ∈
        (if scanOnlyMode env then SecuritySpec.scanOnly
          else SecuritySpec.default).requiredScanners := by
    split
    · decide
    · decide
  exact (BTreeSet.mem_retain _ _ _).mpr ⟨hBase, rfl⟩

/- A finding of a scan job as the gate sees it. -/
def toFinding (f : ScanFinding) : Finding where
  scanner := scannerRequiredFromKind f.scanner
  cveId := f.cveId
  severity := mapSeverity f.severity
  firstSeen := f.firstSeen
  fixedIn := f.fixedIn
  exceptionId := f.exceptionId

/- The findings a scan job's status carries, if any. -/
def childFindings (c : ScanJob) : List ScanFinding :=
  match c.status with
  | none => []
  | some st => st.findings

/-
  Every child counts as a reported scanner, and no
  attestation is observed.
-/
def buildSecuritySnapshot
    (clock : ClockRead → DateTime)
    (parent : AkeylessImageValidation)
    (children : List ScanJob) : SecuritySnapshot where
  imageDigests :=
    [{ digest := parent.spec.imageDigest
       service := parent.spec.service
       cartorioStatus := .pending
       findings := children.flatMap (fun c =>
         (childFindings c).map toFinding)
       attestationsPresent := ∅
       scannersReported := .ofList
         (children.map (fun c =>
           scannerRequiredFromKind c.spec.scanner)) }]
  observedAt := clock .observedAt

end EngenhoPromessa

------------------------------------------------------------
-- Decisions And Verdicts
------------------------------------------------------------

namespace EngenhoPromessa

/- The verdict and the action JSON of a decision. -/
def gateOutcome
    [PromessaSerde]
    (severity : Severity) :
    Decision → GateVerdict × Json
| .noAction => (.passed, .obj [])
| .autoCorrect action =>
    (if severity = .critical then .failed else .passed,
      (PromessaSerde.actionToValue action).getD (.obj []))
| .requireApproval action =>
    (.quarantined,
      (PromessaSerde.actionToValue action).getD (.obj []))
| .alert => (.passed, .obj [])
| .suppressedAfterRepeatedFailure failureCount =>
    (.quarantined,
      .obj [("suppressed", .bool true),
        ("failure_count", .ofInt failureCount)])

/- One part of the reason, left out when there is nothing. -/
def driftBit (count : Nat) (what : String) : List String :=
  if count = 0 then [] else [toString count ++ " " ++ what]

/- `format_drift_reason`, one bit for each part of a drift. -/
def formatDriftReason (drift : SecurityDrift) : String :=
  let bits :=
    driftBit drift.criticalCves.length "critical CVE(s)" ++
    driftBit drift.agedHighCves.length "aged High CVE(s)" ++
    driftBit drift.agedMediumCves.length
      "aged Medium CVE(s)" ++
    driftBit drift.missingAttestations.length
      "missing attestation(s)" ++
    driftBit drift.missingScanners.length
      "missing scanner(s)" ++
    driftBit drift.revokedOrQuarantined.length
      "revoked/quarantined"
  if bits.isEmpty then
    "no drift"
  else
    String.intercalate "; " bits

/- The decision of the gate over the children it reads. -/
def gateDecisionOf
    [PromessaSerde]
    (ctx : ReconcileCtx)
    (spec : SecuritySpec)
    (obj : AkeylessImageValidation)
    (children : List ScanJob) : GateDecision :=
  let snapshot :=
    buildSecuritySnapshot ctx.clock obj children
  let drift := SecurityController.diff spec snapshot
  let severity := SecurityController.classify drift
  let decision :=
    SecurityController.decide spec severity drift
  let (verdict, actionJson) := gateOutcome severity decision
  { severity := severity.debugName
    verdict := verdict
    action :=
      if scanOnlyMode ctx.env then .obj [] else actionJson
    reason := some (formatDriftReason drift)
    decidedAt := ctx.clock .decidedAt }

end EngenhoPromessa

------------------------------------------------------------
-- The Status The Gate Writes
------------------------------------------------------------

namespace EngenhoPromessa

/- The status a gating turn decides. -/
def gatedStatus
    [PromessaSerde]
    (ctx : ReconcileCtx)
    (spec : SecuritySpec)
    (obj : AkeylessImageValidation)
    (children : List ScanJob) :
    AkeylessImageValidationStatus :=
  let decision := gateDecisionOf ctx spec obj children
  { obj.statusOrDefault with
    gateDecision := some decision
    phase := some decision.verdict.phase
    terminalAt := some (ctx.clock .terminalAt)
    observedGeneration := obj.generation }

end EngenhoPromessa

------------------------------------------------------------
-- Drift Of A Gate Snapshot
------------------------------------------------------------

namespace EngenhoPromessa

open SecurityController

/- A critical finding that no exception covers. -/
def isUnexceptedCritical (f : ScanFinding) : Bool :=
  f.severity = .critical ∧ f.exceptionId = none

/-
  A finding counts as a critical one when it has a `cve_id`
  and no exception.
-/
theorem isCriticalCve_toFinding (f : ScanFinding) :
    isCriticalCve (toFinding f) =
      (isUnexceptedCritical f && f.cveId.isSome) := by
  rcases f with
    ⟨scanner, cveId, severity, firstSeen, fixedIn,
      exceptionId, cvssV3, message⟩
  cases severity <;> cases exceptionId <;>
    simp [isCriticalCve, isUnexceptedCritical, toFinding,
      mapSeverity, reportedCve]

/-
  A drift is critical exactly when some child reports an
  unexcepted critical finding with a `cve_id`.
-/
theorem classify_snapshot_eq_critical_iff
    (clock : ClockRead → DateTime)
    (spec : SecuritySpec)
    (obj : AkeylessImageValidation)
    (children : List ScanJob) :
    classify (diff spec
        (buildSecuritySnapshot clock obj children)) =
        .critical ↔
      ∃ c ∈ children, ∃ f ∈ childFindings c,
        isUnexceptedCritical f = true ∧
          f.cveId.isSome = true := by
  rw [classify_diff_eq_critical_iff]
  simp only [buildSecuritySnapshot, List.mem_singleton,
    exists_eq_left, isWithdrawn, Bool.false_eq_true,
    false_or, List.mem_flatMap, List.mem_map]
  constructor
  · rintro ⟨_, ⟨c, hc, f, hf, rfl⟩, hCritical⟩
    rw [isCriticalCve_toFinding, Bool.and_eq_true]
      at hCritical
    exact ⟨c, hc, f, hf, hCritical⟩
  · rintro ⟨c, hc, f, hf, hCritical⟩
    refine ⟨toFinding f, ⟨c, hc, f, hf, rfl⟩, ?_⟩
    rw [isCriticalCve_toFinding, Bool.and_eq_true]
    exact hCritical

/- A required scanner is missing when no child has its kind. -/
theorem mem_missingScannersOf_snapshot_iff
    (clock : ClockRead → DateTime)
    (spec : SecuritySpec)
    (obj : AkeylessImageValidation)
    (children : List ScanJob)
    (s : RequiredScanner) :
    (∃ obs ∈ (buildSecuritySnapshot clock obj
        children).imageDigests,
      s ∈ missingScannersOf spec obs) ↔
      s ∈ spec.requiredScanners ∧
        ¬ ∃ c ∈ children,
          c.spec.scanner = scannerKindFromRequired s := by
  simp only [buildSecuritySnapshot, List.mem_singleton,
    exists_eq_left, missingScannersOf,
    BTreeSet.mem_difference, BTreeSet.mem_ofList,
    List.mem_map]
  have hKind :
      ∀ c : ScanJob,
        scannerRequiredFromKind c.spec.scanner = s ↔
          c.spec.scanner = scannerKindFromRequired s := by
    intro c
    constructor
    · rintro rfl
      exact (scannerKindFromRequired_fromKind _).symm
    · intro hEq
      rw [hEq, scannerRequiredFromKind_fromRequired]
  simp only [hKind]

end EngenhoPromessa

------------------------------------------------------------
-- The Verdict
------------------------------------------------------------

namespace EngenhoPromessa

open SecurityController

/- `decide` only corrects, alerts or does nothing. -/
theorem verdict_gateOutcome_decide
    [PromessaSerde]
    (spec : SecuritySpec)
    (severity : Severity)
    (drift : SecurityDrift) :
    (gateOutcome severity
        (SecurityController.decide spec severity drift)).1 =
      if severity = .critical then .failed else .passed := by
  cases severity with
  | critical => rfl
  | functional =>
      simp only [SecurityController.decide]
      split
      · rfl
      · rfl
  | cosmetic =>
      simp only [SecurityController.decide]
      split
      · rfl
      · rfl

/- Only a critical drift fails the gate. -/
theorem verdict_gateDecisionOf
    [PromessaSerde]
    (ctx : ReconcileCtx)
    (spec : SecuritySpec)
    (obj : AkeylessImageValidation)
    (children : List ScanJob) :
    (gateDecisionOf ctx spec obj children).verdict =
      if classify (diff spec
          (buildSecuritySnapshot ctx.clock obj children)) =
          .critical then
        .failed
      else
        .passed :=
  verdict_gateOutcome_decide spec _ _

/- Only a critical finding with a CVE fails the gate. -/
theorem verdict_gateDecisionOf_eq_passed_iff
    [PromessaSerde]
    (ctx : ReconcileCtx)
    (spec : SecuritySpec)
    (obj : AkeylessImageValidation)
    (children : List ScanJob) :
    (gateDecisionOf ctx spec obj children).verdict =
        .passed ↔
      ¬ ∃ c ∈ children, ∃ f ∈ childFindings c,
        isUnexceptedCritical f = true ∧
          f.cveId.isSome = true := by
  rw [verdict_gateDecisionOf,
    ← classify_snapshot_eq_critical_iff ctx.clock spec obj]
  split
  · rename_i hCritical
    simp [hCritical]
  · rename_i hNot
    simp [hNot]

/- The action is empty or a serialized composition. -/
theorem action_gateDecisionOf_eq_or
    [PromessaSerde]
    (ctx : ReconcileCtx)
    (spec : SecuritySpec)
    (obj : AkeylessImageValidation)
    (children : List ScanJob) :
    (gateDecisionOf ctx spec obj children).action =
        .obj [] ∨
      ∃ steps, PromessaSerde.actionToValue (.compose steps) =
        some (gateDecisionOf ctx spec obj children).action := by
  have hValue :
      ∀ steps,
        (PromessaSerde.actionToValue (.compose steps)).getD
              (.obj []) = .obj [] ∨
          ∃ steps', PromessaSerde.actionToValue
              (.compose steps') =
            some ((PromessaSerde.actionToValue
              (.compose steps)).getD (.obj [])) := by
    intro steps
    cases hSome :
        PromessaSerde.actionToValue (.compose steps) with
    | none => exact Or.inl rfl
    | some j => exact Or.inr ⟨steps, hSome⟩
  have hOutcome :
      ∀ severity drift,
        (gateOutcome severity
            (SecurityController.decide spec severity
              drift)).2 = .obj [] ∨
          ∃ steps, PromessaSerde.actionToValue
              (.compose steps) =
            some (gateOutcome severity
              (SecurityController.decide spec severity
                drift)).2 := by
    intro severity drift
    cases severity with
    | critical => exact hValue _
    | functional =>
        simp only [SecurityController.decide]
        split
        · exact Or.inl rfl
        · exact hValue _
    | cosmetic =>
        simp only [SecurityController.decide]
        split
        · exact Or.inl rfl
        · exact hValue _
  simp only [gateDecisionOf]
  split
  · exact Or.inl rfl
  · exact hOutcome _ _

/- The action of a decision is never null. -/
theorem action_gateDecisionOf_ne_null
    [PromessaSerde]
    (ctx : ReconcileCtx)
    (spec : SecuritySpec)
    (obj : AkeylessImageValidation)
    (children : List ScanJob) :
    (gateDecisionOf ctx spec obj children).action ≠
      .null := by
  rcases action_gateDecisionOf_eq_or ctx spec obj children
    with hEmpty | ⟨steps, hSome⟩
  · simp [hEmpty]
  · exact PromessaSerde.actionToValue_ne_null hSome

end EngenhoPromessa
