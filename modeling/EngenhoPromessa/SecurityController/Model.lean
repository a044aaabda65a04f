import EngenhoPromessa.Collections.BTreeSet
import EngenhoPromessa.PromessaTypes.Action
import EngenhoPromessa.External.Crates

/-
  The security controller: a promessa spec, a snapshot of
  the observed digests, the drift between the two, and the
  decision the drift leads to.

  Key definitions include:
    * `SecuritySpec`
    * `SecuritySnapshot`
    * `SecurityDrift`
    * `SecurityController.diff`
    * `SecurityController.classify`
    * `SecurityController.decide`
-/

------------------------------------------------------------
-- Specs
------------------------------------------------------------

namespace EngenhoPromessa

/- The scanners a promise can require. -/
inductive RequiredScanner where
  | trivy
  | grype
  | syft
  | trufflehog
  | semgrep
  | kubeLinter
  | kubeBench
  | kubeHunter
  | polaris
  | stigCisValidator
  | zap
  | snyk
  | dockerScout
  | jfrogXray
  | wiz
  | prismaCloud
  | burpEnterprise
  | codeql
deriving DecidableEq, Repr

namespace RequiredScanner

instance : LinearOrder RequiredScanner :=
  LinearOrder.lift' RequiredScanner.ctorIdx
    (Function.LeftInverse.injective
      RequiredScanner.ofNat_ctorIdx)

/- How `Debug` prints a scanner. -/
def debugName : RequiredScanner → String
| .trivy => "Trivy"
| .grype => "Grype"
| .syft => "Syft"
| .trufflehog => "Trufflehog"
| .semgrep => "Semgrep"
| .kubeLinter => "KubeLinter"
| .kubeBench => "KubeBench"
| .kubeHunter => "KubeHunter"
| .polaris => "Polaris"
| .stigCisValidator => "StigCisValidator"
| .zap => "Zap"
| .snyk => "Snyk"
| .dockerScout => "DockerScout"
| .jfrogXray => "JfrogXray"
| .wiz => "Wiz"
| .prismaCloud => "PrismaCloud"
| .burpEnterprise => "BurpEnterprise"
| .codeql => "Codeql"

end RequiredScanner

/- The attestations a promise can require. -/
inductive RequiredAttestation where
  | cartorioActive
  | cosignSig
  | sbomSpdx
  | slsaProvenance
deriving DecidableEq, Repr

instance : LinearOrder RequiredAttestation :=
  LinearOrder.lift' RequiredAttestation.ctorIdx
    (Function.LeftInverse.injective
      RequiredAttestation.ofNat_ctorIdx)

/- What is promised of the images. -/
structure SecuritySpec where
  scopeArtifactClass : String
  windowDays : Nat
  maxCriticalAgeDays : Nat
  maxHighAgeDays : Nat
  maxMediumAgeDays : Nat
  requiredAttestations : BTreeSet RequiredAttestation
  requiredScanners : BTreeSet RequiredScanner
  harborForwardingEnabled : Bool
  harborTargetRegistry : String

namespace SecuritySpec

/- `SecuritySpec::default()`. -/
def default : SecuritySpec where
  scopeArtifactClass := "ghcr.io/akeylesslabs/akeyless-*"
  windowDays := 30
  maxCriticalAgeDays := 0
  maxHighAgeDays := 15
  maxMediumAgeDays := 90
  requiredAttestations := .ofList
    [.cartorioActive, .cosignSig, .sbomSpdx,
      .slsaProvenance]
  requiredScanners := .ofList
    [.trivy, .grype, .syft, .trufflehog, .semgrep,
      .kubeLinter, .kubeBench, .kubeHunter, .polaris,
      .stigCisValidator, .zap]
  harborForwardingEnabled := false
  harborTargetRegistry := "registry.secondfront.com"

/- The default pack with attestation turned off. -/
def scanOnly : SecuritySpec :=
  { default with requiredAttestations := ∅ }

end SecuritySpec

end EngenhoPromessa

------------------------------------------------------------
-- Snapshots
------------------------------------------------------------

namespace EngenhoPromessa

/- How bad a finding is. -/
inductive FindingSeverity where
  | low
  | medium
  | high
  | critical
deriving DecidableEq, Repr

/- A finding as the decider sees it. -/
structure Finding where
  scanner : RequiredScanner
  cveId : Option String
  severity : FindingSeverity
  firstSeen : DateTime
  fixedIn : Option String
  exceptionId : Option String
deriving DecidableEq, Repr

namespace Finding

/- How old a finding is, in whole days. -/
def ageDays (f : Finding) (now : DateTime) : Int :=
  now.numDaysSince f.firstSeen

end Finding

/- The status of an artifact in cartorio. -/
inductive CartorioStatus where
  | pending
  | active
  | revoked
  | quarantined
  | superseded
deriving DecidableEq, Repr

/- What was observed of one image. -/
structure DigestObservation where
  digest : String
  service : String
  cartorioStatus : CartorioStatus
  findings : List Finding
  attestationsPresent : BTreeSet RequiredAttestation
  scannersReported : BTreeSet RequiredScanner

/- All that was observed, and when. -/
structure SecuritySnapshot where
  imageDigests : List DigestObservation
  observedAt : DateTime

end EngenhoPromessa

------------------------------------------------------------
-- Drift
------------------------------------------------------------

namespace EngenhoPromessa

/- An entry of the drift for one CVE of an image. -/
structure DigestCveAge where
  digest : String
  service : String
  cveId : String
  scanner : RequiredScanner
  ageDays : Int
deriving DecidableEq, Repr

/- An image that can be forwarded. -/
structure DigestService where
  digest : String
  service : String
deriving DecidableEq, Repr

/- How far a snapshot is from what is promised. -/
@[ext] structure SecurityDrift where
  criticalCves : List DigestCveAge
  agedHighCves : List DigestCveAge
  agedMediumCves : List DigestCveAge
  missingAttestations :
    List (String × List RequiredAttestation)
  missingScanners : List (String × List RequiredScanner)
  revokedOrQuarantined : List String
  allCleanDigests : List DigestService
  totalDigestsObserved : Nat
deriving DecidableEq, Repr

namespace SecurityDrift

/- No drift at all. -/
def default : SecurityDrift where
  criticalCves := []
  agedHighCves := []
  agedMediumCves := []
  missingAttestations := []
  missingScanners := []
  revokedOrQuarantined := []
  allCleanDigests := []
  totalDigestsObserved := 0

end SecurityDrift

end EngenhoPromessa

------------------------------------------------------------
-- Diff
------------------------------------------------------------

namespace EngenhoPromessa

namespace SecurityController

/-
  One round of the loop over an observation's findings. The
  flag says whether the digest is still clean.
-/
def diffFinding
    (spec : SecuritySpec)
    (now : DateTime)
    (obs : DigestObservation)
    (acc : SecurityDrift × Bool)
    (f : Finding) : SecurityDrift × Bool :=
  if f.exceptionId.isSome then
    acc
  else
    match f.cveId with
    | none => acc
    | some cveId =>
        let age := f.ageDays now
        let entry : DigestCveAge :=
          { digest := obs.digest
            service := obs.service
            cveId := cveId
            scanner := f.scanner
            ageDays := age }
        let drift := acc.1
        match f.severity with
        | .critical =>
            ({ drift with
                criticalCves :=
                  drift.criticalCves ++ [entry] }, false)
        | .high =>
            if age > spec.maxHighAgeDays then
              ({ drift with
                  agedHighCves :=
                    drift.agedHighCves ++ [entry] }, false)
            else
              acc
        | .medium =>
            if age > spec.maxMediumAgeDays then
              ({ drift with
                  agedMediumCves :=
                    drift.agedMediumCves ++ [entry] }, false)
            else
              acc
        | .low => acc

/- Cartorio has withdrawn the artifact. -/
def isWithdrawn : CartorioStatus → Bool
| .revoked => true
| .quarantined => true
| .superseded => true
| .active => false
| .pending => false

/- A withdrawn image is noted, and is not clean. -/
def diffCartorio
    (obs : DigestObservation)
    (acc : SecurityDrift × Bool) : SecurityDrift × Bool :=
  if isWithdrawn obs.cartorioStatus then
    ({ acc.1 with
        revokedOrQuarantined :=
          acc.1.revokedOrQuarantined ++ [obs.digest] },
      false)
  else
    acc

/- So is one that lacks an attestation. -/
def diffAttestations
    (spec : SecuritySpec)
    (obs : DigestObservation)
    (acc : SecurityDrift × Bool) : SecurityDrift × Bool :=
  let missingAtts :=
    spec.requiredAttestations.difference
      obs.attestationsPresent
  if missingAtts.isEmpty then
    acc
  else
    ({ acc.1 with
        missingAttestations :=
          acc.1.missingAttestations ++
            [(obs.digest, missingAtts)] }, false)

/- And one that some scanner has not reported on. -/
def diffScanners
    (spec : SecuritySpec)
    (obs : DigestObservation)
    (acc : SecurityDrift × Bool) : SecurityDrift × Bool :=
  let missingScanners :=
    spec.requiredScanners.difference obs.scannersReported
  if missingScanners.isEmpty then
    acc
  else
    ({ acc.1 with
        missingScanners :=
          acc.1.missingScanners ++
            [(obs.digest, missingScanners)] }, false)

/- One round of the loop over the observed digests. -/
def diffObservation
    (spec : SecuritySpec)
    (now : DateTime)
    (drift : SecurityDrift)
    (obs : DigestObservation) : SecurityDrift :=
  let acc := diffCartorio obs (drift, true)
  let acc := diffAttestations spec obs acc
  let acc := diffScanners spec obs acc
  let acc := obs.findings.foldl (diffFinding spec now obs) acc
  if acc.2 && obs.cartorioStatus == .active then
    { acc.1 with
      allCleanDigests :=
        acc.1.allCleanDigests ++
          [{ digest := obs.digest
             service := obs.service }] }
  else
    acc.1

/- One turn for each image, in the order observed. -/
def diff
    (spec : SecuritySpec)
    (snapshot : SecuritySnapshot) : SecurityDrift :=
  snapshot.imageDigests.foldl
    (diffObservation spec snapshot.observedAt)
    { SecurityDrift.default with
      totalDigestsObserved := snapshot.imageDigests.length }

end SecurityController

end EngenhoPromessa

------------------------------------------------------------
-- Classify And Decide
------------------------------------------------------------

namespace EngenhoPromessa

namespace SecurityController

/- How bad the drift is as a whole. -/
def classify (drift : SecurityDrift) : Severity :=
  if !drift.criticalCves.isEmpty ||
      !drift.revokedOrQuarantined.isEmpty then
    .critical
  else if !drift.agedHighCves.isEmpty ||
      !drift.missingAttestations.isEmpty ||
      !drift.missingScanners.isEmpty then
    .functional
  else
    .cosmetic

/- The three actions of a critical finding. -/
def criticalActions (c : DigestCveAge) : List TypedAction :=
  [ .reconcilerApply .cartorioAdmit
      (.obj
        [("digest", .str c.digest),
          ("transition", .str "Revoked"),
          ("reason", .str
            ("Critical CVE " ++ c.cveId ++ " via " ++
              c.scanner.debugName))]),
    .reconcilerApply .ghcrTagRevoke
      (.obj
        [("repo", .str
            ("akeylesslabs/akeyless-" ++ c.service)),
          ("tag", .str "release"),
          ("reason", .str c.cveId)]),
    .fluxCommit
      "helmworks-akeyless/architectures/fedramp-high.yaml"
      (.obj
        [("service", .str c.service),
          ("pin_to_previous_known_good", .bool true),
          ("reason", .str
            ("Critical CVE " ++ c.cveId))]) ]

/- The reconciler that provides an attestation. -/
def attestationReconciler :
    RequiredAttestation → ReconcilerKind
| .cartorioActive => .cartorioAdmit
| .cosignSig => .cosignAttest
| .sbomSpdx => .sbomGenerate
| .slsaProvenance => .slsaProvenance

/- Asks for an attestation again. -/
def attestationAction
    (digest : String)
    (att : RequiredAttestation) : TypedAction :=
  .reconcilerApply (attestationReconciler att)
    (.obj [("digest", .str digest), ("force", .bool true)])

/- Asks for a newer base image. -/
def agedHighAction (h : DigestCveAge) : TypedAction :=
  .reconcilerApply .renovateBaseImageBump
    (.obj
      [("cve_id", .str h.cveId),
        ("image_digest", .str h.digest),
        ("target_repo", .str
          "akeylesslabs/akeyless-main-repo")])

/- Forwards a clean image as it is. -/
def harborAction
    (spec : SecuritySpec)
    (d : DigestService) : TypedAction :=
  .reconcilerApply .harborMirror
    (.obj
      [("source_repo", .str
          ("akeylesslabs/akeyless-" ++ d.service)),
        ("source_digest", .str d.digest),
        ("target_registry", .str spec.harborTargetRegistry),
        ("target_project", .str "akeyless"),
        ("preserve_digest", .bool true)])

/- What is done about the drift, by how bad it is. -/
def decide
    (spec : SecuritySpec)
    (severity : Severity)
    (drift : SecurityDrift) : Decision :=
  match severity with
  | .critical =>
      .autoCorrect
        (.compose (drift.criticalCves.flatMap criticalActions))
  | .functional =>
      let actions :=
        drift.missingAttestations.flatMap
          (fun m => m.2.map (attestationAction m.1)) ++
        drift.agedHighCves.map agedHighAction
      if actions.isEmpty then
        .alert
      else
        .autoCorrect (.compose actions)
  | .cosmetic =>
      if !spec.harborForwardingEnabled ||
          drift.allCleanDigests.isEmpty then
        .noAction
      else
        .autoCorrect
          (.compose
            (drift.allCleanDigests.map (harborAction spec)))

end SecurityController

end EngenhoPromessa
