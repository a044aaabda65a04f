import EngenhoPromessa.External.Crates

/-
  The `ScanJob` custom resource, one per scanner and
  validation, with the metadata and the conditions all three
  resources share.

  Key definitions include:
    * `ObjectMeta`
    * `TypedCondition`
    * `ScannerKind`
    * `ScanFinding`
    * `ScanJob`
-/

------------------------------------------------------------
-- Metadata
------------------------------------------------------------

namespace EngenhoPromessa

/- The resource that another one belongs to. -/
structure OwnerReference where
  apiVersion : String
  kind : String
  name : String
  uid : String
  controller : Option Bool
  blockOwnerDeletion : Option Bool
deriving DecidableEq, Repr

/- What Kubernetes keeps about every resource. -/
structure ObjectMeta where
  name : Option String
  «namespace» : Option String
  labels : List (String × String)
  ownerReferences : List OwnerReference
  uid : Option String
  generation : Option Int
deriving DecidableEq, Repr, Inhabited

namespace ObjectMeta

/- `name_any`: the name, or nothing. -/
def nameAny (m : ObjectMeta) : String :=
  m.name.getD ""

/- The namespace, or nothing. -/
def namespaceOrDefault (m : ObjectMeta) : String :=
  m.namespace.getD ""

/- The identifier the cluster has given, or nothing. -/
def uidOrDefault (m : ObjectMeta) : String :=
  m.uid.getD ""

end ObjectMeta

end EngenhoPromessa

------------------------------------------------------------
-- Conditions
------------------------------------------------------------

namespace EngenhoPromessa

/- What a condition is about. -/
inductive ConditionType where
  | ready
  | progressing
  | available
  | failed
  | reconciled
  | attestationVerified
  | gateDecided
deriving DecidableEq, Repr

/- Whether a condition holds, if that is known. -/
inductive ConditionStatus where
  | true
  | false
  | unknown
deriving DecidableEq, Repr

/- A condition of a resource, since when and why. -/
structure TypedCondition where
  ty : ConditionType
  status : ConditionStatus
  lastTransitionTime : DateTime
  reason : Option String
  message : Option String
  observedGeneration : Int
deriving DecidableEq, Repr

/- The condition types under the names they are stored by. -/
def conditionTypeCodec : Json.AtomicCodec ConditionType :=
  Json.AtomicCodec.enumeration
    (fun
      | .ready => "Ready"
      | .progressing => "Progressing"
      | .available => "Available"
      | .failed => "Failed"
      | .reconciled => "Reconciled"
      | .attestationVerified => "AttestationVerified"
      | .gateDecided => "GateDecided")
    [.ready, .progressing, .available, .failed,
      .reconciled, .attestationVerified, .gateDecided]
    (by intro a; cases a <;> rfl)

/- The three values under the names they are stored by. -/
def conditionStatusCodec :
    Json.AtomicCodec ConditionStatus :=
  Json.AtomicCodec.enumeration
    (fun
      | .true => "True"
      | .false => "False"
      | .unknown => "Unknown")
    [.true, .false, .unknown]
    (by intro a; cases a <;> rfl)

end EngenhoPromessa

------------------------------------------------------------
-- Scanners And Findings
------------------------------------------------------------

namespace EngenhoPromessa

/- The scanners that a scan job can run. -/
inductive ScannerKind where
  | trivy
  | grype
  | syft
  | trufflehog
  | semgrep
  | kubeLinter
  | kubeBench
  | kubeHunter
  | polaris
  | stigCisValidator
  | zap
  | snyk
  | dockerScout
  | jfrogXray
  | wiz
  | prismaCloud
  | burpEnterprise
  | codeql
deriving DecidableEq, Repr

namespace ScannerKind

/- The declaration order, as the source derives it. -/
instance : LinearOrder ScannerKind :=
  LinearOrder.lift' ScannerKind.ctorIdx
    (Function.LeftInverse.injective
      ScannerKind.ofNat_ctorIdx)

/- How `Debug` prints a scanner, and how it is stored. -/
def debugName : ScannerKind → String
| .trivy => "Trivy"
| .grype => "Grype"
| .syft => "Syft"
| .trufflehog => "Trufflehog"
| .semgrep => "Semgrep"
| .kubeLinter => "KubeLinter"
| .kubeBench => "KubeBench"
| .kubeHunter => "KubeHunter"
| .polaris => "Polaris"
| .stigCisValidator => "StigCisValidator"
| .zap => "Zap"
| .snyk => "Snyk"
| .dockerScout => "DockerScout"
| .jfrogXray => "JfrogXray"
| .wiz => "Wiz"
| .prismaCloud => "PrismaCloud"
| .burpEnterprise => "BurpEnterprise"
| .codeql => "Codeql"

/-
  Every scanner once, so that a stored name can be looked
  up.
-/
def all : List ScannerKind :=
  [.trivy, .grype, .syft, .trufflehog, .semgrep,
    .kubeLinter, .kubeBench, .kubeHunter, .polaris,
    .stigCisValidator, .zap, .snyk, .dockerScout,
    .jfrogXray, .wiz, .prismaCloud, .burpEnterprise,
    .codeql]

end ScannerKind

/- What a scanner looks at. -/
inductive ScannerClass where
  | cve
  | sast
  | dast
  | hardening
deriving DecidableEq, Repr

/- How bad a finding is. -/
inductive ScanFindingSeverity where
  | low
  | medium
  | high
  | critical
deriving DecidableEq, Repr

/- What a scanner has found, and since when. -/
structure ScanFinding where
  scanner : ScannerKind
  cveId : Option String
  severity : ScanFindingSeverity
  firstSeen : DateTime
  fixedIn : Option String
  exceptionId : Option String
  cvssV3 : Option F32
  message : Option String
deriving DecidableEq, Repr

/- The hash of the findings, and when it was taken. -/
structure AttestationRef where
  hash : String
  ed25519Sig : Option String
  signedAt : DateTime
deriving DecidableEq, Repr

end EngenhoPromessa

------------------------------------------------------------
-- The Resource
------------------------------------------------------------

namespace EngenhoPromessa

/- What is asked: which scanner, of which target, for whom. -/
structure ScanJobSpec where
  scanner : ScannerKind
  scannerClass : ScannerClass
  targetDigest : Option String
  targetSource : Option String
  targetTenantUrl : Option String
  parentValidation : String
  pack : String
  imageOverride : Option String
deriving DecidableEq, Repr

/- The phases of a scan job, named like those of a process. -/
inductive ScanJobPhase where
  | pending
  | forking
  | execing
  | running
  | attested
  | reconverging
  | exiting
  | failed
  | zombie
  | reaped
deriving DecidableEq, Repr

/- What the controller has found out about a scan. -/
structure ScanJobStatus where
  phase : Option ScanJobPhase
  processRef : Option String
  findings : List ScanFinding
  findingsCount : Nat
  attestationRef : Option AttestationRef
  conditions : List TypedCondition
  observedGeneration : Int
deriving DecidableEq, Repr

/- The resource `ScanJob`. -/
structure ScanJob where
  metadata : ObjectMeta
  spec : ScanJobSpec
  status : Option ScanJobStatus
deriving DecidableEq, Repr

namespace ScanJob

/- `obj.status.as_ref().and_then(|s| s.phase)`. -/
def phase (sj : ScanJob) : Option ScanJobPhase :=
  sj.status.bind ScanJobStatus.phase

end ScanJob

end EngenhoPromessa
