import EngenhoPromessa.Crds.ScanJob

/-
  The `AkeylessImageValidation` custom resource, one per
  image digest and promessa. Its spec is fixed at admission;
  its status is what the controllers write.

  Key definitions include:
    * `AkeylessImageValidationPhase`
    * `GateDecision`
    * `AkeylessImageValidationStatus`
    * `AkeylessImageValidation`
-/

------------------------------------------------------------
-- Phases And Verdicts
------------------------------------------------------------

namespace EngenhoPromessa

/- The phases of a validation, in the order they are meant. -/
inductive AkeylessImageValidationPhase where
  | pending
  | provisioning
  | scanning
  | aggregating
  | attesting
  | gating
  | passed
  | failed
  | quarantined
deriving DecidableEq, Repr

namespace AkeylessImageValidationPhase

/- The phases that a validation stays in. -/
def isTerminal : AkeylessImageValidationPhase → Bool
| .passed => true
| .failed => true
| .quarantined => true
| _ => false

/- How `Debug` prints a phase, and how it is stored. -/
def debugName : AkeylessImageValidationPhase → String
| .pending => "Pending"
| .provisioning => "Provisioning"
| .scanning => "Scanning"
| .aggregating => "Aggregating"
| .attesting => "Attesting"
| .gating => "Gating"
| .passed => "Passed"
| .failed => "Failed"
| .quarantined => "Quarantined"

end AkeylessImageValidationPhase

/- What the gate says about an image. -/
inductive GateVerdict where
  | passed
  | failed
  | quarantined
deriving DecidableEq, Repr

namespace GateVerdict

/- How `Debug` prints a verdict, and how it is stored. -/
def debugName : GateVerdict → String
| .passed => "Passed"
| .failed => "Failed"
| .quarantined => "Quarantined"

/- The terminal phase that records a verdict. -/
def phase : GateVerdict → AkeylessImageValidationPhase
| .passed => .passed
| .failed => .failed
| .quarantined => .quarantined

@[simp] theorem isTerminal_phase (v : GateVerdict) :
    v.phase.isTerminal = true := by
  cases v <;> rfl

end GateVerdict

/- What cartorio says about an artifact. -/
inductive CartorioArtifactState where
  | pending
  | active
  | quarantined
  | revoked
  | superseded
deriving DecidableEq, Repr

end EngenhoPromessa

------------------------------------------------------------
-- The Resource
------------------------------------------------------------

namespace EngenhoPromessa

/- What is asked: which image, under which promise. -/
structure AkeylessImageValidationSpec where
  imageDigest : String
  imageRepo : String
  service : String
  promessaRef : String
  pack : String
  keepFor : Option String
deriving DecidableEq, Repr

/- A scan job, as the status of its validation lists it. -/
structure ScanJobSummary where
  name : String
  scanner : ScannerKind
  phase : ScanJobPhase
  findingsCount : Nat
deriving DecidableEq, Repr

/- The decision about an image, and what follows from it. -/
structure GateDecision where
  severity : String
  verdict : GateVerdict
  action : Json
  reason : Option String
  decidedAt : DateTime
deriving Repr

/- The receipt of a decision. -/
structure OutcomeReceiptRef where
  blake3Hash : String
  ed25519Sig : String
  minioPath : String
  signedAt : DateTime
deriving DecidableEq, Repr

/- What the controllers have found out about an image. -/
structure AkeylessImageValidationStatus where
  phase : Option AkeylessImageValidationPhase
  ephemeralTenantRef : Option String
  scanJobs : List ScanJobSummary
  evidenceBundleHash : Option String
  cartorioArtifactState : Option CartorioArtifactState
  gateDecision : Option GateDecision
  outcomeReceiptRef : Option OutcomeReceiptRef
  startedAt : Option DateTime
  terminalAt : Option DateTime
  conditions : List TypedCondition
  observedGeneration : Int
deriving Repr

namespace AkeylessImageValidationStatus

/- `AkeylessImageValidationStatus::default()`. -/
def default : AkeylessImageValidationStatus where
  phase := none
  ephemeralTenantRef := none
  scanJobs := []
  evidenceBundleHash := none
  cartorioArtifactState := none
  gateDecision := none
  outcomeReceiptRef := none
  startedAt := none
  terminalAt := none
  conditions := []
  observedGeneration := 0

end AkeylessImageValidationStatus

/- The resource `AkeylessImageValidation`. -/
structure AkeylessImageValidation where
  metadata : ObjectMeta
  spec : AkeylessImageValidationSpec
  status : Option AkeylessImageValidationStatus
deriving Repr

namespace AkeylessImageValidation

/- The phase reconciliation starts from. -/
def currentPhase
    (obj : AkeylessImageValidation) :
    AkeylessImageValidationPhase :=
  (obj.status.bind
    AkeylessImageValidationStatus.phase).getD .pending

/- `obj.status.clone().unwrap_or_default()`. -/
def statusOrDefault
    (obj : AkeylessImageValidation) :
    AkeylessImageValidationStatus :=
  obj.status.getD .default

/- `v.status.as_ref().and_then(|s| s.gate_decision.as_ref())`. -/
def gateDecision?
    (obj : AkeylessImageValidation) : Option GateDecision :=
  obj.status.bind AkeylessImageValidationStatus.gateDecision

/- `obj.metadata.generation.unwrap_or(0)`. -/
def generation (obj : AkeylessImageValidation) : Int :=
  obj.metadata.generation.getD 0

end AkeylessImageValidation

end EngenhoPromessa
