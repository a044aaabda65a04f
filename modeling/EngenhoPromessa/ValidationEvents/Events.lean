import EngenhoPromessa.Crds.ImageValidation

/-
  The events the controllers publish about a validation, and
  the subjects they are published under. The fresh identifier
  every event carries is left out.

  Key definitions include:
    * `ValidationEvent`
    * `ValidationEvent.subject`
-/

------------------------------------------------------------
-- Events
------------------------------------------------------------

namespace EngenhoPromessa

/- A validation has entered a phase. -/
structure PhaseChanged where
  validationRunUid : String
  service : String
  imageDigest : String
  imageRepo : String
  observedAt : DateTime
  «from» : Option AkeylessImageValidationPhase
  «to» : AkeylessImageValidationPhase
deriving DecidableEq, Repr

/- A scanner has found something. -/
structure FindingRecorded where
  validationRunUid : String
  service : String
  imageDigest : String
  imageRepo : String
  observedAt : DateTime
  scanner : ScannerKind
  scannerClass : ScannerClass
  severity : ScanFindingSeverity
  cveId : Option String
  package : Option String
deriving DecidableEq, Repr

/- The gate has decided. -/
structure DecisionEmitted where
  validationRunUid : String
  service : String
  imageDigest : String
  imageRepo : String
  observedAt : DateTime
  severity : String
  verdict : GateVerdict
  reason : Option String
deriving DecidableEq, Repr

/- An action was dispatched, and what came of it. -/
structure ReconcilerDispatched where
  validationRunUid : String
  service : String
  imageDigest : String
  imageRepo : String
  observedAt : DateTime
  actionKind : String
  reconcilerKind : Option String
  outcome : String
  outcomeFlag : Option String
deriving DecidableEq, Repr

/- What the controllers publish about a validation. -/
inductive ValidationEvent where
  | phaseChanged (event : PhaseChanged)
  | findingRecorded (event : FindingRecorded)
  | decisionEmitted (event : DecisionEmitted)
  | reconcilerDispatched (event : ReconcilerDispatched)
deriving DecidableEq, Repr

end EngenhoPromessa

------------------------------------------------------------
-- Subjects
------------------------------------------------------------

namespace EngenhoPromessa

namespace ValidationEvent

/- `SUBJECT_PREFIX`. -/
def subjectPrefix : String := "validation.posture"

/- The service an event is about. -/
def service : ValidationEvent → String
| .phaseChanged e => e.service
| .findingRecorded e => e.service
| .decisionEmitted e => e.service
| .reconcilerDispatched e => e.service

/- The kind of an event, as its subject has it. -/
def kind : ValidationEvent → String
| .phaseChanged _ => "phase-changed"
| .findingRecorded _ => "finding-recorded"
| .decisionEmitted _ => "decision-emitted"
| .reconcilerDispatched _ => "reconciler-dispatched"

/- `subject`: prefix, service and kind, parted by dots. -/
def subject (event : ValidationEvent) : String :=
  subjectPrefix ++ "." ++ event.service ++ "." ++ event.kind

end ValidationEvent

end EngenhoPromessa
