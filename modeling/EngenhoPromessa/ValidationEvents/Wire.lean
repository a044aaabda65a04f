import EngenhoPromessa.Crds.ImageValidationSerde
import EngenhoPromessa.External.Reference
import EngenhoPromessa.Json.Struct
import EngenhoPromessa.ValidationEvents.Events

/-
  The wire form of the events: an object whose member `kind`
  names the variant, with the event's own members beside it.

  An event comes with the fresh identifier it was given.

  Key definitions include:
    * `PhaseChanged.struct`
    * `ValidationEvent.toValue`
    * `ValidationEvent.fromValue`

  Key theorems include:
    * `ValidationEvent.fromValue_of_sameMembers`
    * `ValidationEvent.fromValue_arr`
-/

------------------------------------------------------------
-- The Structs
------------------------------------------------------------

namespace EngenhoPromessa

open Json

/- The classes under the names they are written by. -/
def scannerClassCodec : AtomicCodec ScannerClass :=
  AtomicCodec.enumeration
    (fun
      | .cve => "Cve"
      | .sast => "Sast"
      | .dast => "Dast"
      | .hardening => "Hardening")
    [.cve, .sast, .dast, .hardening]
    (by intro a; cases a <;> rfl)

/- A member that must be there, and one that may be null. -/
def need
    {α : Type}
    (c : AtomicCodec α)
    (j : Option Json) : Option α :=
  (Field.required c).decode j

/- A member that may be missing or null. -/
def may
    {α : Type}
    (c : AtomicCodec α)
    (j : Option Json) : Option (Option α) :=
  (Field.optional c).decode j

@[simp] theorem need_encode
    {α : Type}
    (c : AtomicCodec α)
    (a : α) :
    need c (some (c.encode a)) = some a :=
  decode_required c a

@[simp] theorem may_nullable
    {α : Type}
    (c : AtomicCodec α)
    (a : Option α) :
    may c (some (nullable c a)) = some a :=
  decode_nullable c a

variable [Chrono]

/- How a change of phase is written, its identifier first. -/
def PhaseChanged.struct : Struct (String × PhaseChanged) where
  keys :=
    ["event_id", "validation_run_uid", "service",
      "image_digest", "image_repo", "observed_at", "from",
      "to"]
  values
  | (eventId, e) =>
      [AtomicCodec.string.encode eventId,
        AtomicCodec.string.encode e.validationRunUid,
        AtomicCodec.string.encode e.service,
        AtomicCodec.string.encode e.imageDigest,
        AtomicCodec.string.encode e.imageRepo,
        dateTimeCodec.encode e.observedAt,
        nullable imageValidationPhaseCodec e.from,
        imageValidationPhaseCodec.encode e.to]
  ofValues
  | [eventId, uid, service, digest, repo, observedAt, old,
      new] => do
      return (← need .string eventId,
        { validationRunUid := ← need .string uid
          service := ← need .string service
          imageDigest := ← need .string digest
          imageRepo := ← need .string repo
          observedAt := ← need dateTimeCodec observedAt
          «from» := ← may imageValidationPhaseCodec old
          «to» := ← need imageValidationPhaseCodec new })
  | _ => none
  nodup_keys := by decide
  length_values _ := rfl
  ofValues_values _ := by simp

/- How a finding is written, its identifier first. -/
def FindingRecorded.struct :
    Struct (String × FindingRecorded) where
  keys :=
    ["event_id", "validation_run_uid", "service",
      "image_digest", "image_repo", "observed_at",
      "scanner", "scanner_class", "severity", "cve_id",
      "package"]
  values
  | (eventId, e) =>
      [AtomicCodec.string.encode eventId,
        AtomicCodec.string.encode e.validationRunUid,
        AtomicCodec.string.encode e.service,
        AtomicCodec.string.encode e.imageDigest,
        AtomicCodec.string.encode e.imageRepo,
        dateTimeCodec.encode e.observedAt,
        scannerKindCodec.encode e.scanner,
        scannerClassCodec.encode e.scannerClass,
        scanFindingSeverityCodec.encode e.severity,
        nullable .string e.cveId,
        nullable .string e.package]
  ofValues
  | [eventId, uid, service, digest, repo, observedAt,
      scanner, scannerClass, severity, cveId, package] => do
      return (← need .string eventId,
        { validationRunUid := ← need .string uid
          service := ← need .string service
          imageDigest := ← need .string digest
          imageRepo := ← need .string repo
          observedAt := ← need dateTimeCodec observedAt
          scanner := ← need scannerKindCodec scanner
          scannerClass :=
            ← need scannerClassCodec scannerClass
          severity :=
            ← need scanFindingSeverityCodec severity
          cveId := ← may .string cveId
          package := ← may .string package })
  | _ => none
  nodup_keys := by decide
  length_values _ := rfl
  ofValues_values _ := by simp

/- How a decision is written, its identifier first. -/
def DecisionEmitted.struct :
    Struct (String × DecisionEmitted) where
  keys :=
    ["event_id", "validation_run_uid", "service",
      "image_digest", "image_repo", "observed_at",
      "severity", "verdict", "reason"]
  values
  | (eventId, e) =>
      [AtomicCodec.string.encode eventId,
        AtomicCodec.string.encode e.validationRunUid,
        AtomicCodec.string.encode e.service,
        AtomicCodec.string.encode e.imageDigest,
        AtomicCodec.string.encode e.imageRepo,
        dateTimeCodec.encode e.observedAt,
        AtomicCodec.string.encode e.severity,
        gateVerdictCodec.encode e.verdict,
        nullable .string e.reason]
  ofValues
  | [eventId, uid, service, digest, repo, observedAt,
      severity, verdict, reason] => do
      return (← need .string eventId,
        { validationRunUid := ← need .string uid
          service := ← need .string service
          imageDigest := ← need .string digest
          imageRepo := ← need .string repo
          observedAt := ← need dateTimeCodec observedAt
          severity := ← need .string severity
          verdict := ← need gateVerdictCodec verdict
          reason := ← may .string reason })
  | _ => none
  nodup_keys := by decide
  length_values _ := rfl
  ofValues_values _ := by simp

/- How a dispatched action is written, its identifier first. -/
def ReconcilerDispatched.struct :
    Struct (String × ReconcilerDispatched) where
  keys :=
    ["event_id", "validation_run_uid", "service",
      "image_digest", "image_repo", "observed_at",
      "action_kind", "reconciler_kind", "outcome",
      "outcome_flag"]
  values
  | (eventId, e) =>
      [AtomicCodec.string.encode eventId,
        AtomicCodec.string.encode e.validationRunUid,
        AtomicCodec.string.encode e.service,
        AtomicCodec.string.encode e.imageDigest,
        AtomicCodec.string.encode e.imageRepo,
        dateTimeCodec.encode e.observedAt,
        AtomicCodec.string.encode e.actionKind,
        nullable .string e.reconcilerKind,
        AtomicCodec.string.encode e.outcome,
        nullable .string e.outcomeFlag]
  ofValues
  | [eventId, uid, service, digest, repo, observedAt,
      actionKind, reconcilerKind, outcome, outcomeFlag] => do
      return (← need .string eventId,
        { validationRunUid := ← need .string uid
          service := ← need .string service
          imageDigest := ← need .string digest
          imageRepo := ← need .string repo
          observedAt := ← need dateTimeCodec observedAt
          actionKind := ← need .string actionKind
          reconcilerKind := ← may .string reconcilerKind
          outcome := ← need .string outcome
          outcomeFlag := ← may .string outcomeFlag })
  | _ => none
  nodup_keys := by decide
  length_values _ := rfl
  ofValues_values _ := by simp

end EngenhoPromessa

------------------------------------------------------------
-- Events
------------------------------------------------------------

namespace EngenhoPromessa

namespace ValidationEvent

open Json

variable [Chrono]

/- The keys of the variant's struct. -/
def keys : ValidationEvent → List String
| .phaseChanged _ => PhaseChanged.struct.keys
| .findingRecorded _ => FindingRecorded.struct.keys
| .decisionEmitted _ => DecisionEmitted.struct.keys
| .reconcilerDispatched _ => ReconcilerDispatched.struct.keys

/- The values under them, with the identifier of the event. -/
def values (eventId : String) : ValidationEvent → List Json
| .phaseChanged e => PhaseChanged.struct.values (eventId, e)
| .findingRecorded e =>
    FindingRecorded.struct.values (eventId, e)
| .decisionEmitted e =>
    DecisionEmitted.struct.values (eventId, e)
| .reconcilerDispatched e =>
    ReconcilerDispatched.struct.values (eventId, e)

/- The tag comes first. -/
def members
    (eventId : String)
    (event : ValidationEvent) : List (String × Json) :=
  ("kind", .str event.kind) ::
    event.keys.zip (event.values eventId)

/- `serde_json::to_value(&event)`. -/
def toValue
    (eventId : String)
    (event : ValidationEvent) : Json :=
  .obj (event.members eventId)

/- The variant a tag names, read from the other content. -/
def fromTagged
    (tag : String)
    (content : Json) : Option (String × ValidationEvent) :=
  match tag with
  | "phase-changed" =>
      (PhaseChanged.struct.fromValue content).map
        (fun e => (e.1, .phaseChanged e.2))
  | "finding-recorded" =>
      (FindingRecorded.struct.fromValue content).map
        (fun e => (e.1, .findingRecorded e.2))
  | "decision-emitted" =>
      (DecisionEmitted.struct.fromValue content).map
        (fun e => (e.1, .decisionEmitted e.2))
  | "reconciler-dispatched" =>
      (ReconcilerDispatched.struct.fromValue content).map
        (fun e => (e.1, .reconcilerDispatched e.2))
  | _ => none

/- An event is read by its tag, under `kind`. -/
def fromValue
    (j : Json) : Option (String × ValidationEvent) := do
  let (tag, content) ← tagged "kind" j
  fromTagged tag content

/- No key is taken for the tag. -/
theorem kind_not_mem_keys
    (event : ValidationEvent) :
    "kind" ∉ event.keys := by
  cases event with
  | phaseChanged e => simp [keys, PhaseChanged.struct]
  | findingRecorded e => simp [keys, FindingRecorded.struct]
  | decisionEmitted e => simp [keys, DecisionEmitted.struct]
  | reconcilerDispatched e =>
      simp [keys, ReconcilerDispatched.struct]

/- Content that has the members reads as the event. -/
theorem fromTagged_of_lookup
    (eventId : String)
    (event : ValidationEvent)
    {ms : List (String × Json)}
    (hMembers : ∀ key ∈ event.keys,
      ms.lookup key =
        (event.keys.zip (event.values eventId)).lookup key) :
    fromTagged event.kind (.obj ms) =
      some (eventId, event) := by
  cases event with
  | phaseChanged e =>
      exact congrArg (Option.map _)
        (PhaseChanged.struct.fromValue_of_lookup (eventId, e)
          hMembers)
  | findingRecorded e =>
      exact congrArg (Option.map _)
        (FindingRecorded.struct.fromValue_of_lookup
          (eventId, e) hMembers)
  | decisionEmitted e =>
      exact congrArg (Option.map _)
        (DecisionEmitted.struct.fromValue_of_lookup
          (eventId, e) hMembers)
  | reconcilerDispatched e =>
      exact congrArg (Option.map _)
        (ReconcilerDispatched.struct.fromValue_of_lookup
          (eventId, e) hMembers)

/- An event is read back from the array of its values. -/
theorem fromTagged_arr
    (eventId : String)
    (event : ValidationEvent) :
    fromTagged event.kind (.arr (event.values eventId)) =
      some (eventId, event) := by
  cases event with
  | phaseChanged e =>
      exact congrArg (Option.map _)
        (PhaseChanged.struct.fromValue_arr (eventId, e))
  | findingRecorded e =>
      exact congrArg (Option.map _)
        (FindingRecorded.struct.fromValue_arr (eventId, e))
  | decisionEmitted e =>
      exact congrArg (Option.map _)
        (DecisionEmitted.struct.fromValue_arr (eventId, e))
  | reconcilerDispatched e =>
      exact congrArg (Option.map _)
        (ReconcilerDispatched.struct.fromValue_arr
          (eventId, e))

/-
  An event is read from every object that has its members,
  in any order and among any others, and from the array of
  its tag and values.
-/
theorem fromValue_of_sameMembers
    (eventId : String)
    (event : ValidationEvent) :
    (∀ ms : List (String × Json),
      (∀ key ∈ "kind" :: event.keys,
        ms.lookup key =
          (event.members eventId).lookup key) →
      fromValue (.obj ms) = some (eventId, event)) ∧
    fromValue
        (.arr (.str event.kind :: event.values eventId)) =
      some (eventId, event) := by
  constructor
  · intro ms hMembers
    rcases List.forall_mem_cons.mp hMembers with
      ⟨hTag, hRest⟩
    rw [members, List.lookup_cons_self] at hTag
    rw [fromValue, tagged_of_lookup hTag]
    refine fromTagged_of_lookup eventId event
      (fun key hKey => ?_)
    have hNot : key ≠ "kind" :=
      fun hEq => kind_not_mem_keys event (hEq ▸ hKey)
    rw [lookup_removeMember, if_neg hNot, hRest key hKey,
      members, lookup_cons_ite, if_neg hNot]
  · exact fromTagged_arr eventId event

/- What is written is read back. -/
theorem fromValue_toValue
    (eventId : String)
    (event : ValidationEvent) :
    fromValue (event.toValue eventId) =
      some (eventId, event) :=
  (fromValue_of_sameMembers eventId event).1 _
    (fun _ _ => rfl)

end ValidationEvent

namespace Reference

/- A phase event of a validation that just started. -/
def firstPhase : ValidationEvent :=
  .phaseChanged
    { validationRunUid := "uid-1"
      service := "auth"
      imageDigest := "sha256:abc"
      imageRepo := "akeyless-auth"
      observedAt := second 0
      «from» := none
      «to» := .provisioning }

end Reference

namespace ValidationEvent

/- The members the other way round, behind a new one. -/
theorem fromValue_of_sameMembers_reversed :
    fromValue (.obj (("schema", .ofInt 2) ::
        (Reference.firstPhase.members "01").reverse)) =
      some ("01", Reference.firstPhase) :=
  (fromValue_of_sameMembers "01" Reference.firstPhase).1 _
    (by simp [keys, members, values, Reference.firstPhase,
      PhaseChanged.struct, Json.lookup_cons_ite])

end ValidationEvent

end EngenhoPromessa
