import EngenhoPromessa.Crds.ScanJob

/-
  The JSON form of scan results and of the `ScanJob` status.
  Members are camel-cased, except those of a condition; an
  optional member is left out when it is `none`, a list when
  it is empty.

  Key definitions include:
    * `scanFindingCodec`
    * `attestationRefRecord`
    * `ScanJobStatus.decode`
-/

------------------------------------------------------------
-- Enumerations
------------------------------------------------------------

namespace EngenhoPromessa

open Json

/- The scanners under the names they are stored by. -/
def scannerKindCodec : AtomicCodec ScannerKind :=
  AtomicCodec.enumeration ScannerKind.debugName
    ScannerKind.all (by intro a; cases a <;> rfl)

/- The severities under the names they are stored by. -/
def scanFindingSeverityCodec :
    AtomicCodec ScanFindingSeverity :=
  AtomicCodec.enumeration
    (fun
      | .low => "Low"
      | .medium => "Medium"
      | .high => "High"
      | .critical => "Critical")
    [.low, .medium, .high, .critical]
    (by intro a; cases a <;> rfl)

/- The phases under the names they are stored by. -/
def scanJobPhaseCodec : AtomicCodec ScanJobPhase :=
  AtomicCodec.enumeration
    (fun
      | .pending => "Pending"
      | .forking => "Forking"
      | .execing => "Execing"
      | .running => "Running"
      | .attested => "Attested"
      | .reconverging => "Reconverging"
      | .exiting => "Exiting"
      | .failed => "Failed"
      | .zombie => "Zombie"
      | .reaped => "Reaped")
    [.pending, .forking, .execing, .running, .attested,
      .reconverging, .exiting, .failed, .zombie, .reaped]
    (by intro a; cases a <;> rfl)

end EngenhoPromessa

------------------------------------------------------------
-- Conditions
------------------------------------------------------------

namespace EngenhoPromessa

open Json

variable [Chrono]

namespace TypedCondition

/- A condition keeps its snake-case member names. -/
def fields
    (c : TypedCondition) : List (String × Option Json) :=
  [("type", (Field.required conditionTypeCodec).encode
      c.ty),
    ("status", (Field.required conditionStatusCodec).encode
      c.status),
    ("last_transition_time",
      (Field.required dateTimeCodec).encode
        c.lastTransitionTime),
    ("reason", (Field.optional .string).encode c.reason),
    ("message", (Field.optional .string).encode c.message),
    ("observed_generation",
      (Field.required .int).encode c.observedGeneration)]

/- Reason and message may be missing. -/
def decode
    (ms : List (String × Json)) :
    Option TypedCondition := do
  let ty ← (Field.required conditionTypeCodec).decode
    (ms.lookup "type")
  let status ← (Field.required conditionStatusCodec).decode
    (ms.lookup "status")
  let lastTransitionTime ←
    (Field.required dateTimeCodec).decode
      (ms.lookup "last_transition_time")
  let reason ← (Field.optional .string).decode
    (ms.lookup "reason")
  let message ← (Field.optional .string).decode
    (ms.lookup "message")
  let observedGeneration ← (Field.required .int).decode
    (ms.lookup "observed_generation")
  pure { ty, status, lastTransitionTime, reason, message,
         observedGeneration }

theorem nodup_fields (c : TypedCondition) :
    (c.fields.map Prod.fst).Nodup := by
  simp [fields]

/- What is written is read back. -/
theorem decode_fields (c : TypedCondition) :
    decode (recordMembers c.fields) = some c := by
  have hKeys := nodup_fields c
  unfold decode
  rw [Field.decode_lookup_encode _ hKeys rfl,
    Field.decode_lookup_encode _ hKeys rfl,
    Field.decode_lookup_encode _ hKeys rfl,
    Field.decode_lookup_encode _ hKeys rfl,
    Field.decode_lookup_encode _ hKeys rfl,
    Field.decode_lookup_encode _ hKeys rfl]
  rfl

end TypedCondition

/- The condition as an object. -/
def typedConditionCodec : Codec TypedCondition where
  encode c := record c.fields
  decode j := j.asObject.bind TypedCondition.decode
  decode_encode c := TypedCondition.decode_fields c

end EngenhoPromessa

------------------------------------------------------------
-- Findings
------------------------------------------------------------

namespace EngenhoPromessa

open Json

variable [Chrono] [SerdeJson]

namespace ScanFinding

/- The members of a finding, the optional ones left out. -/
def fields
    (f : ScanFinding) : List (String × Option Json) :=
  [("scanner", (Field.required scannerKindCodec).encode
      f.scanner),
    ("cveId", (Field.optional .string).encode f.cveId),
    ("severity",
      (Field.required scanFindingSeverityCodec).encode
        f.severity),
    ("firstSeen", (Field.required dateTimeCodec).encode
      f.firstSeen),
    ("fixedIn", (Field.optional .string).encode f.fixedIn),
    ("exceptionId", (Field.optional .string).encode
      f.exceptionId),
    ("cvssV3", (Field.optional f32Codec).encode f.cvssV3),
    ("message", (Field.optional .string).encode f.message)]

/- Only scanner, severity and the first sight must be there. -/
def decode
    (ms : List (String × Json)) : Option ScanFinding := do
  let scanner ← (Field.required scannerKindCodec).decode
    (ms.lookup "scanner")
  let cveId ← (Field.optional .string).decode
    (ms.lookup "cveId")
  let severity ←
    (Field.required scanFindingSeverityCodec).decode
      (ms.lookup "severity")
  let firstSeen ← (Field.required dateTimeCodec).decode
    (ms.lookup "firstSeen")
  let fixedIn ← (Field.optional .string).decode
    (ms.lookup "fixedIn")
  let exceptionId ← (Field.optional .string).decode
    (ms.lookup "exceptionId")
  let cvssV3 ← (Field.optional f32Codec).decode
    (ms.lookup "cvssV3")
  let message ← (Field.optional .string).decode
    (ms.lookup "message")
  pure { scanner, cveId, severity, firstSeen, fixedIn,
         exceptionId, cvssV3, message }

theorem nodup_fields (f : ScanFinding) :
    (f.fields.map Prod.fst).Nodup := by
  simp [fields]

/- What is written is read back. -/
theorem decode_fields (f : ScanFinding) :
    decode (recordMembers f.fields) = some f := by
  have hKeys := nodup_fields f
  unfold decode
  rw [Field.decode_lookup_encode _ hKeys rfl,
    Field.decode_lookup_encode _ hKeys rfl,
    Field.decode_lookup_encode _ hKeys rfl,
    Field.decode_lookup_encode _ hKeys rfl,
    Field.decode_lookup_encode _ hKeys rfl,
    Field.decode_lookup_encode _ hKeys rfl,
    Field.decode_lookup_encode _ hKeys rfl,
    Field.decode_lookup_encode _ hKeys rfl]
  rfl

end ScanFinding

/- The finding as an object. -/
def scanFindingCodec : Codec ScanFinding where
  encode f := record f.fields
  decode j := j.asObject.bind ScanFinding.decode
  decode_encode f := ScanFinding.decode_fields f

/- `serde_json::to_value(&findings)`. -/
def findingsToValue (findings : List ScanFinding) : Json :=
  .arr (findings.map scanFindingCodec.encode)

end EngenhoPromessa

------------------------------------------------------------
-- The Status
------------------------------------------------------------

namespace EngenhoPromessa

open Json

namespace AttestationRef

variable [Chrono]

/- The members; a signature may be left out. -/
def fields
    (a : AttestationRef) : List (String × Option Json) :=
  [("hash", (Field.required .string).encode a.hash),
    ("ed25519Sig", (Field.optional .string).encode
      a.ed25519Sig),
    ("signedAt", (Field.required dateTimeCodec).encode
      a.signedAt)]

/- Hash and time must be there. -/
def decode
    (ms : List (String × Json)) :
    Option AttestationRef := do
  let hash ← (Field.required .string).decode
    (ms.lookup "hash")
  let ed25519Sig ← (Field.optional .string).decode
    (ms.lookup "ed25519Sig")
  let signedAt ← (Field.required dateTimeCodec).decode
    (ms.lookup "signedAt")
  pure { hash, ed25519Sig, signedAt }

theorem nodup_fields (a : AttestationRef) :
    (a.fields.map Prod.fst).Nodup := by
  simp [fields]

/- What is written is read back. -/
theorem decode_fields (a : AttestationRef) :
    decode (recordMembers a.fields) = some a := by
  have hKeys := nodup_fields a
  unfold decode
  rw [Field.decode_lookup_encode _ hKeys rfl,
    Field.decode_lookup_encode _ hKeys rfl,
    Field.decode_lookup_encode _ hKeys rfl]
  rfl

/- Only a signature can survive from the reference before. -/
def mergeOver
    (old : Option AttestationRef)
    (new : AttestationRef) : AttestationRef :=
  { new with
    ed25519Sig :=
      new.ed25519Sig.or (old.bind AttestationRef.ed25519Sig) }

/- Where nothing is stored yet, it is stored whole. -/
theorem decode_fresh (a : AttestationRef) :
    decode (mergeMembers [] (recordMembers a.fields)) =
      some (mergeOver none a) := by
  have hKeys := nodup_fields a
  unfold decode
  rw [Field.decode_lookup_recordMembers _ hKeys rfl trivial,
    Field.decode_lookup_recordMembers _ hKeys rfl trivial,
    Field.decode_lookup_recordMembers _ hKeys rfl trivial]
  rfl

/- Over another one a signature that is left out stays. -/
theorem decode_merge
    (a : AttestationRef)
    {old : AttestationRef}
    {ms : List (String × Json)}
    (hOld : decode ms = some old) :
    decode (mergeMembers ms (recordMembers a.fields)) =
      some (mergeOver (some old) a) := by
  have hKeys := nodup_fields a
  simp only [decode, Option.bind_eq_bind,
    Option.bind_eq_some_iff, Option.pure_def] at hOld
  rcases hOld with
    ⟨hash, hHash, sig, hSig, signedAt, hSigned, hEq⟩
  obtain rfl := Option.some.inj hEq
  unfold decode
  rw [Field.decode_lookup_mergeMembers _ hKeys rfl trivial
      hHash,
    Field.decode_lookup_mergeMembers _ hKeys rfl trivial
      hSig,
    Field.decode_lookup_mergeMembers _ hKeys rfl trivial
      hSigned]
  rfl

end AttestationRef

/- An attestation can always be stored. -/
def attestationRefRecord [Chrono] :
    Record AttestationRef where
  fields := AttestationRef.fields
  decode := AttestationRef.decode
  merge := AttestationRef.mergeOver
  Writable _ := True
  decode_encode := AttestationRef.decode_fields
  decode_fresh {a} _ := AttestationRef.decode_fresh a
  decode_merge {a _ _} _ hOld :=
    AttestationRef.decode_merge a hOld

variable [Chrono] [SerdeJson]

namespace ScanJobStatus

/- The status as the API server's stored object reads. -/
def decode
    (ms : List (String × Json)) :
    Option ScanJobStatus := do
  let phase ← (Field.optional scanJobPhaseCodec).decode
    (ms.lookup "phase")
  let processRef ← (Field.optional .string).decode
    (ms.lookup "processRef")
  let findings ← (Field.list scanFindingCodec).decode
    (ms.lookup "findings")
  let findingsCount ← (Field.withDefault .nat 0).decode
    (ms.lookup "findingsCount")
  let attestationRef ← attestationRefRecord.optional.decode
    (ms.lookup "attestationRef")
  let conditions ← (Field.list typedConditionCodec).decode
    (ms.lookup "conditions")
  let observedGeneration ←
    (Field.withDefault .int 0).decode
      (ms.lookup "observedGeneration")
  pure { phase, processRef, findings, findingsCount,
         attestationRef, conditions, observedGeneration }

/- What decoding a status says about each member. -/
theorem decode_eq_some_iff
    {ms : List (String × Json)}
    {s : ScanJobStatus} :
    decode ms = some s ↔
      (Field.optional scanJobPhaseCodec).decode
          (ms.lookup "phase") = some s.phase ∧
      (Field.optional .string).decode
          (ms.lookup "processRef") = some s.processRef ∧
      (Field.list scanFindingCodec).decode
          (ms.lookup "findings") = some s.findings ∧
      (Field.withDefault .nat 0).decode
          (ms.lookup "findingsCount") =
        some s.findingsCount ∧
      attestationRefRecord.optional.decode
          (ms.lookup "attestationRef") =
        some s.attestationRef ∧
      (Field.list typedConditionCodec).decode
          (ms.lookup "conditions") = some s.conditions ∧
      (Field.withDefault .int 0).decode
          (ms.lookup "observedGeneration") =
        some s.observedGeneration := by
  simp only [decode, Option.bind_eq_bind,
    Option.bind_eq_some_iff, Option.pure_def]
  constructor
  · rintro ⟨phase, hPhase, process, hProcess, findings,
      hFindings, count, hCount, attestation, hAttestation,
      conds, hConds, generation, hGeneration, hEq⟩
    obtain rfl := Option.some.inj hEq
    exact ⟨hPhase, hProcess, hFindings, hCount,
      hAttestation, hConds, hGeneration⟩
  · rintro ⟨hPhase, hProcess, hFindings, hCount,
      hAttestation, hConds, hGeneration⟩
    exact ⟨_, hPhase, _, hProcess, _, hFindings, _, hCount,
      _, hAttestation, _, hConds, _, hGeneration, rfl⟩

/- The status of a stored object, absent or null included. -/
def ofStored : Option Json → Option (Option ScanJobStatus) :=
  Field.decodeOptional (fun j => j.asObject.bind decode)

/- `ScanJobStatus::default()`. -/
def default : ScanJobStatus where
  phase := none
  processRef := none
  findings := []
  findingsCount := 0
  attestationRef := none
  conditions := []
  observedGeneration := 0

theorem decode_nil : decode [] = some default := rfl

/- A stored status is an object that decodes, or missing. -/
theorem ofStored_eq_some
    {stored : Option Json}
    {old : Option ScanJobStatus}
    (hOld : ofStored stored = some old) :
    decode (stored.getD .null).members =
      some (old.getD default) :=
  Field.decode_members_of_decodeOptional decode_nil hOld

end ScanJobStatus

end EngenhoPromessa
