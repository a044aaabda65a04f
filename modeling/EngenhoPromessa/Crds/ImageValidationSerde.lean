import EngenhoPromessa.Crds.ImageValidation
import EngenhoPromessa.Crds.ScanJobSerde

/-
  The JSON form of the `AkeylessImageValidation` status and
  what a merge patch carrying a whole status leaves of the
  status stored before.

  A member left out of the patch keeps its stored value, so
  a merge can add and replace but never erase.

  Key definitions include:
    * `gateDecisionRecord`
    * `outcomeReceiptRefRecord`
    * `AkeylessImageValidationStatus.mergeOver`
    * `AkeylessImageValidationStatus.ofStored`
-/

------------------------------------------------------------
-- Enumerations And Summaries
------------------------------------------------------------

namespace EngenhoPromessa

open Json

/- The phases under the names they are stored by. -/
def imageValidationPhaseCodec :
    AtomicCodec AkeylessImageValidationPhase :=
  AtomicCodec.enumeration
    (fun
      | .pending => "Pending"
      | .provisioning => "Provisioning"
      | .scanning => "Scanning"
      | .aggregating => "Aggregating"
      | .attesting => "Attesting"
      | .gating => "Gating"
      | .passed => "Passed"
      | .failed => "Failed"
      | .quarantined => "Quarantined")
    [.pending, .provisioning, .scanning, .aggregating,
      .attesting, .gating, .passed, .failed, .quarantined]
    (by intro a; cases a <;> rfl)

/- The verdicts under the names they are stored by. -/
def gateVerdictCodec : AtomicCodec GateVerdict :=
  AtomicCodec.enumeration GateVerdict.debugName
    [.passed, .failed, .quarantined]
    (by intro a; cases a <;> rfl)

/- The states under the names they are stored by. -/
def cartorioArtifactStateCodec :
    AtomicCodec CartorioArtifactState :=
  AtomicCodec.enumeration
    (fun
      | .pending => "Pending"
      | .active => "Active"
      | .quarantined => "Quarantined"
      | .revoked => "Revoked"
      | .superseded => "Superseded")
    [.pending, .active, .quarantined, .revoked, .superseded]
    (by intro a; cases a <;> rfl)

namespace ScanJobSummary

/- The members, under the names they are stored by. -/
def fields
    (s : ScanJobSummary) : List (String × Option Json) :=
  [("name", (Field.required .string).encode s.name),
    ("scanner", (Field.required scannerKindCodec).encode
      s.scanner),
    ("phase", (Field.required scanJobPhaseCodec).encode
      s.phase),
    ("findingsCount", (Field.withDefault .nat 0).encode
      s.findingsCount)]

/- Only the number of findings has a default. -/
def decode
    (ms : List (String × Json)) :
    Option ScanJobSummary := do
  let name ← (Field.required .string).decode
    (ms.lookup "name")
  let scanner ← (Field.required scannerKindCodec).decode
    (ms.lookup "scanner")
  let phase ← (Field.required scanJobPhaseCodec).decode
    (ms.lookup "phase")
  let findingsCount ← (Field.withDefault .nat 0).decode
    (ms.lookup "findingsCount")
  pure { name, scanner, phase, findingsCount }

/- What is written is read back. -/
theorem decode_fields (s : ScanJobSummary) :
    decode (recordMembers s.fields) = some s := by
  have hKeys : (s.fields.map Prod.fst).Nodup := by
    simp [fields]
  unfold decode
  rw [Field.decode_lookup_encode _ hKeys rfl,
    Field.decode_lookup_encode _ hKeys rfl,
    Field.decode_lookup_encode _ hKeys rfl,
    Field.decode_lookup_encode _ hKeys rfl]
  rfl

end ScanJobSummary

/- The summary as an object. -/
def scanJobSummaryCodec : Codec ScanJobSummary where
  encode s := record s.fields
  decode j := j.asObject.bind ScanJobSummary.decode
  decode_encode s := ScanJobSummary.decode_fields s

end EngenhoPromessa

------------------------------------------------------------
-- Gate Decisions
------------------------------------------------------------

namespace EngenhoPromessa

open Json

variable [Chrono]

namespace GateDecision

/- The members of a decision; the reason may be left out. -/
def fields
    (g : GateDecision) : List (String × Option Json) :=
  [("severity", (Field.required .string).encode g.severity),
    ("verdict", (Field.required gateVerdictCodec).encode
      g.verdict),
    ("action", Field.value.encode g.action),
    ("reason", (Field.optional .string).encode g.reason),
    ("decidedAt", (Field.required dateTimeCodec).encode
      g.decidedAt)]

/- An action is any value, but there must be one. -/
def decode
    (ms : List (String × Json)) : Option GateDecision := do
  let severity ← (Field.required .string).decode
    (ms.lookup "severity")
  let verdict ← (Field.required gateVerdictCodec).decode
    (ms.lookup "verdict")
  let action ← Field.value.decode (ms.lookup "action")
  let reason ← (Field.optional .string).decode
    (ms.lookup "reason")
  let decidedAt ← (Field.required dateTimeCodec).decode
    (ms.lookup "decidedAt")
  pure { severity, verdict, action, reason, decidedAt }

/-
  The action is free-form JSON and is itself merged member by
  member; a reason survives when the new decision has none.
-/
def mergeOver
    (old : Option GateDecision)
    (new : GateDecision) : GateDecision :=
  { new with
    action := mergePatch
      ((old.map GateDecision.action).getD .null) new.action
    reason := new.reason.or (old.bind GateDecision.reason) }

theorem nodup_fields (g : GateDecision) :
    (g.fields.map Prod.fst).Nodup := by
  simp [fields]

/- What is written is read back. -/
theorem decode_fields (g : GateDecision) :
    decode (recordMembers g.fields) = some g := by
  have hKeys := nodup_fields g
  unfold decode
  rw [Field.decode_lookup_encode _ hKeys rfl,
    Field.decode_lookup_encode _ hKeys rfl,
    Field.decode_lookup_encode _ hKeys rfl,
    Field.decode_lookup_encode _ hKeys rfl,
    Field.decode_lookup_encode _ hKeys rfl]
  rfl

/- Where nothing is stored yet, a decision is stored whole. -/
theorem decode_fresh
    {g : GateDecision}
    (hAction : g.action ≠ .null) :
    decode (mergeMembers [] (recordMembers g.fields)) =
      some (mergeOver none g) := by
  have hKeys := nodup_fields g
  unfold decode
  rw [Field.decode_lookup_recordMembers _ hKeys rfl trivial,
    Field.decode_lookup_recordMembers _ hKeys rfl trivial,
    Field.decode_lookup_recordMembers _ hKeys rfl hAction,
    Field.decode_lookup_recordMembers _ hKeys rfl trivial,
    Field.decode_lookup_recordMembers _ hKeys rfl trivial]
  rfl

/- Over another decision a reason that is left out stays. -/
theorem decode_merge
    {g old : GateDecision}
    {ms : List (String × Json)}
    (hAction : g.action ≠ .null)
    (hOld : decode ms = some old) :
    decode (mergeMembers ms (recordMembers g.fields)) =
      some (mergeOver (some old) g) := by
  have hKeys := nodup_fields g
  simp only [decode, Option.bind_eq_bind,
    Option.bind_eq_some_iff, Option.pure_def] at hOld
  rcases hOld with
    ⟨severity, hSeverity, verdict, hVerdict, action, hAct,
      reason, hReason, decidedAt, hDecided, hEq⟩
  obtain rfl := Option.some.inj hEq
  unfold decode
  rw [Field.decode_lookup_mergeMembers _ hKeys rfl trivial
      hSeverity,
    Field.decode_lookup_mergeMembers _ hKeys rfl trivial
      hVerdict,
    Field.decode_lookup_mergeMembers _ hKeys rfl hAction
      hAct,
    Field.decode_lookup_mergeMembers _ hKeys rfl trivial
      hReason,
    Field.decode_lookup_mergeMembers _ hKeys rfl trivial
      hDecided]
  rfl

/- A null action is removed, and then nothing is read. -/
theorem decode_merge_null
    {g : GateDecision}
    (hNull : g.action = .null)
    (ms : List (String × Json)) :
    decode (mergeMembers ms (recordMembers g.fields)) =
      none := by
  have hKeys := nodup_fields g
  have hGone :
      (mergeMembers ms (recordMembers g.fields)).lookup
        "action" = none := by
    rw [lookup_mergeMembers (nodup_recordMembers hKeys),
      lookup_recordMembers hKeys]
    change mergeMember _ (some g.action) = none
    rw [hNull, mergeMember_null]
  cases hRead :
      decode (mergeMembers ms (recordMembers g.fields)) with
  | none => rfl
  | some old =>
      simp only [decode, Option.bind_eq_bind,
        Option.bind_eq_some_iff, Option.pure_def] at hRead
      rcases hRead with
        ⟨_, _, _, _, action, hAction, _⟩
      rw [hGone] at hAction
      simp [Field.value] at hAction

end GateDecision

/- A decision without an action would not be stored as one. -/
def gateDecisionRecord : Record GateDecision where
  fields := GateDecision.fields
  decode := GateDecision.decode
  merge := GateDecision.mergeOver
  Writable g := g.action ≠ .null
  decode_encode := GateDecision.decode_fields
  decode_fresh hAction := GateDecision.decode_fresh hAction
  decode_merge hAction hOld :=
    GateDecision.decode_merge hAction hOld

end EngenhoPromessa

------------------------------------------------------------
-- Outcome Receipts
------------------------------------------------------------

namespace EngenhoPromessa

open Json

variable [Chrono]

namespace OutcomeReceiptRef

/- The members, under the names they are stored by. -/
def fields
    (r : OutcomeReceiptRef) :
    List (String × Option Json) :=
  [("blake3Hash", (Field.required .string).encode
      r.blake3Hash),
    ("ed25519Sig", (Field.required .string).encode
      r.ed25519Sig),
    ("minioPath", (Field.required .string).encode
      r.minioPath),
    ("signedAt", (Field.required dateTimeCodec).encode
      r.signedAt)]

/- All of the members must be there. -/
def decode
    (ms : List (String × Json)) :
    Option OutcomeReceiptRef := do
  let blake3Hash ← (Field.required .string).decode
    (ms.lookup "blake3Hash")
  let ed25519Sig ← (Field.required .string).decode
    (ms.lookup "ed25519Sig")
  let minioPath ← (Field.required .string).decode
    (ms.lookup "minioPath")
  let signedAt ← (Field.required dateTimeCodec).decode
    (ms.lookup "signedAt")
  pure { blake3Hash, ed25519Sig, minioPath, signedAt }

theorem nodup_fields (r : OutcomeReceiptRef) :
    (r.fields.map Prod.fst).Nodup := by
  simp [fields]

/- What is written is read back. -/
theorem decode_fields (r : OutcomeReceiptRef) :
    decode (recordMembers r.fields) = some r := by
  have hKeys := nodup_fields r
  unfold decode
  rw [Field.decode_lookup_encode _ hKeys rfl,
    Field.decode_lookup_encode _ hKeys rfl,
    Field.decode_lookup_encode _ hKeys rfl,
    Field.decode_lookup_encode _ hKeys rfl]
  rfl

/- A receipt replaces whatever its object held before. -/
theorem decode_mergeMembers
    (r : OutcomeReceiptRef)
    (ms : List (String × Json)) :
    decode (mergeMembers ms (recordMembers r.fields)) =
      some r := by
  have hKeys := nodup_fields r
  unfold decode
  rw [Field.decode_lookup_mergeMembers_required _ hKeys rfl,
    Field.decode_lookup_mergeMembers_required _ hKeys rfl,
    Field.decode_lookup_mergeMembers_required _ hKeys rfl,
    Field.decode_lookup_mergeMembers_required _ hKeys rfl]
  rfl

end OutcomeReceiptRef

/- A receipt is stored whole over any other. -/
def outcomeReceiptRefRecord : Record OutcomeReceiptRef where
  fields := OutcomeReceiptRef.fields
  decode := OutcomeReceiptRef.decode
  merge _ r := r
  Writable _ := True
  decode_encode := OutcomeReceiptRef.decode_fields
  decode_fresh {r} _ :=
    OutcomeReceiptRef.decode_mergeMembers r []
  decode_merge {r _ ms} _ _ :=
    OutcomeReceiptRef.decode_mergeMembers r ms

end EngenhoPromessa

------------------------------------------------------------
-- The Status
------------------------------------------------------------

namespace EngenhoPromessa

open Json

variable [Chrono]

namespace AkeylessImageValidationStatus

/- The members of a status, the optional ones left out. -/
def fields
    (s : AkeylessImageValidationStatus) :
    List (String × Option Json) :=
  [("phase",
      (Field.optional imageValidationPhaseCodec).encode
        s.phase),
    ("ephemeralTenantRef", (Field.optional .string).encode
      s.ephemeralTenantRef),
    ("scanJobs", (Field.list scanJobSummaryCodec).encode
      s.scanJobs),
    ("evidenceBundleHash", (Field.optional .string).encode
      s.evidenceBundleHash),
    ("cartorioArtifactState",
      (Field.optional cartorioArtifactStateCodec).encode
        s.cartorioArtifactState),
    ("gateDecision", gateDecisionRecord.optional.encode
      s.gateDecision),
    ("outcomeReceiptRef",
      outcomeReceiptRefRecord.optional.encode
        s.outcomeReceiptRef),
    ("startedAt", (Field.optional dateTimeCodec).encode
      s.startedAt),
    ("terminalAt", (Field.optional dateTimeCodec).encode
      s.terminalAt),
    ("conditions", (Field.list typedConditionCodec).encode
      s.conditions),
    ("observedGeneration", (Field.withDefault .int 0).encode
      s.observedGeneration)]

/- Members that are missing have their defaults. -/
def decode
    (ms : List (String × Json)) :
    Option AkeylessImageValidationStatus := do
  let phase ←
    (Field.optional imageValidationPhaseCodec).decode
      (ms.lookup "phase")
  let ephemeralTenantRef ← (Field.optional .string).decode
    (ms.lookup "ephemeralTenantRef")
  let scanJobs ← (Field.list scanJobSummaryCodec).decode
    (ms.lookup "scanJobs")
  let evidenceBundleHash ← (Field.optional .string).decode
    (ms.lookup "evidenceBundleHash")
  let cartorioArtifactState ←
    (Field.optional cartorioArtifactStateCodec).decode
      (ms.lookup "cartorioArtifactState")
  let gateDecision ← gateDecisionRecord.optional.decode
    (ms.lookup "gateDecision")
  let outcomeReceiptRef ←
    outcomeReceiptRefRecord.optional.decode
      (ms.lookup "outcomeReceiptRef")
  let startedAt ← (Field.optional dateTimeCodec).decode
    (ms.lookup "startedAt")
  let terminalAt ← (Field.optional dateTimeCodec).decode
    (ms.lookup "terminalAt")
  let conditions ← (Field.list typedConditionCodec).decode
    (ms.lookup "conditions")
  let observedGeneration ←
    (Field.withDefault .int 0).decode
      (ms.lookup "observedGeneration")
  pure { phase, ephemeralTenantRef, scanJobs,
         evidenceBundleHash, cartorioArtifactState,
         gateDecision, outcomeReceiptRef, startedAt,
         terminalAt, conditions, observedGeneration }

/- The status read after `new` was merged over `old`. -/
def mergeOver
    (old new : AkeylessImageValidationStatus) :
    AkeylessImageValidationStatus where
  phase := new.phase.or old.phase
  ephemeralTenantRef :=
    new.ephemeralTenantRef.or old.ephemeralTenantRef
  scanJobs :=
    if new.scanJobs.isEmpty then old.scanJobs
    else new.scanJobs
  evidenceBundleHash :=
    new.evidenceBundleHash.or old.evidenceBundleHash
  cartorioArtifactState :=
    new.cartorioArtifactState.or old.cartorioArtifactState
  gateDecision :=
    match new.gateDecision with
    | none => old.gateDecision
    | some g => some (g.mergeOver old.gateDecision)
  outcomeReceiptRef :=
    new.outcomeReceiptRef.or old.outcomeReceiptRef
  startedAt := new.startedAt.or old.startedAt
  terminalAt := new.terminalAt.or old.terminalAt
  conditions :=
    if new.conditions.isEmpty then old.conditions
    else new.conditions
  observedGeneration := new.observedGeneration

/- A gate action that is not null, if there is a decision. -/
def Writable (s : AkeylessImageValidationStatus) : Prop :=
  ∀ g, s.gateDecision = some g → g.action ≠ .null

theorem nodup_fields (s : AkeylessImageValidationStatus) :
    (s.fields.map Prod.fst).Nodup := by
  simp [fields]

/- What decoding a status says about each member. -/
theorem decode_eq_some_iff
    {ms : List (String × Json)}
    {s : AkeylessImageValidationStatus} :
    decode ms = some s ↔
      (Field.optional imageValidationPhaseCodec).decode
          (ms.lookup "phase") = some s.phase ∧
      (Field.optional .string).decode
          (ms.lookup "ephemeralTenantRef") =
        some s.ephemeralTenantRef ∧
      (Field.list scanJobSummaryCodec).decode
          (ms.lookup "scanJobs") = some s.scanJobs ∧
      (Field.optional .string).decode
          (ms.lookup "evidenceBundleHash") =
        some s.evidenceBundleHash ∧
      (Field.optional cartorioArtifactStateCodec).decode
          (ms.lookup "cartorioArtifactState") =
        some s.cartorioArtifactState ∧
      gateDecisionRecord.optional.decode
          (ms.lookup "gateDecision") =
        some s.gateDecision ∧
      outcomeReceiptRefRecord.optional.decode
          (ms.lookup "outcomeReceiptRef") =
        some s.outcomeReceiptRef ∧
      (Field.optional dateTimeCodec).decode
          (ms.lookup "startedAt") = some s.startedAt ∧
      (Field.optional dateTimeCodec).decode
          (ms.lookup "terminalAt") = some s.terminalAt ∧
      (Field.list typedConditionCodec).decode
          (ms.lookup "conditions") = some s.conditions ∧
      (Field.withDefault .int 0).decode
          (ms.lookup "observedGeneration") =
        some s.observedGeneration := by
  simp only [decode, Option.bind_eq_bind,
    Option.bind_eq_some_iff, Option.pure_def]
  constructor
  · rintro ⟨phase, hPhase, tenant, hTenant, jobs, hJobs,
      hash, hHash, cartorio, hCartorio, gate, hGate,
      receipt, hReceipt, started, hStarted, terminal,
      hTerminal, conds, hConds, generation, hGeneration,
      hEq⟩
    obtain rfl := Option.some.inj hEq
    exact ⟨hPhase, hTenant, hJobs, hHash, hCartorio, hGate,
      hReceipt, hStarted, hTerminal, hConds, hGeneration⟩
  · rintro ⟨hPhase, hTenant, hJobs, hHash, hCartorio,
      hGate, hReceipt, hStarted, hTerminal, hConds,
      hGeneration⟩
    exact ⟨_, hPhase, _, hTenant, _, hJobs, _, hHash, _,
      hCartorio, _, hGate, _, hReceipt, _, hStarted, _,
      hTerminal, _, hConds, _, hGeneration, rfl⟩

/- A whole status merged over a stored one. -/
theorem decode_merge
    {new old : AkeylessImageValidationStatus}
    {ms : List (String × Json)}
    (hWritable : new.Writable)
    (hOld : decode ms = some old) :
    decode (mergeMembers ms (recordMembers new.fields)) =
      some (mergeOver old new) := by
  have hKeys := nodup_fields new
  rcases decode_eq_some_iff.mp hOld with
    ⟨hPhase, hTenant, hJobs, hHash, hCartorio, hGate,
      hReceipt, hStarted, hTerminal, hConds, hGeneration⟩
  have hGateEq :
      gateDecisionRecord.optional.merge
          (some old.gateDecision) new.gateDecision =
        (mergeOver old new).gateDecision := by
    unfold mergeOver
    cases new.gateDecision with
    | none => rfl
    | some g => rfl
  have hReceiptEq :
      outcomeReceiptRefRecord.optional.merge
          (some old.outcomeReceiptRef)
          new.outcomeReceiptRef =
        (mergeOver old new).outcomeReceiptRef := by
    unfold mergeOver
    cases new.outcomeReceiptRef with
    | none => rfl
    | some r => rfl
  refine decode_eq_some_iff.mpr
    ⟨Field.decode_lookup_mergeMembers _ hKeys rfl trivial
        hPhase,
      Field.decode_lookup_mergeMembers _ hKeys rfl trivial
        hTenant,
      Field.decode_lookup_mergeMembers _ hKeys rfl trivial
        hJobs,
      Field.decode_lookup_mergeMembers _ hKeys rfl trivial
        hHash,
      Field.decode_lookup_mergeMembers _ hKeys rfl trivial
        hCartorio,
      ?_,
      ?_,
      Field.decode_lookup_mergeMembers _ hKeys rfl trivial
        hStarted,
      Field.decode_lookup_mergeMembers _ hKeys rfl trivial
        hTerminal,
      Field.decode_lookup_mergeMembers _ hKeys rfl trivial
        hConds,
      Field.decode_lookup_mergeMembers _ hKeys rfl trivial
        hGeneration⟩
  · rw [Field.decode_lookup_mergeMembers _ hKeys rfl
      hWritable hGate, hGateEq]
  · rw [Field.decode_lookup_mergeMembers _ hKeys rfl
      (fun _ _ => trivial) hReceipt, hReceiptEq]

/-
  A patch that carries an outcome receipt and nothing else.
-/
theorem decode_merge_receipt
    {old : AkeylessImageValidationStatus}
    {ms : List (String × Json)}
    (receipt : OutcomeReceiptRef)
    (hOld : decode ms = some old) :
    decode
        (mergeMembers ms (recordMembers
          [("outcomeReceiptRef",
            outcomeReceiptRefRecord.optional.encode
              (some receipt))])) =
      some { old with
        outcomeReceiptRef := some receipt } := by
  have hKeys :
      (([("outcomeReceiptRef",
            outcomeReceiptRefRecord.optional.encode
              (some receipt))] :
          List (String × Option Json)).map
        Prod.fst).Nodup := by
    simp
  rcases decode_eq_some_iff.mp hOld with
    ⟨hPhase, hTenant, hJobs, hHash, hCartorio, hGate,
      hReceipt, hStarted, hTerminal, hConds, hGeneration⟩
  have hOther :
      ∀ key, key ≠ "outcomeReceiptRef" →
        (mergeMembers ms (recordMembers
          [("outcomeReceiptRef",
            outcomeReceiptRefRecord.optional.encode
              (some receipt))])).lookup key =
          ms.lookup key := by
    intro key hKey
    apply Field.lookup_mergeMembers_of_not_named hKeys
    simp [hKey]
  apply decode_eq_some_iff.mpr
  rw [hOther "phase" (by decide),
    hOther "ephemeralTenantRef" (by decide),
    hOther "scanJobs" (by decide),
    hOther "evidenceBundleHash" (by decide),
    hOther "cartorioArtifactState" (by decide),
    hOther "gateDecision" (by decide),
    hOther "startedAt" (by decide),
    hOther "terminalAt" (by decide),
    hOther "conditions" (by decide),
    hOther "observedGeneration" (by decide)]
  refine ⟨hPhase, hTenant, hJobs, hHash, hCartorio, hGate,
    ?_, hStarted, hTerminal, hConds, hGeneration⟩
  rw [Field.decode_lookup_mergeMembers _ hKeys rfl
    (fun _ _ => trivial) hReceipt]
  rfl

/- `serde_json::to_value(&status)`. -/
def toValue (s : AkeylessImageValidationStatus) : Json :=
  record s.fields

/- The status of a stored object, absent or null included. -/
def ofStored :
    Option Json →
      Option (Option AkeylessImageValidationStatus) :=
  Field.decodeOptional (fun j => j.asObject.bind decode)

theorem decode_nil : decode [] = some default := rfl

/- A stored status is an object that decodes, or missing. -/
theorem ofStored_eq_some
    {stored : Option Json}
    {old : Option AkeylessImageValidationStatus}
    (hOld : ofStored stored = some old) :
    decode (stored.getD .null).members =
      some (old.getD default) :=
  Field.decode_members_of_decodeOptional decode_nil hOld

/- A stored status that is patched is read as the two merged. -/
theorem ofStored_merge
    {stored : Option Json}
    {old : Option AkeylessImageValidationStatus}
    {new : AkeylessImageValidationStatus}
    (hWritable : new.Writable)
    (hOld : ofStored stored = some old) :
    ofStored (mergeMember stored (some new.toValue)) =
      some (some ((old.getD default).mergeOver new)) :=
  Field.decodeOptional_mergeMember_obj
    (decode_merge hWritable (ofStored_eq_some hOld))

/- A decision with a null action spoils the status. -/
theorem ofStored_merge_null
    {new : AkeylessImageValidationStatus}
    {g : GateDecision}
    (hGate : new.gateDecision = some g)
    (hNull : g.action = .null)
    (stored : Option Json) :
    ofStored (mergeMember stored (some new.toValue)) =
      none := by
  have hKeys := nodup_fields new
  unfold toValue record
  rw [mergeMember_some_obj]
  cases hRead : decode (mergeMembers
      (stored.getD .null).members
      (recordMembers new.fields)) with
  | none =>
      simp [ofStored, Field.decodeOptional, asObject, hRead]
  | some old =>
      have hDecoded :=
        (decode_eq_some_iff.mp hRead).2.2.2.2.2.1
      rw [lookup_mergeMembers (nodup_recordMembers hKeys),
        lookup_recordMembers hKeys] at hDecoded
      have hMember :
          (new.fields.lookup "gateDecision").join =
            some (record g.fields) := by
        change (gateDecisionRecord.optional.encode
          new.gateDecision) = _
        rw [hGate]
        rfl
      rw [hMember, record, mergeMember_some_obj] at hDecoded
      simp [Record.optional, Record.ofJson,
        Field.decodeOptional, gateDecisionRecord,
        GateDecision.decode_merge_null hNull] at hDecoded

/- The action of a stored decision is the stored member. -/
theorem get?_action_of_ofStored
    {j : Json}
    {st : AkeylessImageValidationStatus}
    {g : GateDecision}
    (hStored : ofStored (some j) = some (some st))
    (hGate : st.gateDecision = some g) :
    ∃ decision, j.get? "gateDecision" = some decision ∧
      decision.get? "action" = some g.action := by
  have hMembers : decode j.members = some st :=
    ofStored_eq_some hStored
  have hDecoded :=
    (decode_eq_some_iff.mp hMembers).2.2.2.2.2.1
  rw [hGate] at hDecoded
  change gateDecisionRecord.optional.decode
    (j.get? "gateDecision") = _ at hDecoded
  cases hMember : j.get? "gateDecision" with
  | none =>
      rw [hMember] at hDecoded
      simp [Record.optional, Field.decodeOptional]
        at hDecoded
  | some decision =>
      refine ⟨decision, rfl, ?_⟩
      rw [hMember] at hDecoded
      cases decision with
      | obj ms =>
          simp only [Record.optional, Record.ofJson,
            Field.decodeOptional, gateDecisionRecord,
            Option.map_eq_some_iff, Option.some.injEq,
            exists_eq_right, GateDecision.decode,
            Option.bind_eq_bind, Option.bind_eq_some_iff,
            Option.pure_def] at hDecoded
          rcases hDecoded with
            ⟨_, _, _, _, action, hAction, _, _, _, _, hEq⟩
          rw [← hEq]
          exact hAction
      | null =>
          simp [Record.optional, Field.decodeOptional]
            at hDecoded
      | bool b =>
          simp [Record.optional, Record.ofJson,
            Field.decodeOptional] at hDecoded
      | num n =>
          simp [Record.optional, Record.ofJson,
            Field.decodeOptional] at hDecoded
      | str s =>
          simp [Record.optional, Record.ofJson,
            Field.decodeOptional] at hDecoded
      | arr elems =>
          simp [Record.optional, Record.ofJson,
            Field.decodeOptional] at hDecoded

end AkeylessImageValidationStatus

/- `{ "outcomeReceiptRef": receipt }`. -/
def receiptPatch (receipt : OutcomeReceiptRef) : Json :=
  record
    [("outcomeReceiptRef",
      outcomeReceiptRefRecord.optional.encode
        (some receipt))]

namespace AkeylessImageValidationStatus

/- The patch of a receipt changes nothing but the receipt. -/
theorem ofStored_merge_receipt
    {stored : Option Json}
    {old : Option AkeylessImageValidationStatus}
    (receipt : OutcomeReceiptRef)
    (hOld : ofStored stored = some old) :
    ofStored
        (mergeMember stored
          (some (receiptPatch receipt))) =
      some (some { old.getD default with
        outcomeReceiptRef := some receipt }) :=
  Field.decodeOptional_mergeMember_obj
    (decode_merge_receipt receipt (ofStored_eq_some hOld))

/- The receipt is read back, whatever status was stored. -/
theorem decode_receipt_of_merge
    (stored : Option Json)
    (receipt : OutcomeReceiptRef) :
    outcomeReceiptRefRecord.optional.decode
        (((mergeMember stored
          (some (receiptPatch receipt))).getD
            .null).members.lookup "outcomeReceiptRef") =
      some (some receipt) := by
  have hOne :
      (mergeMember stored
        (some (receiptPatch receipt))).getD .null =
        .obj (mergeMembers (stored.getD .null).members
          [("outcomeReceiptRef",
            record receipt.fields)]) := rfl
  rw [hOne]
  change outcomeReceiptRefRecord.optional.decode
    ((mergeMembers _ _).lookup _) = _
  rw [lookup_mergeMembers (by simp)]
  change Field.decodeOptional _
    (mergeMember _ (some (record receipt.fields))) = _
  rw [record, mergeMember_some_obj]
  change (OutcomeReceiptRef.decode (mergeMembers _
    (recordMembers receipt.fields))).map some = _
  rw [OutcomeReceiptRef.decode_mergeMembers]
  rfl

end AkeylessImageValidationStatus

end EngenhoPromessa
