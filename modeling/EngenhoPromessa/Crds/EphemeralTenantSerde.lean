import EngenhoPromessa.Crds.EphemeralTenant
import EngenhoPromessa.Crds.ScanJobSerde

/-
  The JSON form of the `AkeylessEphemeralTenant` status and
  what a merge patch carrying a whole status leaves of the
  status stored before.

  Key definitions include:
    * `infraResourceRefCodec`
    * `AkeylessEphemeralTenantStatus.mergeOver`
    * `AkeylessEphemeralTenantStatus.ofStored`

  Key theorems include:
    * `AkeylessEphemeralTenantStatus.ofStored_merge`
-/

------------------------------------------------------------
-- Phases And Resource References
------------------------------------------------------------

namespace EngenhoPromessa

open Json

/- The phases under the names they are stored by. -/
def ephemeralTenantPhaseCodec :
    AtomicCodec AkeylessEphemeralTenantPhase :=
  AtomicCodec.enumeration
    (fun
      | .pending => "Pending"
      | .infraProvisioning => "InfraProvisioning"
      | .chartRendering => "ChartRendering"
      | .podsRunning => "PodsRunning"
      | .ready => "Ready"
      | .scanning => "Scanning"
      | .teardown => "Teardown"
      | .reaped => "Reaped"
      | .failed => "Failed")
    [.pending, .infraProvisioning, .chartRendering,
      .podsRunning, .ready, .scanning, .teardown, .reaped,
      .failed]
    (by intro a; cases a <;> rfl)

namespace InfraResourceRef

/- The members, under the names they are stored by. -/
def fields
    (r : InfraResourceRef) : List (String × Option Json) :=
  [("kind", (Field.required .string).encode r.kind),
    ("name", (Field.required .string).encode r.name),
    ("status", (Field.required .string).encode r.status)]

/- All of the members must be there. -/
def decode
    (ms : List (String × Json)) :
    Option InfraResourceRef := do
  let kind ← (Field.required .string).decode
    (ms.lookup "kind")
  let name ← (Field.required .string).decode
    (ms.lookup "name")
  let status ← (Field.required .string).decode
    (ms.lookup "status")
  pure { kind, name, status }

/- What is written is read back. -/
theorem decode_fields (r : InfraResourceRef) :
    decode (recordMembers r.fields) = some r := by
  have hKeys : (r.fields.map Prod.fst).Nodup := by
    simp [fields]
  unfold decode
  rw [Field.decode_lookup_encode _ hKeys rfl,
    Field.decode_lookup_encode _ hKeys rfl,
    Field.decode_lookup_encode _ hKeys rfl]
  rfl

end InfraResourceRef

/- The resource reference as an object. -/
def infraResourceRefCodec : Codec InfraResourceRef where
  encode r := record r.fields
  decode j := j.asObject.bind InfraResourceRef.decode
  decode_encode r := InfraResourceRef.decode_fields r

end EngenhoPromessa

------------------------------------------------------------
-- The Status
------------------------------------------------------------

namespace EngenhoPromessa

open Json

variable [Chrono]

namespace AkeylessEphemeralTenantStatus

/- The members of a status, the optional ones left out. -/
def fields
    (s : AkeylessEphemeralTenantStatus) :
    List (String × Option Json) :=
  [("phase",
      (Field.optional ephemeralTenantPhaseCodec).encode
        s.phase),
    ("infraResourceRefs",
      (Field.list infraResourceRefCodec).encode
        s.infraResourceRefs),
    ("helmReleaseRef", (Field.optional .string).encode
      s.helmReleaseRef),
    ("ingressUrl", (Field.optional .string).encode
      s.ingressUrl),
    ("podsReady", (Field.withDefault .nat 0).encode
      s.podsReady),
    ("podsTotal", (Field.withDefault .nat 0).encode
      s.podsTotal),
    ("podsReadyOverTotal", (Field.optional .string).encode
      s.podsReadyOverTotal),
    ("allocatedAt", (Field.optional dateTimeCodec).encode
      s.allocatedAt),
    ("readyAt", (Field.optional dateTimeCodec).encode
      s.readyAt),
    ("teardownStartedAt",
      (Field.optional dateTimeCodec).encode
        s.teardownStartedAt),
    ("conditions", (Field.list typedConditionCodec).encode
      s.conditions),
    ("observedGeneration", (Field.withDefault .int 0).encode
      s.observedGeneration)]

/- Members that are missing have their defaults. -/
def decode
    (ms : List (String × Json)) :
    Option AkeylessEphemeralTenantStatus := do
  let phase ←
    (Field.optional ephemeralTenantPhaseCodec).decode
      (ms.lookup "phase")
  let infraResourceRefs ←
    (Field.list infraResourceRefCodec).decode
      (ms.lookup "infraResourceRefs")
  let helmReleaseRef ← (Field.optional .string).decode
    (ms.lookup "helmReleaseRef")
  let ingressUrl ← (Field.optional .string).decode
    (ms.lookup "ingressUrl")
  let podsReady ← (Field.withDefault .nat 0).decode
    (ms.lookup "podsReady")
  let podsTotal ← (Field.withDefault .nat 0).decode
    (ms.lookup "podsTotal")
  let podsReadyOverTotal ← (Field.optional .string).decode
    (ms.lookup "podsReadyOverTotal")
  let allocatedAt ← (Field.optional dateTimeCodec).decode
    (ms.lookup "allocatedAt")
  let readyAt ← (Field.optional dateTimeCodec).decode
    (ms.lookup "readyAt")
  let teardownStartedAt ←
    (Field.optional dateTimeCodec).decode
      (ms.lookup "teardownStartedAt")
  let conditions ← (Field.list typedConditionCodec).decode
    (ms.lookup "conditions")
  let observedGeneration ←
    (Field.withDefault .int 0).decode
      (ms.lookup "observedGeneration")
  pure { phase, infraResourceRefs, helmReleaseRef,
         ingressUrl, podsReady, podsTotal,
         podsReadyOverTotal, allocatedAt, readyAt,
         teardownStartedAt, conditions,
         observedGeneration }

/- The status read after `new` was merged over `old`. -/
def mergeOver
    (old new : AkeylessEphemeralTenantStatus) :
    AkeylessEphemeralTenantStatus where
  phase := new.phase.or old.phase
  infraResourceRefs :=
    if new.infraResourceRefs.isEmpty then
      old.infraResourceRefs
    else new.infraResourceRefs
  helmReleaseRef := new.helmReleaseRef.or old.helmReleaseRef
  ingressUrl := new.ingressUrl.or old.ingressUrl
  podsReady := new.podsReady
  podsTotal := new.podsTotal
  podsReadyOverTotal :=
    new.podsReadyOverTotal.or old.podsReadyOverTotal
  allocatedAt := new.allocatedAt.or old.allocatedAt
  readyAt := new.readyAt.or old.readyAt
  teardownStartedAt :=
    new.teardownStartedAt.or old.teardownStartedAt
  conditions :=
    if new.conditions.isEmpty then old.conditions
    else new.conditions
  observedGeneration := new.observedGeneration

theorem nodup_fields (s : AkeylessEphemeralTenantStatus) :
    (s.fields.map Prod.fst).Nodup := by
  simp [fields]

/- A whole status merged over a stored one. -/
theorem decode_merge
    (new : AkeylessEphemeralTenantStatus)
    {old : AkeylessEphemeralTenantStatus}
    {ms : List (String × Json)}
    (hOld : decode ms = some old) :
    decode (mergeMembers ms (recordMembers new.fields)) =
      some (mergeOver old new) := by
  have hKeys := nodup_fields new
  simp only [decode, Option.bind_eq_bind,
    Option.bind_eq_some_iff, Option.pure_def] at hOld
  rcases hOld with
    ⟨phase, hPhase, refs, hRefs, helm, hHelm, url, hUrl,
      ready, hReady, total, hTotal, values, hOver, allocated,
      hAllocated, readyAt, hReadyAt, teardown, hTeardown,
      conds, hConds, generation, hGeneration, hEq⟩
  obtain rfl := Option.some.inj hEq
  unfold decode
  rw [Field.decode_lookup_mergeMembers _ hKeys rfl trivial
      hPhase,
    Field.decode_lookup_mergeMembers _ hKeys rfl trivial
      hRefs,
    Field.decode_lookup_mergeMembers _ hKeys rfl trivial
      hHelm,
    Field.decode_lookup_mergeMembers _ hKeys rfl trivial
      hUrl,
    Field.decode_lookup_mergeMembers _ hKeys rfl trivial
      hReady,
    Field.decode_lookup_mergeMembers _ hKeys rfl trivial
      hTotal,
    Field.decode_lookup_mergeMembers _ hKeys rfl trivial
      hOver,
    Field.decode_lookup_mergeMembers _ hKeys rfl trivial
      hAllocated,
    Field.decode_lookup_mergeMembers _ hKeys rfl trivial
      hReadyAt,
    Field.decode_lookup_mergeMembers _ hKeys rfl trivial
      hTeardown,
    Field.decode_lookup_mergeMembers _ hKeys rfl trivial
      hConds,
    Field.decode_lookup_mergeMembers _ hKeys rfl trivial
      hGeneration]
  rfl

/- `serde_json::to_value(&status)`. -/
def toValue (s : AkeylessEphemeralTenantStatus) : Json :=
  record s.fields

/- The status of a stored object, absent or null included. -/
def ofStored :
    Option Json →
      Option (Option AkeylessEphemeralTenantStatus) :=
  Field.decodeOptional (fun j => j.asObject.bind decode)

theorem decode_nil : decode [] = some default := rfl

/- A stored status that is patched is read as the two merged. -/
theorem ofStored_merge
    {stored : Option Json}
    {old : Option AkeylessEphemeralTenantStatus}
    (new : AkeylessEphemeralTenantStatus)
    (hOld : ofStored stored = some old) :
    ofStored (mergeMember stored (some new.toValue)) =
      some (some ((old.getD default).mergeOver new)) :=
  Field.decodeOptional_mergeMember_obj
    (decode_merge new
      (Field.decode_members_of_decodeOptional decode_nil
        hOld))

end AkeylessEphemeralTenantStatus

end EngenhoPromessa
