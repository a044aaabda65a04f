import EngenhoPromessa.Crds.ScanJob

/-
  The `AkeylessEphemeralTenant` custom resource, the live
  target the dynamic scanners of one validation probe.

  Key definitions include:
    * `AkeylessEphemeralTenantPhase`
    * `AkeylessEphemeralTenantStatus`
    * `AkeylessEphemeralTenant`
-/

------------------------------------------------------------
-- The Resource
------------------------------------------------------------

namespace EngenhoPromessa

/- One image of the set a tenant runs. -/
structure DigestSetEntry where
  service : String
  digest : String
deriving DecidableEq, Repr

/-
  What is asked of a tenant: which images, for whom, for how
  long.
-/
structure AkeylessEphemeralTenantSpec where
  digestSet : List DigestSetEntry
  parentValidation : String
  infraTemplate : String
  warmPool : Option String
  ttlSeconds : Nat
deriving DecidableEq, Repr

/- The life of a tenant; not all phases are ever entered. -/
inductive AkeylessEphemeralTenantPhase where
  | pending
  | infraProvisioning
  | chartRendering
  | podsRunning
  | ready
  | scanning
  | teardown
  | reaped
  | failed
deriving DecidableEq, Repr

/- A piece of infrastructure that a tenant rests on. -/
structure InfraResourceRef where
  kind : String
  name : String
  status : String
deriving DecidableEq, Repr

/- What the controller has found out about a tenant. -/
structure AkeylessEphemeralTenantStatus where
  phase : Option AkeylessEphemeralTenantPhase
  infraResourceRefs : List InfraResourceRef
  helmReleaseRef : Option String
  ingressUrl : Option String
  podsReady : Nat
  podsTotal : Nat
  podsReadyOverTotal : Option String
  allocatedAt : Option DateTime
  readyAt : Option DateTime
  teardownStartedAt : Option DateTime
  conditions : List TypedCondition
  observedGeneration : Int
deriving DecidableEq, Repr

namespace AkeylessEphemeralTenantStatus

/- `AkeylessEphemeralTenantStatus::default()`. -/
def default : AkeylessEphemeralTenantStatus where
  phase := none
  infraResourceRefs := []
  helmReleaseRef := none
  ingressUrl := none
  podsReady := 0
  podsTotal := 0
  podsReadyOverTotal := none
  allocatedAt := none
  readyAt := none
  teardownStartedAt := none
  conditions := []
  observedGeneration := 0

end AkeylessEphemeralTenantStatus

/- The resource `AkeylessEphemeralTenant`. -/
structure AkeylessEphemeralTenant where
  metadata : ObjectMeta
  spec : AkeylessEphemeralTenantSpec
  status : Option AkeylessEphemeralTenantStatus
deriving DecidableEq, Repr

namespace AkeylessEphemeralTenant

/- The phase a step starts from. -/
def currentPhase
    (obj : AkeylessEphemeralTenant) :
    AkeylessEphemeralTenantPhase :=
  (obj.status.bind
    AkeylessEphemeralTenantStatus.phase).getD .pending

/- `obj.status.clone().unwrap_or_default()`. -/
def statusOrDefault
    (obj : AkeylessEphemeralTenant) :
    AkeylessEphemeralTenantStatus :=
  obj.status.getD .default

/- `obj.metadata.generation.unwrap_or(0)`. -/
def generation (obj : AkeylessEphemeralTenant) : Int :=
  obj.metadata.generation.getD 0

end AkeylessEphemeralTenant

end EngenhoPromessa
