import EngenhoPromessa.Controllers.Gate
import Mathlib.Data.List.Sort

/-
  The image validation controller: the handler of each phase
  and the reconcile step around them.

  A handler reads the cluster, may create child resources,
  and answers with the next status, if any; the step patches
  that status and publishes what changed.

  Key definitions include:
    * `ImageValidation.handlePending`
    * `ImageValidation.handleProvisioning`
    * `ImageValidation.handleScanning`
    * `ImageValidation.handleAggregating`
    * `ImageValidation.handleAttesting`
    * `ImageValidation.handleGating`
    * `ImageValidation.reconcile`

  Key theorems include:
    * `ImageValidation.keeps_handleProvisioning`
    * `ImageValidation.keeps_nextStatus`
-/

------------------------------------------------------------
-- Child Resources
------------------------------------------------------------

namespace EngenhoPromessa

namespace ImageValidation

/- `owner_refs_of`: children are owned by their validation. -/
def ownerRefsOf
    (parent : AkeylessImageValidation) :
    List OwnerReference :=
  [{ apiVersion := "validation.pleme.io/v1"
     kind := "AkeylessImageValidation"
     name := parent.metadata.nameAny
     uid := parent.metadata.uidOrDefault
     controller := some true
     blockOwnerDeletion := some true }]

/- The name of a validation's tenant. -/
def tenantName (obj : AkeylessImageValidation) : String :=
  "eph-" ++ obj.metadata.nameAny

/- The tenant `handle_pending` creates. -/
def buildTenant
    (obj : AkeylessImageValidation) :
    AkeylessEphemeralTenant where
  metadata :=
    { name := some (tenantName obj)
      «namespace» := some obj.metadata.namespaceOrDefault
      labels := [("validation", obj.metadata.nameAny)]
      ownerReferences := ownerRefsOf obj
      uid := none
      generation := none }
  spec :=
    { digestSet :=
        [{ service := obj.spec.service
           digest := obj.spec.imageDigest }]
      parentValidation := obj.metadata.nameAny
      infraTemplate := "akeyless-eph-saas"
      warmPool := none
      ttlSeconds := 3600 }
  status := none

/-
  `pullable_image_ref`: through the registry mirror when one
  is set.
-/
def pullableImageRef
    (env : Env)
    (repo digest : String) : String :=
  match env.nonempty "SCANNER_REGISTRY_MIRROR" with
  | some mirror =>
      Str.trimEndMatches '/' mirror ++ "/" ++ repo ++ "@" ++
        digest
  | none => repo ++ "@" ++ digest

/-
  `build_scan_job`: the target is the one field the
  scanner's catalog entry asks for.
-/
def buildScanJob
    (env : Env)
    (name ns : String)
    (parent : AkeylessImageValidation)
    (tenant : AkeylessEphemeralTenant)
    (scanner : RequiredScanner) : ScanJob :=
  let kind := scannerKindFromRequired scanner
  let (digest, source, url) :
      Option String × Option String × Option String :=
    match (Catalog.forKind kind).targetField with
    | .digest =>
        (some (pullableImageRef env parent.spec.imageRepo
          parent.spec.imageDigest), none, none)
    | .source =>
        (none, some ("https://github.com/akeylesslabs/" ++
          "akeyless-main-repo"), none)
    | .tenantUrl =>
        (none, none, tenant.status.bind
          AkeylessEphemeralTenantStatus.ingressUrl)
    | .none => (none, none, none)
  { metadata :=
      { name := some name
        «namespace» := some ns
        labels :=
          [("scanner", scannerKebab scanner),
            ("validation", parent.metadata.nameAny)]
        ownerReferences := ownerRefsOf parent
        uid := none
        generation := none }
    spec :=
      { scanner := kind
        scannerClass := scannerClassFor scanner
        targetDigest := digest
        targetSource := source
        targetTenantUrl := url
        parentValidation := parent.metadata.nameAny
        pack := parent.spec.pack
        imageOverride := none }
    status := none }

/- The name of a validation's scan job of one scanner. -/
def scanJobName
    (obj : AkeylessImageValidation)
    (scanner : RequiredScanner) : String :=
  "sj-" ++ scannerKebab scanner ++ "-" ++
    obj.metadata.nameAny

/- A tenant counts as ready in `Ready` and in `Scanning`. -/
def isReady
    (tenant : AkeylessEphemeralTenant) : Bool :=
  match tenant.status.bind
      AkeylessEphemeralTenantStatus.phase with
  | some .ready => true
  | some .scanning => true
  | _ => false

/- The scan job needs no further work for the aggregate. -/
def isFinished (sj : ScanJob) : Bool :=
  match sj.phase with
  | some .attested => true
  | some .failed => true
  | some .reaped => true
  | _ => false

/- The summary of a scan job in its parent's status. -/
def summaryOf (sj : ScanJob) : ScanJobSummary where
  name := sj.metadata.nameAny
  scanner := sj.spec.scanner
  phase := sj.phase.getD .pending
  findingsCount :=
    (sj.status.map ScanJobStatus.findingsCount).getD 0

end ImageValidation

end EngenhoPromessa

------------------------------------------------------------
-- Evidence
------------------------------------------------------------

namespace EngenhoPromessa

namespace ImageValidation

/-
  Findings are sorted by scanner, then by `cve_id`, then by
  first sight.
-/
def findingOrder (a b : ScanFinding) : Ordering :=
  (compare a.scanner b.scanner).then
    ((compare a.cveId b.cveId).then
      (compare a.firstSeen b.firstSeen))

/- A stable sort of the findings of all children. -/
def sortedFindings
    (children : List ScanJob) : List ScanFinding :=
  (children.flatMap childFindings).insertionSort
    (fun a b => findingOrder a b ≠ .gt)

/- The bytes an evidence hash is taken of. -/
def canonicalFindingsBytes
    [Chrono]
    [SerdeJson]
    (children : List ScanJob) : List UInt8 :=
  SerdeJson.toVec (findingsToValue (sortedFindings children))

end ImageValidation

end EngenhoPromessa

------------------------------------------------------------
-- Phase Handlers
------------------------------------------------------------

namespace EngenhoPromessa

namespace ImageValidation

variable [Chrono] [SerdeJson] [Blake3] [PromessaSerde]

/- The status of a validation whose tenant exists. -/
def provisionedStatus
    (ctx : ReconcileCtx)
    (obj : AkeylessImageValidation) :
    AkeylessImageValidationStatus :=
  let new := obj.statusOrDefault
  { new with
    phase := some .provisioning
    ephemeralTenantRef := some (tenantName obj)
    startedAt :=
      new.startedAt.or (some (ctx.clock .startedAt))
    observedGeneration := obj.generation }

/- `handle_pending`: make sure that the tenant exists. -/
def handlePending
    (ctx : ReconcileCtx)
    (obj : AkeylessImageValidation) :
    Kube (Option AkeylessImageValidationStatus) := do
  let ns := obj.metadata.namespaceOrDefault
  let existing ← Api.getTenant ns (tenantName obj)
  if existing.isNone then
    Api.createTenant ns (buildTenant obj)
  return some (provisionedStatus ctx obj)

/- Create the scan job of one scanner unless it exists. -/
def provisionScanJob
    (ctx : ReconcileCtx)
    (obj : AkeylessImageValidation)
    (tenant : AkeylessEphemeralTenant)
    (scanner : RequiredScanner) : Kube ScanJobSummary := do
  let ns := obj.metadata.namespaceOrDefault
  let name := scanJobName obj scanner
  let existing ← Api.getScanJob ns name
  if existing.isNone then
    Api.createScanJob ns
      (buildScanJob ctx.env name ns obj tenant scanner)
  return {
    name := name
    scanner := scannerKindFromRequired scanner
    phase := .pending
    findingsCount := 0 }

/- The tenant the status refers to, or the default name. -/
def tenantRef (obj : AkeylessImageValidation) : String :=
  (obj.status.bind
    AkeylessImageValidationStatus.ephemeralTenantRef).getD
      (tenantName obj)

/- The status of a validation whose scan jobs exist. -/
def scanningStatus
    (obj : AkeylessImageValidation)
    (summaries : List ScanJobSummary) :
    AkeylessImageValidationStatus :=
  { obj.statusOrDefault with
    phase := some .scanning
    scanJobs := summaries
    observedGeneration := obj.generation }

/-
  `handle_provisioning`: wait for the tenant, then create
  the scan jobs.
-/
def handleProvisioning
    (ctx : ReconcileCtx)
    (obj : AkeylessImageValidation) :
    Kube (Option AkeylessImageValidationStatus) := do
  let ns := obj.metadata.namespaceOrDefault
  match ← Api.getTenant ns (tenantRef obj) with
  | none => handlePending ctx obj
  | some tenant =>
      if !isReady tenant then
        return none
      else
        let spec :=
          securitySpecFor ctx.env obj.spec.promessaRef
        let summaries ← spec.requiredScanners.toList.mapM
          (provisionScanJob ctx obj tenant)
        return some (scanningStatus obj summaries)

/- The scan jobs that name this validation as their parent. -/
def childScanJobs
    (obj : AkeylessImageValidation) :
    Kube (List ScanJob) := do
  let items ←
    Api.listScanJobs obj.metadata.namespaceOrDefault
  return items.filter (fun sj =>
    sj.spec.parentValidation = obj.metadata.nameAny)

/- The status of a validation while its scan jobs run. -/
def scannedStatus
    (obj : AkeylessImageValidation)
    (children : List ScanJob) :
    AkeylessImageValidationStatus :=
  let new := obj.statusOrDefault
  { new with
    scanJobs := children.map summaryOf
    phase :=
      if children.all isFinished then
        some .aggregating
      else
        new.phase
    observedGeneration := obj.generation }

/- `handle_scanning`: with no children it provisions again. -/
def handleScanning
    (ctx : ReconcileCtx)
    (obj : AkeylessImageValidation) :
    Kube (Option AkeylessImageValidationStatus) := do
  let children ← childScanJobs obj
  if children.isEmpty then
    handleProvisioning ctx obj
  else
    return some (scannedStatus obj children)

/- The status of a validation with its evidence hashed. -/
def aggregatedStatus
    (obj : AkeylessImageValidation)
    (children : List ScanJob) :
    AkeylessImageValidationStatus :=
  { obj.statusOrDefault with
    phase := some .attesting
    evidenceBundleHash :=
      some (Blake3.hashHex (canonicalFindingsBytes children))
    observedGeneration := obj.generation }

/- `handle_aggregating`: hash the findings of the children. -/
def handleAggregating
    (obj : AkeylessImageValidation) :
    Kube (Option AkeylessImageValidationStatus) := do
  let children ← childScanJobs obj
  return some (aggregatedStatus obj children)

/- The status of a validation under attestation. -/
def attestedStatus
    (obj : AkeylessImageValidation) :
    AkeylessImageValidationStatus :=
  { obj.statusOrDefault with
    phase := some .gating
    cartorioArtifactState := some .pending
    observedGeneration := obj.generation }

/- `handle_attesting`, which makes no call. -/
def handleAttesting
    (obj : AkeylessImageValidation) :
    Kube (Option AkeylessImageValidationStatus) :=
  return some (attestedStatus obj)

/- `handle_gating`: judge the children. -/
def handleGating
    (ctx : ReconcileCtx)
    (obj : AkeylessImageValidation) :
    Kube (Option AkeylessImageValidationStatus) := do
  let children ← childScanJobs obj
  let spec := securitySpecFor ctx.env obj.spec.promessaRef
  return some (gatedStatus ctx spec obj children)

/- The handler of the current phase, if it has one. -/
def nextStatus
    (ctx : ReconcileCtx)
    (obj : AkeylessImageValidation) :
    Kube (Option AkeylessImageValidationStatus) :=
  match obj.currentPhase with
  | .pending => handlePending ctx obj
  | .provisioning => handleProvisioning ctx obj
  | .scanning => handleScanning ctx obj
  | .aggregating => handleAggregating obj
  | .attesting => handleAttesting obj
  | .gating => handleGating ctx obj
  | .passed => return none
  | .failed => return none
  | .quarantined => return none

end ImageValidation

end EngenhoPromessa

------------------------------------------------------------
-- What The Handlers Leave
------------------------------------------------------------

namespace EngenhoPromessa

namespace ImageValidation

open Fallible

variable {γ : Type} {view : World → γ}
variable [Chrono] [SerdeJson]
variable {ctx : ReconcileCtx} {obj : AkeylessImageValidation}

omit [SerdeJson] in
/- The pending phase keeps a view its two calls keep. -/
theorem keeps_handlePending
    (hGet :
      ∀ ns name, Keeps view (Api.getTenant ns name))
    (hCreate :
      ∀ ns tenant, Keeps view (Api.createTenant ns tenant)) :
    Keeps view (handlePending ctx obj) := by
  refine keeps_bind (hGet _ _) (fun existing => ?_)
  cases existing with
  | none =>
      exact keeps_bind (hCreate _ _) (fun _ => keeps_pure _ _)
  | some tenant => exact keeps_pure _ _

/- Providing a scan job keeps a view its two calls keep. -/
theorem keeps_provisionScanJob
    (hGet :
      ∀ ns name, Keeps view (Api.getScanJob ns name))
    (hCreate :
      ∀ ns scanJob,
        Keeps view (Api.createScanJob ns scanJob))
    (tenant : AkeylessEphemeralTenant)
    (scanner : RequiredScanner) :
    Keeps view (provisionScanJob ctx obj tenant scanner) := by
  refine keeps_bind (hGet _ _) (fun existing => ?_)
  cases existing with
  | none =>
      exact keeps_bind (hCreate _ _) (fun _ => keeps_pure _ _)
  | some scanJob => exact keeps_pure _ _

/- The provisioning phase keeps a view its parts keep. -/
theorem keeps_handleProvisioning
    (hGet :
      ∀ ns name, Keeps view (Api.getTenant ns name))
    (hPending : Keeps view (handlePending ctx obj))
    (hProvision :
      ∀ tenant scanner,
        Keeps view
          (provisionScanJob ctx obj tenant scanner)) :
    Keeps view (handleProvisioning ctx obj) := by
  refine keeps_bind (hGet _ _) (fun existing => ?_)
  cases existing with
  | none => exact hPending
  | some tenant =>
      dsimp only
      split
      · exact keeps_pure _ _
      · exact keeps_bind (keeps_mapM (hProvision tenant) _)
          (fun _ => keeps_pure _ _)

/- The phases whose handler may create a scan job. -/
def provisions : AkeylessImageValidationPhase → Bool
| .provisioning => true
| .scanning => true
| _ => false

/- Every phase keeps a view its parts keep. -/
theorem keeps_nextStatus
    [Blake3]
    [PromessaSerde]
    (hPending : Keeps view (handlePending ctx obj))
    (hProvisioning :
      provisions obj.currentPhase = true →
        Keeps view (handleProvisioning ctx obj))
    (hChildren : Keeps view (childScanJobs obj)) :
    Keeps view (nextStatus ctx obj) := by
  unfold nextStatus
  cases hPhase : obj.currentPhase with
  | pending => exact hPending
  | provisioning => exact hProvisioning (by rw [hPhase]; rfl)
  | scanning =>
      refine keeps_bind hChildren (fun children => ?_)
      split
      · exact hProvisioning (by rw [hPhase]; rfl)
      · exact keeps_pure _ _
  | aggregating =>
      exact keeps_bind hChildren (fun _ => keeps_pure _ _)
  | attesting => exact keeps_pure _ _
  | gating =>
      exact keeps_bind hChildren (fun _ => keeps_pure _ _)
  | passed => exact keeps_pure _ _
  | failed => exact keeps_pure _ _
  | quarantined => exact keeps_pure _ _

end ImageValidation

end EngenhoPromessa

------------------------------------------------------------
-- The Reconcile Step
------------------------------------------------------------

namespace EngenhoPromessa

namespace ImageValidation

variable [Chrono] [SerdeJson] [Blake3] [PromessaSerde]

/- A phase is announced when it is a new one. -/
def emitPhaseChanged
    (ctx : ReconcileCtx)
    (obj : AkeylessImageValidation)
    (previousPhase : AkeylessImageValidationPhase)
    (newStatus : AkeylessImageValidationStatus) :
    Kube Unit :=
  match newStatus.phase with
  | none => return ()
  | some newPhase =>
      if newPhase = previousPhase then
        return ()
      else
        Kube.publish (.phaseChanged
          { validationRunUid := obj.metadata.uidOrDefault
            service := obj.spec.service
            imageDigest := obj.spec.imageDigest
            imageRepo := obj.spec.imageRepo
            observedAt := ctx.clock .publishedAt
            «from» := some previousPhase
            «to» := newPhase })

/- A decision is announced once, when the object had none. -/
def emitDecision
    (ctx : ReconcileCtx)
    (obj : AkeylessImageValidation)
    (newStatus : AkeylessImageValidationStatus) :
    Kube Unit :=
  let previouslyHadDecision :=
    (obj.status.bind
      AkeylessImageValidationStatus.gateDecision).isSome
  match newStatus.gateDecision with
  | none => return ()
  | some gd =>
      if previouslyHadDecision then
        return ()
      else
        Kube.publish (.decisionEmitted
          { validationRunUid := obj.metadata.uidOrDefault
            service := obj.spec.service
            imageDigest := obj.spec.imageDigest
            imageRepo := obj.spec.imageRepo
            observedAt := ctx.clock .publishedAt
            severity := gd.severity
            verdict := gd.verdict
            reason := gd.reason })

/- `emit_post_patch`: the phase first, then the decision. -/
def emitPostPatch
    (ctx : ReconcileCtx)
    (obj : AkeylessImageValidation)
    (previousPhase : AkeylessImageValidationPhase)
    (newStatus : AkeylessImageValidationStatus) :
    Kube Unit := do
  emitPhaseChanged ctx obj previousPhase newStatus
  emitDecision ctx obj newStatus

/- The namespace the controller patches the object in. -/
def patchScope
    (ctx : ReconcileCtx)
    (obj : AkeylessImageValidation) : ApiScope :=
  .namespaced
    (ctx.namespace.getD obj.metadata.namespaceOrDefault)

/- One step; it answers the seconds until the next one. -/
def reconcile
    (ctx : ReconcileCtx)
    (obj : AkeylessImageValidation) : Kube Nat := do
  let current := obj.currentPhase
  if current.isTerminal then
    return 3600
  else
    match ← nextStatus ctx obj with
    | none => return 15
    | some newStatus =>
        Api.patchValidationStatus (patchScope ctx obj)
          obj.metadata.nameAny
          (.obj [("status", newStatus.toValue)])
        emitPostPatch ctx obj current newStatus
        return 15

end ImageValidation

end EngenhoPromessa
