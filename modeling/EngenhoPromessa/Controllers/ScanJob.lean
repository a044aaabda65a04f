import EngenhoPromessa.Controllers.Cluster
import EngenhoPromessa.ScannerCatalog.Parsers

/-
  The scan job controller: it starts the scanner's Job, waits
  for it and records what it found.

  Key definitions include:
    * `ScanJobController.renderJob`
    * `ScanJobController.collectResults`
    * `ScanJobController.patchPhase`
    * `ScanJobController.reconcile`
-/

------------------------------------------------------------
-- The Scanner Job
------------------------------------------------------------

namespace EngenhoPromessa

namespace ScanJobController

/- The name of a scan job's `Job`. -/
def jobName (sj : ScanJob) : String :=
  "job-" ++ sj.metadata.nameAny

/- `owner_refs_of`: a `Job` is owned by its scan job. -/
def ownerRefsOf (parent : ScanJob) : List OwnerReference :=
  [{ apiVersion := "validation.pleme.io/v1"
     kind := "ScanJob"
     name := parent.metadata.nameAny
     uid := parent.metadata.uidOrDefault
     controller := some true
     blockOwnerDeletion := some true }]

/-
  `scanner_image_and_args`: the catalog's image through the
  mirror, and its arguments for the target.
-/
def scannerImageAndArgs
    (env : Env)
    (sj : ScanJob) : String × List String :=
  let entry := Catalog.forKind sj.spec.scanner
  let target : Option String :=
    match entry.targetField with
    | .digest => sj.spec.targetDigest
    | .source => sj.spec.targetSource
    | .tenantUrl => sj.spec.targetTenantUrl
    | .none => none
  (mirrorImage entry.image (env "SCANNER_REGISTRY_MIRROR"),
    entry.args.render target)

/- How many failed pods a scanner job is allowed. -/
def backoffLimit : Int := 2

/-
  `render_job`, without the volumes and limits no decision
  reads.
-/
def renderJob
    (env : Env)
    (jobName : String)
    (sj : ScanJob) : Job :=
  let (image, args) := scannerImageAndArgs env sj
  { metadata :=
      { name := some jobName
        «namespace» := some sj.metadata.namespaceOrDefault
        labels :=
          [("scan-job", sj.metadata.nameAny),
            ("scanner", sj.spec.scanner.debugName.toLower)]
        ownerReferences := ownerRefsOf sj
        uid := none
        generation := none }
    spec :=
      { backoffLimit := some backoffLimit
        ttlSecondsAfterFinished := some 3600
        podLabels := [("scan-job", sj.metadata.nameAny)]
        restartPolicy := some "Never"
        priorityClassName := env.nonempty "SCAN_PRIORITY_CLASS"
        image := image
        args := args }
    status := none }

/- Create the `Job` unless it is there. -/
def createScannerJob
    (ctx : ReconcileCtx)
    (sj : ScanJob) : Kube Unit := do
  let ns := sj.metadata.namespaceOrDefault
  let existing ← Api.getJob ns (jobName sj)
  if existing.isSome then
    return ()
  else
    Api.createJob ns (renderJob ctx.env (jobName sj) sj)

end ScanJobController

end EngenhoPromessa

------------------------------------------------------------
-- Results
------------------------------------------------------------

namespace EngenhoPromessa

namespace Job

/- `job.status.succeeded.unwrap_or(0)`. -/
def succeeded (job : Job) : Int :=
  (job.status.bind JobStatus.succeeded).getD 0

/- The failed attempts of a `Job`. -/
def failed (job : Job) : Int :=
  (job.status.bind JobStatus.failed).getD 0

end Job

namespace ScanJobController

variable [Chrono] [SerdeJson] [Blake3]

/- Output that cannot be parsed counts as no findings. -/
def parseScannerOutput
    (ctx : ReconcileCtx)
    (raw : String)
    (scanner : ScannerKind) : List ScanFinding :=
  match ScannerCatalog.parseScannerOutput
      (fun i => ctx.clock (.firstSeen i)) raw scanner with
  | .ok findings => findings
  | .error (.noParser _) => []
  | .error (.json _ _) => []

/- The job succeeded or failed at least once. -/
def isDone (job : Job) : Bool :=
  0 < job.succeeded || 0 < job.failed

/- The label a scan job's pods are selected by. -/
def podLabel (sj : ScanJob) : String × String :=
  ("scan-job", sj.metadata.nameAny)

/- The hash of a scan job's findings. -/
def hashOf (findings : List ScanFinding) : String :=
  Blake3.hashHex
    (SerdeJson.toVec (findingsToValue findings))

/- The snapshot of a result kept for inspection. -/
def resultConfigMap
    (sj : ScanJob)
    (logs : String)
    (findings : List ScanFinding) : ConfigMap where
  metadata :=
    { name := some ("scan-result-" ++ sj.metadata.nameAny)
      «namespace» := some sj.metadata.namespaceOrDefault
      labels := [("scan-result", sj.metadata.nameAny)]
      ownerReferences := ownerRefsOf sj
      uid := none
      generation := none }
  data :=
    [("findings-count", toString findings.length),
      ("result.json", logs),
      ("scanner", sj.spec.scanner.debugName)]

/-
  Keep the inventory of a `syft` run; what fails here is
  only logged.
-/
def keepSnapshot
    (sj : ScanJob)
    (cm : ConfigMap) : Kube Unit := do
  let ns := sj.metadata.namespaceOrDefault
  let existing ← Api.getConfigMap ns cm.metadata.nameAny
  if existing.isNone then
    Fallible.unwrapOr () (Api.createConfigMap ns cm)

/- The findings in a pod's log and their hash. -/
def readPod
    (ctx : ReconcileCtx)
    (sj : ScanJob)
    (pod : Pod) : Kube (List ScanFinding × String) := do
  let ns := sj.metadata.namespaceOrDefault
  let logs ← Fallible.unwrapOr "" (Api.podLogs ns pod)
  let findings :=
    parseScannerOutput ctx logs sj.spec.scanner
  keepSnapshot sj (resultConfigMap sj logs findings)
  return (findings, hashOf findings)

/- The results of the scanner's job, when it is done. -/
def collectResults
    (ctx : ReconcileCtx)
    (sj : ScanJob) :
    Kube (Option (List ScanFinding × String)) := do
  let ns := sj.metadata.namespaceOrDefault
  match ← Api.getJob ns (jobName sj) with
  | none => return none
  | some job =>
      if !isDone job then
        return none
      else
        match ← Api.listPods ns (podLabel sj) with
        | [] =>
            return some ([],
              Blake3.hashHex "[]".toUTF8.data.toList)
        | pod :: _ =>
            let result ← readPod ctx sj pod
            return some result

end ScanJobController

end EngenhoPromessa

------------------------------------------------------------
-- The Reconcile Step
------------------------------------------------------------

namespace EngenhoPromessa

namespace ScanJobController

open Json

variable [Chrono] [SerdeJson] [Blake3]

/- The members of a status patch. -/
def phaseFields
    (phase : ScanJobPhase)
    (findings : Option (List ScanFinding))
    (attestation : Option AttestationRef) :
    List (String × Option Json) :=
  [("phase", (Field.required scanJobPhaseCodec).encode
      phase),
    ("findingsCount", findings.map (fun f =>
      ofInt f.length)),
    ("findings", findings.map findingsToValue),
    ("attestationRef", attestationRefRecord.optional.encode
      attestation)]

/- The status patch of a scan job. -/
def patchPhase
    («namespace» name : String)
    (phase : ScanJobPhase)
    (findings : Option (List ScanFinding))
    (attestation : Option AttestationRef) : Kube Unit :=
  Api.patchScanJobStatus «namespace» name
    (.obj [("status",
      record (phaseFields phase findings attestation))])

/- The event announcing one finding. -/
def findingRecorded
    (ctx : ReconcileCtx)
    (sj : ScanJob)
    (parent : AkeylessImageValidation)
    (i : Nat)
    (f : ScanFinding) : FindingRecorded where
  validationRunUid := parent.metadata.uidOrDefault
  service := parent.spec.service
  imageDigest := parent.spec.imageDigest
  imageRepo := parent.spec.imageRepo
  observedAt := ctx.clock (.recordedAt i)
  scanner := f.scanner
  scannerClass := (Catalog.forKind sj.spec.scanner).class
  severity := f.severity
  cveId := f.cveId
  package := none

/- One event per finding, if the parent can be read. -/
def emitFindingsRecorded
    (ctx : ReconcileCtx)
    (sj : ScanJob)
    (findings : List ScanFinding) : Kube Unit := do
  if findings.isEmpty then
    return ()
  else
    let parent ← Fallible.unwrapOr none
      (Api.getValidation sj.metadata.namespaceOrDefault
        sj.spec.parentValidation)
    match parent with
    | none => return ()
    | some parent =>
        (findings.mapIdx (findingRecorded ctx sj parent)
          ).forM (fun e => Kube.publish (.findingRecorded e))

/- The attestation of a scan job: its hash, unsigned. -/
def attestationOf
    (ctx : ReconcileCtx)
    (hash : String) : AttestationRef where
  hash := hash
  ed25519Sig := none
  signedAt := ctx.clock .signedAt

/- One step; it answers the seconds until the next one. -/
def reconcile
    (ctx : ReconcileCtx)
    (sj : ScanJob) : Kube Nat := do
  let name := sj.metadata.nameAny
  let ns := sj.metadata.namespaceOrDefault
  match sj.phase.getD .pending with
  | .pending =>
      createScannerJob ctx sj
      patchPhase ns name .forking none none
      return 15
  | .forking =>
      patchPhase ns name .execing none none
      return 15
  | .execing =>
      patchPhase ns name .running none none
      return 15
  | .running =>
      match ← collectResults ctx sj with
      | none => return 15
      | some (findings, hash) =>
          patchPhase ns name .attested (some findings)
            (some (attestationOf ctx hash))
          emitFindingsRecorded ctx sj findings
          return 15
  | .attested => return 3600
  | .reconverging => return 3600
  | .exiting => return 3600
  | .failed => return 3600
  | .zombie => return 3600
  | .reaped => return 3600

end ScanJobController

end EngenhoPromessa

------------------------------------------------------------
-- What A Status Patch Leaves
------------------------------------------------------------

namespace EngenhoPromessa

namespace ScanJobController

open Json

variable [Chrono] [SerdeJson]

/- The status read after a phase was patched into it. -/
def patchedStatus
    (old : ScanJobStatus)
    (phase : ScanJobPhase)
    (findings : Option (List ScanFinding))
    (attestation : Option AttestationRef) : ScanJobStatus :=
  { old with
    phase := some phase
    findings := findings.getD old.findings
    findingsCount :=
      (findings.map List.length).getD old.findingsCount
    attestationRef :=
      match attestation with
      | none => old.attestationRef
      | some a => some (a.mergeOver old.attestationRef) }

theorem nodup_phaseFields
    (phase : ScanJobPhase)
    (findings : Option (List ScanFinding))
    (attestation : Option AttestationRef) :
    ((phaseFields phase findings attestation).map
      Prod.fst).Nodup := by
  simp [phaseFields]

/-
  A patched status reads as the old one with the fields
  replaced.
-/
theorem ofStored_merge_phaseFields
    {stored : Option Json}
    {old : Option ScanJobStatus}
    (phase : ScanJobPhase)
    (findings : Option (List ScanFinding))
    (attestation : Option AttestationRef)
    (hOld : ScanJobStatus.ofStored stored = some old) :
    ScanJobStatus.ofStored
        (mergeMember stored (some (record
          (phaseFields phase findings attestation)))) =
      some (some (patchedStatus (old.getD .default) phase
        findings attestation)) := by
  apply Field.decodeOptional_mergeMember_obj
  have hKeys := nodup_phaseFields phase findings attestation
  rcases ScanJobStatus.decode_eq_some_iff.mp
    (ScanJobStatus.ofStored_eq_some hOld) with
    ⟨hPhase, hProcess, hFindings, hCount, hAttestation,
      hConds, hGeneration⟩
  have hMember :
      ∀ key,
        (mergeMembers (stored.getD .null).members
          (recordMembers (phaseFields phase findings
            attestation))).lookup key =
          mergeMember
            ((stored.getD .null).members.lookup key)
            ((recordMembers (phaseFields phase findings
              attestation)).lookup key) :=
    lookup_mergeMembers (nodup_recordMembers hKeys) _
  have hPhaseField :
      (phaseFields phase findings attestation).lookup
          "phase" =
        some ((Field.optional scanJobPhaseCodec).encode
          (some phase)) := rfl
  apply ScanJobStatus.decode_eq_some_iff.mpr
  refine ⟨Field.decode_lookup_mergeMembers _ hKeys
      hPhaseField trivial hPhase, ?_, ?_, ?_, ?_, ?_, ?_⟩
  · rw [Field.lookup_mergeMembers_of_not_named hKeys
      (by simp [phaseFields])]
    exact hProcess
  · rw [hMember, lookup_recordMembers hKeys]
    cases findings with
    | none => exact hFindings
    | some fs =>
        exact scanFindingCodec.mapM_decode_encode fs
  · rw [hMember, lookup_recordMembers hKeys]
    cases findings with
    | none => exact hCount
    | some fs =>
        exact AtomicCodec.nat.decode_encode fs.length
  · rw [Field.decode_lookup_mergeMembers _ hKeys rfl
      (fun _ _ => trivial) hAttestation]
    cases attestation with
    | none => rfl
    | some a => rfl
  · rw [Field.lookup_mergeMembers_of_not_named hKeys
      (by simp [phaseFields])]
    exact hConds
  · rw [Field.lookup_mergeMembers_of_not_named hKeys
      (by simp [phaseFields])]
    exact hGeneration

end ScanJobController

end EngenhoPromessa
