import EngenhoPromessa.Crds.ImageValidation

/-
  The tables of the validation store that the controllers
  read and write: one row per validation run, and one row per
  step the dispatcher executed. The references between them
  are not enforced.

  A fresh row's own identifier is left out.

  Key definitions include:
    * `ValidationStore`
    * `ValidationStore.upsertValidationRun`
    * `ValidationStore.validationRunByUid`
    * `ValidationStore.appendReconcilerOutcome`

  Key theorems include:
    * `ValidationStore.validationRunByUid_upsert`
-/

------------------------------------------------------------
-- Rows
------------------------------------------------------------

namespace EngenhoPromessa

/- A row of `validation_runs`. -/
structure ValidationRunModel where
  uid : String
  «namespace» : String
  name : String
  imageDigest : String
  imageRepo : String
  phase : String
  evidenceBundleHash : Option String
  outcomeReceiptRef : Option Json
  observedGeneration : Int
  startedAt : DateTime
  lastSeenAt : DateTime
  terminalAt : Option DateTime

/- A row of `reconciler_outcomes`. -/
structure ReconcilerOutcomeModel where
  validationRunUid : String
  actionKind : String
  reconcilerKind : Option String
  actionPayload : Json
  outcome : String
  outcomeFlag : Option String
  outcomePayload : Option Json
  gateDecisionDecidedAt : DateTime
  dispatchedAt : DateTime

/- The two tables that the controllers write. -/
structure ValidationStore where
  validationRuns : List ValidationRunModel
  reconcilerOutcomes : List ReconcilerOutcomeModel

end EngenhoPromessa

------------------------------------------------------------
-- Operations
------------------------------------------------------------

namespace EngenhoPromessa

/- The text a phase is stored as. -/
def serializePhase : AkeylessImageValidationPhase → String
| .pending => "Pending"
| .provisioning => "Provisioning"
| .scanning => "Scanning"
| .aggregating => "Aggregating"
| .attesting => "Attesting"
| .gating => "Gating"
| .passed => "Passed"
| .failed => "Failed"
| .quarantined => "Quarantined"

/- The texts of the phases a run ends in. -/
def isTerminalPhase (serialized : String) : Bool :=
  serialized ∈ ["Passed", "Failed", "Quarantined"]

/- What is written of a run. -/
structure ValidationRunWrite where
  uid : String
  «namespace» : String
  name : String
  imageDigest : String
  imageRepo : String
  phase : AkeylessImageValidationPhase
  evidenceBundleHash : Option String
  outcomeReceiptRef : Option Json
  observedGeneration : Int

/- What is written of an outcome. -/
structure ReconcilerOutcomeWrite where
  validationRunUid : String
  actionKind : String
  reconcilerKind : Option String
  actionPayload : Json
  outcome : String
  outcomeFlag : Option String
  outcomePayload : Option Json
  gateDecisionDecidedAt : DateTime

namespace ValidationStore

/- No row in either table. -/
def empty : ValidationStore where
  validationRuns := []
  reconcilerOutcomes := []

/- The row of a run, if there is one. -/
def validationRunByUid
    (db : ValidationStore)
    (uid : String) : Option ValidationRunModel :=
  db.validationRuns.find? (fun run => run.uid = uid)

/- The existing row with what a write brings up to date. -/
def updateRun
    (now : DateTime)
    (write : ValidationRunWrite)
    (existing : ValidationRunModel) : ValidationRunModel :=
  { existing with
    phase := serializePhase write.phase
    evidenceBundleHash := write.evidenceBundleHash
    outcomeReceiptRef := write.outcomeReceiptRef
    observedGeneration := write.observedGeneration
    lastSeenAt := now
    terminalAt :=
      match existing.terminalAt with
      | some t => some t
      | none =>
          if isTerminalPhase (serializePhase write.phase) then
            some now
          else
            none }

/- A new row starts its times at the write. -/
def insertRun
    (now : DateTime)
    (write : ValidationRunWrite) : ValidationRunModel where
  uid := write.uid
  «namespace» := write.«namespace»
  name := write.name
  imageDigest := write.imageDigest
  imageRepo := write.imageRepo
  phase := serializePhase write.phase
  evidenceBundleHash := write.evidenceBundleHash
  outcomeReceiptRef := write.outcomeReceiptRef
  observedGeneration := write.observedGeneration
  startedAt := now
  lastSeenAt := now
  terminalAt :=
    if isTerminalPhase (serializePhase write.phase) then
      some now
    else
      none

/- Updates the row of the uid, or inserts one. -/
def upsertValidationRun
    (db : ValidationStore)
    (now : DateTime)
    (write : ValidationRunWrite) : ValidationStore :=
  match db.validationRunByUid write.uid with
  | some existing =>
      { db with
        validationRuns := db.validationRuns.map (fun run =>
          if run.uid = existing.uid then
            updateRun now write existing
          else
            run) }
  | none =>
      { db with
        validationRuns :=
          db.validationRuns ++ [insertRun now write] }

/- The row that is written for an outcome. -/
def insertOutcome
    (now : DateTime)
    (write : ReconcilerOutcomeWrite) :
    ReconcilerOutcomeModel where
  validationRunUid := write.validationRunUid
  actionKind := write.actionKind
  reconcilerKind := write.reconcilerKind
  actionPayload := write.actionPayload
  outcome := write.outcome
  outcomeFlag := write.outcomeFlag
  outcomePayload := write.outcomePayload
  gateDecisionDecidedAt := write.gateDecisionDecidedAt
  dispatchedAt := now

/- Every outcome has a row of its own. -/
def appendReconcilerOutcome
    (db : ValidationStore)
    (now : DateTime)
    (write : ReconcilerOutcomeWrite) : ValidationStore :=
  { db with
    reconcilerOutcomes :=
      db.reconcilerOutcomes ++ [insertOutcome now write] }

/- Outcomes do not touch the runs. -/
@[simp] theorem validationRuns_append
    (db : ValidationStore)
    (now : DateTime)
    (write : ReconcilerOutcomeWrite) :
    (db.appendReconcilerOutcome now write).validationRuns =
      db.validationRuns := rfl

/- So a run is found as before. -/
@[simp] theorem validationRunByUid_append
    (db : ValidationStore)
    (now : DateTime)
    (write : ReconcilerOutcomeWrite)
    (uid : String) :
    (db.appendReconcilerOutcome now
        write).validationRunByUid uid =
      db.validationRunByUid uid := rfl

/- A run is found under its own uid. -/
theorem uid_of_validationRunByUid
    {db : ValidationStore}
    {uid : String}
    {run : ValidationRunModel}
    (hRun : db.validationRunByUid uid = some run) :
    run ∈ db.validationRuns ∧ run.uid = uid :=
  ⟨List.mem_of_find?_eq_some hRun,
    by simpa using List.find?_some hRun⟩

/- An upsert leaves a row for its run. -/
theorem validationRunByUid_upsert
    (db : ValidationStore)
    (now : DateTime)
    (write : ValidationRunWrite) :
    ((db.upsertValidationRun now write).validationRunByUid
      write.uid).isSome = true := by
  unfold upsertValidationRun
  cases hRow : db.validationRunByUid write.uid with
  | none =>
      simp [validationRunByUid, insertRun]
  | some existing =>
      rcases uid_of_validationRunByUid hRow with
        ⟨hMem, hUid⟩
      rw [validationRunByUid, List.find?_isSome]
      refine ⟨updateRun now write existing,
        List.mem_map.mpr ⟨existing, hMem, if_pos rfl⟩, ?_⟩
      exact decide_eq_true hUid

end ValidationStore

end EngenhoPromessa
