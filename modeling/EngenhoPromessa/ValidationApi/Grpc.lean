import EngenhoPromessa.ReconcilerEngine.HttpActs
import EngenhoPromessa.ValidationStore.AuditTrail

/-
  The gRPC services of the validation store, and what they
  answer after any history of calls.

  A read of the store may fail; an answer is made from one.

  Key definitions include:
    * `AuditStore.findingsByRun`
    * `AuditStore.complianceSummary`
    * `Grpc.listValidations`
    * `Grpc.listFindings`
    * `Grpc.getSummary`

  Key theorems include:
    * `Grpc.lists_accepted`
    * `Grpc.summary_agrees`
-/

------------------------------------------------------------
-- Queries
------------------------------------------------------------

namespace EngenhoPromessa

open Std (ExtTreeMap)

namespace AuditStore

variable [Sql]

/- What a read that may fail has found. -/
def found
    {α : Type}
    (fault : Option DbErr)
    (a : α) : Except DbErr α :=
  match fault with
  | some e => .error e
  | none => .ok a

/- The run of a uid. -/
def validationRunByUid
    (fault : Option DbErr)
    (db : AuditStore)
    (uid : String) :
    Except DbErr (Option ValidationRunModel) :=
  found fault
    (db.validationRuns.find? (fun run => run.uid = uid))

/- The runs in a phase, the last seen first. -/
def validationRunsByPhase
    (fault : Option DbErr)
    (db : AuditStore)
    (phaseSerialized : String) :
    Except DbErr (List ValidationRunModel) :=
  found fault
    (Sql.orderByDesc ValidationRunModel.lastSeenAt
      (db.validationRuns.filter (fun run =>
        run.phase = phaseSerialized)))

/- The findings of a run, the last recorded first. -/
def findingsByRun
    (fault : Option DbErr)
    (db : AuditStore)
    (validationRunUid : String) :
    Except DbErr (List ScanFindingModel) :=
  found fault
    (Sql.orderByDesc ScanFindingModel.recordedAt
      (db.scanFindings.filter (fun f =>
        f.validationRunUid = validationRunUid)))

/- Not ordered by the same column as without a severity. -/
def findingsByRunAndSeverity
    (fault : Option DbErr)
    (db : AuditStore)
    (validationRunUid severitySerialized : String) :
    Except DbErr (List ScanFindingModel) :=
  found fault
    (Sql.orderByDesc ScanFindingModel.firstSeenAt
      (db.scanFindings.filter (fun f =>
        f.validationRunUid = validationRunUid ∧
          f.severity = severitySerialized)))

/- The decisions about a run, the last one first. -/
def decisionsByRun
    (fault : Option DbErr)
    (db : AuditStore)
    (validationRunUid : String) :
    Except DbErr (List DecisionAuditModel) :=
  found fault
    (Sql.orderByDesc DecisionAuditModel.decidedAt
      (db.decisionAudits.filter (fun d =>
        d.validationRunUid = validationRunUid)))

/- The outcomes of a run, the last dispatched first. -/
def outcomesByRun
    (fault : Option DbErr)
    (db : AuditStore)
    (validationRunUid : String) :
    Except DbErr (List (Identified ReconcilerOutcomeModel)) :=
  found fault
    (Sql.orderByDesc (fun o => o.row.dispatchedAt)
      (db.reconcilerOutcomes.filter (fun o =>
        o.row.validationRunUid = validationRunUid)))

omit [Sql] in
/- The number of runs in each phase. -/
def complianceSummary
    (fault : Option DbErr)
    (db : AuditStore) :
    Except DbErr (ExtTreeMap String Nat) :=
  found fault
    (db.validationRuns.foldl
      (fun byPhase r => Counts.increment byPhase r.phase) ∅)

end AuditStore

end EngenhoPromessa

------------------------------------------------------------
-- Messages
------------------------------------------------------------

namespace EngenhoPromessa

namespace Grpc

/- The status codes that are answered. -/
inductive Code where
  | invalidArgument
  | notFound
  | internal
deriving DecidableEq, Repr

/- An answer that is an error. -/
structure Status where
  code : Code
  message : String
deriving DecidableEq, Repr

/- A run as it is sent. -/
structure ValidationRun where
  uid : String
  «namespace» : String
  name : String
  imageDigest : String
  imageRepo : String
  phase : String
  evidenceBundleHash : Option String
  outcomeReceiptRefJson : Option String
  observedGeneration : Int
  startedAt : Option String
  lastSeenAt : Option String
  terminalAt : Option String
deriving DecidableEq, Repr

/- A finding as it is sent. -/
structure ScanFinding where
  id : String
  validationRunUid : String
  scanJobName : String
  scanner : String
  severity : String
  cveId : Option String
  cvssV3 : Option F32
  package : Option String
  fixedIn : Option String
  exceptionId : Option String
  message : Option String
  firstSeenAt : Option String
  recordedAt : Option String
deriving DecidableEq, Repr

/- An outcome as it is sent. -/
structure ReconcilerOutcome where
  id : String
  validationRunUid : String
  actionKind : String
  reconcilerKind : Option String
  actionPayloadJson : String
  outcome : String
  outcomeFlag : Option String
  outcomePayloadJson : Option String
  gateDecisionDecidedAt : Option String
  dispatchedAt : Option String
deriving DecidableEq, Repr

/- A decision as it is sent. -/
structure DecisionAudit where
  id : String
  validationRunUid : String
  severity : String
  verdict : String
  actionPayloadJson : String
  reason : Option String
  driftSnapshotJson : String
  decidedAt : Option String
  recordedAt : Option String
deriving DecidableEq, Repr

/- The number of runs in a phase. -/
structure PhaseCount where
  phase : String
  count : Nat
deriving DecidableEq, Repr

/- The numbers of all phases. -/
structure ComplianceSummary where
  byPhase : List PhaseCount
  total : Nat
deriving DecidableEq, Repr

/- Asks for the runs in a phase. -/
structure ListValidationsRequest where
  phase : Option String
  «namespace» : Option String
  limit : Option UInt32

/- Asks for the findings of a run. -/
structure ListFindingsRequest where
  validationRunUid : String
  severity : Option String

variable [Chrono] [HttpText]

/- A stored run, with its times as texts. -/
def modelToProtoValidation
    (m : ValidationRunModel) : ValidationRun where
  uid := m.uid
  «namespace» := m.«namespace»
  name := m.name
  imageDigest := m.imageDigest
  imageRepo := m.imageRepo
  phase := m.phase
  evidenceBundleHash := m.evidenceBundleHash
  outcomeReceiptRefJson :=
    m.outcomeReceiptRef.map HttpText.json
  observedGeneration := m.observedGeneration
  startedAt := some (Chrono.toRfc3339 m.startedAt)
  lastSeenAt := some (Chrono.toRfc3339 m.lastSeenAt)
  terminalAt := m.terminalAt.map Chrono.toRfc3339

omit [HttpText] in
/- A stored finding, with its times as texts. -/
def modelToProtoFinding
    (m : ScanFindingModel) : ScanFinding where
  id := m.id
  validationRunUid := m.validationRunUid
  scanJobName := m.scanJobName
  scanner := m.scanner
  severity := m.severity
  cveId := m.cveId
  cvssV3 := m.cvssV3
  package := m.package
  fixedIn := m.fixedIn
  exceptionId := m.exceptionId
  message := m.message
  firstSeenAt := some (Chrono.toRfc3339 m.firstSeenAt)
  recordedAt := some (Chrono.toRfc3339 m.recordedAt)

/- A stored outcome, with its payloads as texts. -/
def modelToProtoOutcome
    (m : Identified ReconcilerOutcomeModel) :
    ReconcilerOutcome where
  id := m.id
  validationRunUid := m.row.validationRunUid
  actionKind := m.row.actionKind
  reconcilerKind := m.row.reconcilerKind
  actionPayloadJson := HttpText.json m.row.actionPayload
  outcome := m.row.outcome
  outcomeFlag := m.row.outcomeFlag
  outcomePayloadJson := m.row.outcomePayload.map HttpText.json
  gateDecisionDecidedAt :=
    some (Chrono.toRfc3339 m.row.gateDecisionDecidedAt)
  dispatchedAt := some (Chrono.toRfc3339 m.row.dispatchedAt)

/- A stored decision, with its payloads as texts. -/
def modelToProtoDecision
    (m : DecisionAuditModel) : DecisionAudit where
  id := m.id
  validationRunUid := m.validationRunUid
  severity := m.severity
  verdict := m.verdict
  actionPayloadJson := HttpText.json m.actionPayload
  reason := m.reason
  driftSnapshotJson := HttpText.json m.driftSnapshot
  decidedAt := some (Chrono.toRfc3339 m.decidedAt)
  recordedAt := some (Chrono.toRfc3339 m.recordedAt)

end Grpc

end EngenhoPromessa

------------------------------------------------------------
-- Services
------------------------------------------------------------

namespace EngenhoPromessa

namespace Grpc

open AuditStore

variable [Sql] [Chrono] [HttpText]

omit [Sql] [Chrono] [HttpText] in
/- An error of the store is an internal one. -/
def stored
    {α : Type}
    (read : Except DbErr α) : Except Status α :=
  read.mapError (fun e =>
    { code := .internal, message := "store: " ++ e.text })

/- Without a phase nothing is listed; the limit comes last. -/
def listValidations
    (fault : Option DbErr)
    (db : AuditStore)
    (req : ListValidationsRequest) :
    Except Status (List ValidationRun) :=
  match req.phase with
  | some phase =>
      (stored (db.validationRunsByPhase fault phase)).map
        (fun rows =>
          ((rows.filter (fun r =>
              req.«namespace».all (fun ns =>
                r.«namespace» = ns))).take
            (req.limit.getD 4294967295).toNat).map
              modelToProtoValidation)
  | none =>
      .error
        { code := .invalidArgument
          message :=
            "ListValidationsRequest: provide \x60phase\x60 " ++
              "filter (broad list not yet wired — use REST " ++
              "\x60/v1/validations\x60 for the live informer " ++
              "projection instead)" }

/- The run of a uid, or that there is none. -/
def getValidation
    (fault : Option DbErr)
    (db : AuditStore)
    (uid : String) : Except Status ValidationRun :=
  match stored (db.validationRunByUid fault uid) with
  | .error status => .error status
  | .ok (some row) => .ok (modelToProtoValidation row)
  | .ok none =>
      .error
        { code := .notFound
          message := "validation uid=" ++ uid ++ " not found" }

/- The findings of a run, all or of one severity. -/
def listFindings
    (fault : Option DbErr)
    (db : AuditStore)
    (req : ListFindingsRequest) :
    Except Status (List ScanFinding) :=
  let rows :=
    match req.severity with
    | some severity =>
        db.findingsByRunAndSeverity fault req.validationRunUid
          severity
    | none => db.findingsByRun fault req.validationRunUid
  (stored rows).map (List.map modelToProtoFinding)

/- The outcomes of a run. -/
def listOutcomes
    (fault : Option DbErr)
    (db : AuditStore)
    (validationRunUid : String) :
    Except Status (List ReconcilerOutcome) :=
  (stored (db.outcomesByRun fault validationRunUid)).map
    (List.map modelToProtoOutcome)

/- The decisions about a run. -/
def listDecisions
    (fault : Option DbErr)
    (db : AuditStore)
    (validationRunUid : String) :
    Except Status (List DecisionAudit) :=
  (stored (db.decisionsByRun fault validationRunUid)).map
    (List.map modelToProtoDecision)

omit [Sql] [Chrono] [HttpText] in
/- The counts of all phases, and their sum. -/
def getSummary
    (fault : Option DbErr)
    (db : AuditStore) : Except Status ComplianceSummary :=
  (stored (db.complianceSummary fault)).map (fun summary =>
    { byPhase :=
        summary.toList.map (fun entry =>
          { phase := entry.1, count := entry.2 })
      total := (summary.toList.map Prod.snd).sum })

end Grpc

end EngenhoPromessa

------------------------------------------------------------
-- What Is Listed Of A Run
------------------------------------------------------------

namespace EngenhoPromessa

namespace Grpc

open AuditStore

/- All of the rows, in some order by a column, newest first. -/
def Lists
    {ρ ι : Type}
    (toItem : ρ → ι)
    (column : ρ → DateTime)
    (rows : List ρ)
    (items : List ι) : Prop :=
  ∃ ordered : List ρ,
    ordered.Perm rows ∧
      ordered.Pairwise (fun r r' => column r' ≤ column r) ∧
      items = ordered.map toItem

variable [Sql]

/- Some rows of a table whose keys differ, listed. -/
theorem lists_filter
    {ρ ι : Type}
    (toItem : ρ → ι)
    (itemId : ι → String)
    {rowId : ρ → String}
    (hId : ∀ r, itemId (toItem r) = rowId r)
    {table : List ρ}
    (hKeys : (table.map rowId).Nodup)
    (column : ρ → DateTime)
    (wanted : ρ → Bool) :
    let items :=
      (Sql.orderByDesc column (table.filter wanted)).map
        toItem
    (items.map itemId).Nodup ∧
      Lists toItem column (table.filter wanted) items := by
  intro items
  have hPerm :=
    Sql.perm_orderByDesc column (table.filter wanted)
  refine ⟨?_, _, hPerm, Sql.pairwise_orderByDesc _ _, rfl⟩
  have hIds :
      items.map itemId =
        (Sql.orderByDesc column (table.filter wanted)).map
          rowId := by
    simp [items, Function.comp_def, hId]
  rw [hIds, (hPerm.map rowId).nodup_iff]
  exact hKeys.sublist (List.filter_sublist.map rowId)

/- The store after a history, from an empty one. -/
def storeAfter (es : List Entry) : AuditStore :=
  Run.run step empty es

theorem hasKeys_storeAfter (es : List Entry) :
    (storeAfter es).HasKeys :=
  hasKeys_run hasKeys_empty es

/- The findings there are were written by accepted calls. -/
theorem scanFindings_storeAfter (es : List Entry) :
    (storeAfter es).scanFindings =
      (accepted empty es).flatMap StoreCall.findingRows := by
  rw [storeAfter, run_eq_run_accepted, scanFindings_run]
  rfl

/- And the outcomes. -/
theorem reconcilerOutcomes_storeAfter (es : List Entry) :
    (storeAfter es).reconcilerOutcomes =
      (accepted empty es).flatMap StoreCall.outcomeRows := by
  rw [storeAfter, run_eq_run_accepted, reconcilerOutcomes_run]
  rfl

/- And the decisions. -/
theorem decisionAudits_storeAfter (es : List Entry) :
    (storeAfter es).decisionAudits =
      (accepted empty es).flatMap StoreCall.decisionRows := by
  rw [storeAfter, run_eq_run_accepted, decisionAudits_run]
  rfl

variable [Chrono] [HttpText]

/-
  What is listed of a run is what the calls that succeeded
  have written of it, each row once, newest first; a failed
  call and those of other runs leave no trace.
-/
theorem lists_accepted
    (es : List Entry)
    (uid : String) :
    let db := storeAfter es
    let calls := accepted empty es
    (∃ items, listFindings none db ⟨uid, none⟩ = .ok items ∧
      (items.map ScanFinding.id).Nodup ∧
      Lists modelToProtoFinding ScanFindingModel.recordedAt
        ((calls.flatMap StoreCall.findingRows).filter
          (fun f => f.validationRunUid = uid)) items) ∧
    (∀ severity, ∃ items,
      listFindings none db ⟨uid, some severity⟩ = .ok items ∧
      (items.map ScanFinding.id).Nodup ∧
      Lists modelToProtoFinding ScanFindingModel.firstSeenAt
        ((calls.flatMap StoreCall.findingRows).filter
          (fun f => f.validationRunUid = uid ∧
            f.severity = severity)) items) ∧
    (∃ items, listOutcomes none db uid = .ok items ∧
      (items.map ReconcilerOutcome.id).Nodup ∧
      Lists modelToProtoOutcome (fun o => o.row.dispatchedAt)
        ((calls.flatMap StoreCall.outcomeRows).filter
          (fun o => o.row.validationRunUid = uid)) items) ∧
    (∃ items, listDecisions none db uid = .ok items ∧
      (items.map DecisionAudit.id).Nodup ∧
      Lists modelToProtoDecision DecisionAuditModel.decidedAt
        ((calls.flatMap StoreCall.decisionRows).filter
          (fun d => d.validationRunUid = uid)) items) := by
  intro db calls
  have hKeys := hasKeys_storeAfter es
  refine ⟨⟨_, rfl, ?_⟩, fun severity => ⟨_, rfl, ?_⟩,
    ⟨_, rfl, ?_⟩, ⟨_, rfl, ?_⟩⟩
  · rw [← scanFindings_storeAfter es]
    exact lists_filter modelToProtoFinding ScanFinding.id
      (fun _ => rfl) hKeys.findings _ _
  · rw [← scanFindings_storeAfter es]
    exact lists_filter modelToProtoFinding ScanFinding.id
      (fun _ => rfl) hKeys.findings _ _
  · rw [← reconcilerOutcomes_storeAfter es]
    exact lists_filter modelToProtoOutcome ReconcilerOutcome.id
      (fun _ => rfl) hKeys.outcomes _ _
  · rw [← decisionAudits_storeAfter es]
    exact lists_filter modelToProtoDecision DecisionAudit.id
      (fun _ => rfl) hKeys.decisions _ _

end Grpc

namespace Reference

/- A finding for a call to write. -/
def reportedCve : ScanFinding where
  severity := .critical
  scanner := .trivy
  cveId := some "CVE-2026-0001"
  cvssV3 := none
  fixedIn := none
  exceptionId := none
  message := none
  firstSeen := second 0

/- The second call meets an identifier of the first one. -/
def appendedTwice : List AuditStore.Entry :=
  [(none, .appendScanFindings (fun i => ["a", "b"].getD i "")
      (second 1) "uid-1" "job-1" [reportedCve, reportedCve]),
    (none, .appendScanFindings (fun _ => "b") (second 2)
      "uid-1" "job-1" [reportedCve])]

example :
    (Grpc.listFindings none (Grpc.storeAfter appendedTwice)
      ⟨"uid-1", none⟩).map (List.map Grpc.ScanFinding.id) =
        .ok ["a", "b"] := by
  decide +kernel

end Reference

end EngenhoPromessa

------------------------------------------------------------
-- The Summary And The Listings
------------------------------------------------------------

namespace EngenhoPromessa

namespace Grpc

open AuditStore ValidationStore
open Std (ExtTreeMap)

variable [Sql] [Chrono] [HttpText]

/- The writes of a run among the calls that succeeded. -/
def writesOf
    (calls : List StoreCall)
    (uid : String) : List TimedRunWrite :=
  (calls.filterMap StoreCall.runWrite?).filter
    (fun w => w.2.uid = uid)

/-
  The runs listed for a phase are found one by one, and the
  summary counts them, up to the limit of a listing.
-/
structure ListsPhase
    (db : AuditStore)
    (summary : ComplianceSummary)
    (phase : String)
    (items : List ValidationRun) : Prop where
  nodup_uids : (items.map ValidationRun.uid).Nodup
  found : ∀ item ∈ items, item.phase = phase ∧
    getValidation none db item.uid = .ok item
  length_eq : ∃ n,
    items.length = min 4294967295 n ∧
      ∀ count, ⟨phase, count⟩ ∈ summary.byPhase ↔
        0 < count ∧ count = n

/- The summary counts every run once, under its phase. -/
structure Agrees
    (db : AuditStore)
    (summary : ComplianceSummary) : Prop where
  total_eq : summary.total = db.validationRuns.length
  sum_eq :
    (summary.byPhase.map PhaseCount.count).sum =
      summary.total
  nodup_phases : (summary.byPhase.map PhaseCount.phase).Nodup
  listed : ∀ phase, ∃ items,
    listValidations none db ⟨some phase, none, none⟩ =
        .ok items ∧
      ListsPhase db summary phase items

omit [Sql] [HttpText] [Chrono] in
theorem foldl_increment
    (runs : List ValidationRunModel) :
    runs.foldl
        (fun byPhase r => Counts.increment byPhase r.phase)
        ∅ =
      Counts.ofList (runs.map ValidationRunModel.phase) := by
  rw [Counts.ofList, List.foldl_map]

/- The rows of a table whose keys differ are found by them. -/
omit [Sql] in
theorem getValidation_of_mem
    {db : AuditStore}
    (hKeys : db.HasKeys)
    {run : ValidationRunModel}
    (hMem : run ∈ db.validationRuns) :
    getValidation none db run.uid =
      .ok (modelToProtoValidation run) := by
  have hRow :
      db.validationRuns.find? (fun r => r.uid = run.uid) =
        some run :=
    (runUpserts.mem_iff_row hKeys.runs run).mp hMem
  simp [getValidation, AuditStore.validationRunByUid, found,
    stored, hRow, Except.mapError]

/- What is listed for a phase, in a store with keys. -/
theorem listsPhase_of_hasKeys
    {db : AuditStore}
    (hKeys : db.HasKeys)
    {summary : ComplianceSummary}
    (hCounts : ∀ phase count,
      ⟨phase, count⟩ ∈ summary.byPhase ↔
        0 < count ∧
          count = (db.validationRuns.filter (fun r =>
            r.phase = phase)).length)
    (phase : String) :
    ∃ items,
      listValidations none db ⟨some phase, none, none⟩ =
          .ok items ∧
        ListsPhase db summary phase items := by
  let rows := db.validationRuns.filter (fun r =>
    r.phase = phase)
  let ordered :=
    Sql.orderByDesc ValidationRunModel.lastSeenAt rows
  have hPerm : ordered.Perm rows :=
    Sql.perm_orderByDesc _ rows
  have hItems :
      listValidations none db ⟨some phase, none, none⟩ =
        .ok ((ordered.take 4294967295).map
          modelToProtoValidation) := by
    have hAll :
        ordered.filter (fun _ => true) = ordered :=
      List.filter_true ordered
    simp only [listValidations, validationRunsByPhase,
      AuditStore.found, stored, Except.mapError, Except.map,
      Option.all_none, Option.getD_none]
    rw [hAll]
    rfl
  refine ⟨_, hItems, ?_, ?_, _, ?_, hCounts phase⟩
  · have hUids :
        ((ordered.take 4294967295).map
            modelToProtoValidation).map ValidationRun.uid =
          (ordered.take 4294967295).map
            ValidationRunModel.uid := by
      simp [Function.comp_def, modelToProtoValidation]
    have hRows : (rows.map ValidationRunModel.uid).Nodup :=
      hKeys.runs.sublist (List.filter_sublist.map _)
    rw [hUids]
    exact ((hPerm.map _).nodup_iff.mpr hRows).sublist
      ((List.take_sublist _ _).map _)
  · intro item hItem
    rcases List.mem_map.mp hItem with ⟨run, hRun, rfl⟩
    rcases List.mem_filter.mp
      (hPerm.subset (List.mem_of_mem_take hRun)) with
      ⟨hMem, hPhase⟩
    exact ⟨of_decide_eq_true hPhase,
      getValidation_of_mem hKeys hMem⟩
  · rw [List.length_map, List.length_take, hPerm.length_eq]

/- What is read of such a store agrees. -/
theorem agrees_of_hasKeys
    {db : AuditStore}
    (hKeys : db.HasKeys) :
    ∃ summary, getSummary none db = .ok summary ∧
      Agrees db summary := by
  let phases := db.validationRuns.map ValidationRunModel.phase
  refine ⟨_, rfl, ?_⟩
  simp only [foldl_increment]
  refine
    { total_eq := ?_
      sum_eq := ?_
      nodup_phases := ?_
      listed := listsPhase_of_hasKeys hKeys ?_ }
  · rw [Counts.sum_ofList, List.length_map]
  · simp [Function.comp_def]
  · have hKeysOf :
        ((Counts.ofList phases).toList.map (fun entry =>
            ({ phase := entry.1, count := entry.2 } :
              PhaseCount))).map PhaseCount.phase =
          (Counts.ofList phases).keys := by
      rw [← ExtTreeMap.map_fst_toList_eq_keys, List.map_map]
      rfl
    rw [hKeysOf]
    exact ExtTreeMap.nodup_keys
  · intro phase count
    have hCount :
        phases.count phase =
          (db.validationRuns.filter (fun r =>
            r.phase = phase)).length := by
      rw [List.count, List.countP_map,
        List.countP_eq_length_filter]
      rfl
    rw [← hCount]
    constructor
    · intro hMem
      rcases List.mem_map.mp hMem with ⟨entry, hEntry, hEq⟩
      cases hEq
      rcases (Counts.mem_toList_ofList_iff _ _ _).mp hEntry
        with ⟨hPhase, hNumber⟩
      exact ⟨hNumber ▸ List.count_pos_iff.mpr hPhase,
        hNumber⟩
    · rintro ⟨hPos, rfl⟩
      exact List.mem_map.mpr ⟨(phase, phases.count phase),
        (Counts.mem_toList_ofList_iff _ _ _).mpr
          ⟨List.count_pos_iff.mp hPos, rfl⟩, rfl⟩

/- A run is found if it was written, as its writes left it. -/
theorem getValidation_storeAfter
    (es : List Entry)
    (uid : String) :
    let writes := writesOf (accepted empty es) uid
    (writes = [] ∧
      getValidation none (storeAfter es) uid =
        .error ⟨.notFound,
          "validation uid=" ++ uid ++ " not found"⟩) ∨
    ∃ row, IsHistoryRow writes row ∧
      getValidation none (storeAfter es) uid =
        .ok (modelToProtoValidation row) := by
  intro writes
  have hRow :
      (storeAfter es).validationRuns.find?
          (fun run => run.uid = uid) =
        runUpserts.rowAfter writes := by
    rw [storeAfter, run_eq_run_accepted, validationRuns_run]
    exact runUpserts.row_run [] _ uid
  cases hAfter : runUpserts.rowAfter writes with
  | none =>
      rw [hAfter] at hRow
      refine .inl
        ⟨(runUpserts.rowAfter_eq_none_iff _).mp hAfter, ?_⟩
      simp [getValidation, AuditStore.validationRunByUid,
        AuditStore.found, stored, hRow, Except.mapError]
  | some row =>
      rw [hAfter] at hRow
      refine .inr ⟨row, isHistoryRow_of_rowAfter hAfter, ?_⟩
      simp [getValidation, AuditStore.validationRunByUid,
        AuditStore.found, stored, hRow, Except.mapError]

/-
  After any history the three calls that read the runs agree,
  and a run is as the writes of it that succeeded left it.
-/
theorem summary_agrees (es : List Entry) :
    (∃ summary, getSummary none (storeAfter es) = .ok summary ∧
      Agrees (storeAfter es) summary) ∧
    ∀ uid,
      let writes := writesOf (accepted empty es) uid
      (writes = [] ∧
        getValidation none (storeAfter es) uid =
          .error ⟨.notFound,
            "validation uid=" ++ uid ++ " not found"⟩) ∨
      ∃ row, IsHistoryRow writes row ∧
        getValidation none (storeAfter es) uid =
          .ok (modelToProtoValidation row) :=
  ⟨agrees_of_hasKeys (hasKeys_storeAfter es),
    getValidation_storeAfter es⟩

end Grpc

end EngenhoPromessa
