import EngenhoPromessa.Collections.Counts
import EngenhoPromessa.Collections.InsertOnly
import EngenhoPromessa.ValidationApi.McpHandler
import EngenhoPromessa.ValidationStore.RunHistory
import Mathlib.Data.List.Sort

/-
  The tables of the validation store that are only added to,
  beside the table of the runs, over any history of calls.

  Any call may fail, and changes nothing then. A row's key is
  the fresh identifier its call was given; a batch of rows is
  inserted as a whole.

  Key definitions include:
    * `AuditStore`
    * `AuditStore.appendScanFindings`
    * `AuditStore.recordDecisionAudit`
    * `AuditStore.call`
    * `AuditStore.accepted`
    * `Sql`
    * `Reference.sql`

  Key theorems include:
    * `AuditStore.call_cases`
    * `AuditStore.run_eq_run_accepted`
    * `AuditStore.hasKeys_run`
-/

------------------------------------------------------------
-- Rows
------------------------------------------------------------

namespace EngenhoPromessa

/- A row of `scan_findings`. -/
structure ScanFindingModel where
  id : String
  validationRunUid : String
  scanJobName : String
  scanner : String
  severity : String
  cveId : Option String
  cvssV3 : Option F32
  package : Option String
  fixedIn : Option String
  exceptionId : Option String
  message : Option String
  firstSeenAt : DateTime
  recordedAt : DateTime
deriving DecidableEq, Repr

/- A row of `decision_audits`. -/
structure DecisionAuditModel where
  id : String
  validationRunUid : String
  severity : String
  verdict : String
  actionPayload : Json
  reason : Option String
  driftSnapshot : Json
  decidedAt : DateTime
  recordedAt : DateTime

/- A row with its own identifier. -/
structure Identified (ρ : Type) where
  id : String
  row : ρ

/- The tables that a validation leaves its trail in. -/
structure AuditStore where
  validationRuns : List ValidationRunModel
  reconcilerOutcomes : List (Identified ReconcilerOutcomeModel)
  scanFindings : List ScanFindingModel
  decisionAudits : List DecisionAuditModel

/- How an error of the database is printed. -/
structure DbErr where
  text : String
deriving DecidableEq, Repr

/-
  What the database does on its own: its error for a key that
  is already there, and `ORDER BY … DESC`, where rows with
  the same value come in any order.
-/
class Sql where
  duplicateKey : DbErr
  orderByDesc {ρ : Type}
    (column : ρ → DateTime)
    (rows : List ρ) : List ρ
  perm_orderByDesc {ρ : Type}
    (column : ρ → DateTime)
    (rows : List ρ) :
    (orderByDesc column rows).Perm rows
  pairwise_orderByDesc {ρ : Type}
    (column : ρ → DateTime)
    (rows : List ρ) :
    (orderByDesc column rows).Pairwise
      (fun r r' => column r' ≤ column r)

end EngenhoPromessa

------------------------------------------------------------
-- Calls
------------------------------------------------------------

namespace EngenhoPromessa

namespace AuditStore

/- No row in any of the tables. -/
def empty : AuditStore where
  validationRuns := []
  reconcilerOutcomes := []
  scanFindings := []
  decisionAudits := []

/- The store that the controllers write to. -/
def toStore (db : AuditStore) : ValidationStore where
  validationRuns := db.validationRuns
  reconcilerOutcomes :=
    db.reconcilerOutcomes.map Identified.row

variable [Sql]

/- The table after an insertion that may fail. -/
def insertRows
    {ρ : Type}
    (fault : Option DbErr)
    (key : ρ → String)
    (rows batch : List ρ) : Except DbErr (List ρ) :=
  match fault with
  | some e => .error e
  | none =>
      match InsertOnly.insertMany key rows batch with
      | some rows' => .ok rows'
      | none => .error Sql.duplicateKey

/- A run is inserted or updated, unless the call fails. -/
def upsertValidationRun
    (db : AuditStore)
    (fault : Option DbErr)
    (now : DateTime)
    (write : ValidationRunWrite) :
    Except DbErr (Option ValidationRunModel) × AuditStore :=
  match fault with
  | some e => (.error e, db)
  | none =>
      let store := db.toStore.upsertValidationRun now write
      (.ok (store.validationRunByUid write.uid),
        { db with validationRuns := store.validationRuns })

/- The row that is written for a finding. -/
def scanFindingRow
    (id : String)
    (now : DateTime)
    (validationRunUid scanJobName : String)
    (f : ScanFinding) : ScanFindingModel where
  id := id
  validationRunUid := validationRunUid
  scanJobName := scanJobName
  scanner := f.scanner.debugName
  severity := f.severity.debugName
  cveId := f.cveId
  cvssV3 := f.cvssV3
  -- The resource has no package of its own.
  package := none
  fixedIn := f.fixedIn
  exceptionId := f.exceptionId
  message := f.message
  firstSeenAt := f.firstSeen
  recordedAt := now

/- One fresh identifier for each finding. -/
def scanFindingRows
    (newId : Nat → String)
    (now : DateTime)
    (validationRunUid scanJobName : String)
    (findings : List ScanFinding) : List ScanFindingModel :=
  findings.mapIdx (fun i f =>
    scanFindingRow (newId i) now validationRunUid scanJobName
      f)

/- The number of rows that were inserted. -/
def appendScanFindings
    (db : AuditStore)
    (fault : Option DbErr)
    (newId : Nat → String)
    (now : DateTime)
    (validationRunUid scanJobName : String)
    (findings : List ScanFinding) :
    Except DbErr Nat × AuditStore :=
  if findings.isEmpty then
    (.ok 0, db)
  else
    let rows :=
      scanFindingRows newId now validationRunUid scanJobName
        findings
    match insertRows fault ScanFindingModel.id
      db.scanFindings rows with
    | .error e => (.error e, db)
    | .ok scanFindings =>
        (.ok rows.length,
          { db with scanFindings := scanFindings })

/- An outcome is appended under a new identifier. -/
def appendReconcilerOutcome
    (db : AuditStore)
    (fault : Option DbErr)
    (newId : String)
    (now : DateTime)
    (write : ReconcilerOutcomeWrite) :
    Except DbErr (Identified ReconcilerOutcomeModel) ×
      AuditStore :=
  let model : Identified ReconcilerOutcomeModel :=
    { id := newId
      row := ValidationStore.insertOutcome now write }
  match insertRows fault Identified.id db.reconcilerOutcomes
    [model] with
  | .error e => (.error e, db)
  | .ok rows =>
      (.ok model, { db with reconcilerOutcomes := rows })

/- The row that is written for a decision. -/
def decisionAuditRow
    (id : String)
    (now : DateTime)
    (validationRunUid : String)
    (gate : GateDecision)
    (driftSnapshot : Json) : DecisionAuditModel where
  id := id
  validationRunUid := validationRunUid
  severity := gate.severity
  verdict := gate.verdict.debugName
  actionPayload := gate.action
  reason := gate.reason
  driftSnapshot := driftSnapshot
  decidedAt := gate.decidedAt
  recordedAt := now

/- A decision is appended under a new identifier. -/
def recordDecisionAudit
    (db : AuditStore)
    (fault : Option DbErr)
    (newId : String)
    (now : DateTime)
    (validationRunUid : String)
    (gate : GateDecision)
    (driftSnapshot : Json) :
    Except DbErr DecisionAuditModel × AuditStore :=
  let model :=
    decisionAuditRow newId now validationRunUid gate
      driftSnapshot
  match insertRows fault DecisionAuditModel.id
    db.decisionAudits [model] with
  | .error e => (.error e, db)
  | .ok rows =>
      (.ok model, { db with decisionAudits := rows })

end AuditStore

end EngenhoPromessa

------------------------------------------------------------
-- Histories
------------------------------------------------------------

namespace EngenhoPromessa

/- A call with what it reads from the clock and from `ulid`. -/
inductive StoreCall where
  | upsertValidationRun
      (now : DateTime)
      (write : ValidationRunWrite)
  | appendScanFindings
      (newId : Nat → String)
      (now : DateTime)
      (validationRunUid scanJobName : String)
      (findings : List ScanFinding)
  | appendReconcilerOutcome
      (newId : String)
      (now : DateTime)
      (write : ReconcilerOutcomeWrite)
  | recordDecisionAudit
      (newId : String)
      (now : DateTime)
      (validationRunUid : String)
      (gate : GateDecision)
      (driftSnapshot : Json)

namespace StoreCall

/- What each call is there to write, table by table. -/
def runWrite? : StoreCall → Option TimedRunWrite
| .upsertValidationRun now write => some (now, write)
| _ => none

/- The findings that a call writes. -/
def findingRows : StoreCall → List ScanFindingModel
| .appendScanFindings newId now uid job findings =>
    AuditStore.scanFindingRows newId now uid job findings
| _ => []

/- The outcomes that a call writes. -/
def outcomeRows :
    StoreCall → List (Identified ReconcilerOutcomeModel)
| .appendReconcilerOutcome newId now write =>
    [{ id := newId
       row := ValidationStore.insertOutcome now write }]
| _ => []

/- The decisions that a call writes. -/
def decisionRows : StoreCall → List DecisionAuditModel
| .recordDecisionAudit newId now uid gate driftSnapshot =>
    [AuditStore.decisionAuditRow newId now uid gate
      driftSnapshot]
| _ => []

end StoreCall

namespace AuditStore

variable [Sql]

/- Whether the call succeeded, and the store after it. -/
def call
    (db : AuditStore)
    (fault : Option DbErr) :
    StoreCall → Except DbErr Unit × AuditStore
| .upsertValidationRun now write =>
    let r := db.upsertValidationRun fault now write
    (r.1.map (fun _ => ()), r.2)
| .appendScanFindings newId now uid job findings =>
    let r :=
      db.appendScanFindings fault newId now uid job findings
    (r.1.map (fun _ => ()), r.2)
| .appendReconcilerOutcome newId now write =>
    let r := db.appendReconcilerOutcome fault newId now write
    (r.1.map (fun _ => ()), r.2)
| .recordDecisionAudit newId now uid gate driftSnapshot =>
    let r :=
      db.recordDecisionAudit fault newId now uid gate
        driftSnapshot
    (r.1.map (fun _ => ()), r.2)

/- A call, and the error of the database it meets, if any. -/
abbrev Entry := Option DbErr × StoreCall

/- One call, and what the database does to it. -/
def step (db : AuditStore) (e : Entry) : AuditStore :=
  (db.call e.1 e.2).2

/- The calls of a history that succeed. -/
def accepted : AuditStore → List Entry → List StoreCall
| _, [] => []
| db, e :: es =>
    let rest := accepted (db.step e) es
    match (db.call e.1 e.2).1 with
    | .ok () => e.2 :: rest
    | .error _ => rest

/- Every table with the rows of a call that succeeds. -/
def applied (db : AuditStore) (c : StoreCall) : AuditStore where
  validationRuns :=
    c.runWrite?.elim db.validationRuns
      (ValidationStore.runUpserts.upsert db.validationRuns)
  reconcilerOutcomes := db.reconcilerOutcomes ++ c.outcomeRows
  scanFindings := db.scanFindings ++ c.findingRows
  decisionAudits := db.decisionAudits ++ c.decisionRows

/- The keys of a call's rows are new. -/
structure FreshFor (db : AuditStore) (c : StoreCall) :
    Prop where
  outcomes :
    InsertOnly.Fresh Identified.id db.reconcilerOutcomes
      c.outcomeRows
  findings :
    InsertOnly.Fresh ScanFindingModel.id db.scanFindings
      c.findingRows
  decisions :
    InsertOnly.Fresh DecisionAuditModel.id db.decisionAudits
      c.decisionRows

/- Rows are taken only if their identifiers are new. -/
theorem insertRows_eq_ok
    {ρ : Type}
    {fault : Option DbErr}
    {key : ρ → String}
    {rows batch rows' : List ρ}
    (hInsert :
      insertRows fault key rows batch = .ok rows') :
    InsertOnly.Fresh key rows batch ∧
      rows' = rows ++ batch := by
  unfold insertRows at hInsert
  cases fault with
  | some e => cases hInsert
  | none =>
      cases hMany : InsertOnly.insertMany key rows batch with
      | none =>
          rw [hMany] at hInsert
          cases hInsert
      | some found =>
          rw [hMany] at hInsert
          cases hInsert
          exact InsertOnly.insertMany_eq_some_iff.mp hMany

omit [Sql] in
theorem fresh_nil
    {ρ : Type}
    (key : ρ → String)
    (rows : List ρ) :
    InsertOnly.Fresh key rows [] :=
  ⟨List.nodup_nil, fun _ h => absurd h List.not_mem_nil⟩

/- The rows of one table, written or refused. -/
theorem insertRows_cases
    {ρ : Type}
    (fault : Option DbErr)
    (key : ρ → String)
    (rows batch : List ρ) :
    (∃ e, insertRows fault key rows batch = .error e) ∨
      (insertRows fault key rows batch = .ok (rows ++ batch) ∧
        InsertOnly.Fresh key rows batch) := by
  cases hInsert : insertRows fault key rows batch with
  | error e => exact .inl ⟨e, rfl⟩
  | ok rows' =>
      rcases insertRows_eq_ok hInsert with ⟨hFresh, rfl⟩
      exact .inr ⟨rfl, hFresh⟩

/-
  A call fails and changes nothing, or all its rows are there
  after it.
-/
theorem call_cases
    (db : AuditStore)
    (fault : Option DbErr)
    (c : StoreCall) :
    (∃ e, db.call fault c = (.error e, db)) ∨
      (db.call fault c = (.ok (), db.applied c) ∧
        db.FreshFor c) := by
  cases c with
  | upsertValidationRun now write =>
      cases fault with
      | some e => exact .inl ⟨e, rfl⟩
      | none =>
          have hRuns :=
            ValidationStore.validationRuns_upsert db.toStore
              (now, write)
          refine .inr ⟨?_, fresh_nil _ _, fresh_nil _ _,
            fresh_nil _ _⟩
          simp only [call, upsertValidationRun, hRuns,
            Except.map]
          simp [applied, StoreCall.runWrite?,
            StoreCall.outcomeRows, StoreCall.findingRows,
            StoreCall.decisionRows, toStore]
  | appendScanFindings newId now uid job findings =>
      by_cases hNone : findings.isEmpty = true
      · obtain rfl := List.isEmpty_iff.mp hNone
        refine .inr ⟨?_, fresh_nil _ _, fresh_nil _ _,
          fresh_nil _ _⟩
        simp [call, appendScanFindings, applied, Except.map,
          StoreCall.runWrite?, StoreCall.outcomeRows,
          StoreCall.findingRows, StoreCall.decisionRows,
          scanFindingRows]
      · rcases insertRows_cases fault ScanFindingModel.id
          db.scanFindings
          (scanFindingRows newId now uid job findings) with
          ⟨e, hInsert⟩ | ⟨hInsert, hFresh⟩
        · refine .inl ⟨e, ?_⟩
          simp [call, appendScanFindings, hNone, hInsert,
            Except.map]
        · refine .inr ⟨?_, fresh_nil _ _, hFresh,
            fresh_nil _ _⟩
          simp [call, appendScanFindings, hNone, hInsert,
            Except.map, applied, StoreCall.runWrite?,
            StoreCall.outcomeRows, StoreCall.findingRows,
            StoreCall.decisionRows]
  | appendReconcilerOutcome newId now write =>
      rcases insertRows_cases fault Identified.id
        db.reconcilerOutcomes
        [{ id := newId
           row := ValidationStore.insertOutcome now write }]
        with ⟨e, hInsert⟩ | ⟨hInsert, hFresh⟩
      · refine .inl ⟨e, ?_⟩
        simp [call, appendReconcilerOutcome, hInsert,
          Except.map]
      · refine .inr ⟨?_, hFresh, fresh_nil _ _,
          fresh_nil _ _⟩
        simp [call, appendReconcilerOutcome, hInsert,
          Except.map, applied, StoreCall.runWrite?,
          StoreCall.outcomeRows, StoreCall.findingRows,
          StoreCall.decisionRows]
  | recordDecisionAudit newId now uid gate driftSnapshot =>
      rcases insertRows_cases fault DecisionAuditModel.id
        db.decisionAudits
        [decisionAuditRow newId now uid gate driftSnapshot]
        with ⟨e, hInsert⟩ | ⟨hInsert, hFresh⟩
      · refine .inl ⟨e, ?_⟩
        simp [call, recordDecisionAudit, hInsert, Except.map]
      · refine .inr ⟨?_, fresh_nil _ _, fresh_nil _ _,
          hFresh⟩
        simp [call, recordDecisionAudit, hInsert, Except.map,
          applied, StoreCall.runWrite?, StoreCall.outcomeRows,
          StoreCall.findingRows, StoreCall.decisionRows]

/- Only the calls that succeed count. -/
theorem run_eq_run_accepted
    (db : AuditStore)
    (es : List Entry) :
    Run.run step db es =
      Run.run applied db (accepted db es) := by
  induction es generalizing db with
  | nil => rfl
  | cons e es ih =>
      rw [Run.run_cons, ih]
      rcases db.call_cases e.1 e.2 with
        ⟨err, hCall⟩ | ⟨hCall, -⟩
      · have hStep : db.step e = db := by rw [step, hCall]
        rw [accepted, hCall, hStep]
      · have hStep : db.step e = db.applied e.2 := by
          rw [step, hCall]
        rw [accepted, hCall, hStep]
        rfl

omit [Sql] in
/- Accepted calls leave their findings, in order. -/
theorem scanFindings_run
    (db : AuditStore)
    (calls : List StoreCall) :
    (Run.run applied db calls).scanFindings =
      db.scanFindings ++
        calls.flatMap StoreCall.findingRows :=
  Run.appended_run AuditStore.scanFindings (fun _ _ => rfl) db calls

omit [Sql] in
/- They leave their outcomes, in order. -/
theorem reconcilerOutcomes_run
    (db : AuditStore)
    (calls : List StoreCall) :
    (Run.run applied db calls).reconcilerOutcomes =
      db.reconcilerOutcomes ++
        calls.flatMap StoreCall.outcomeRows :=
  Run.appended_run AuditStore.reconcilerOutcomes (fun _ _ => rfl) db calls

omit [Sql] in
/- They leave their decisions, in order. -/
theorem decisionAudits_run
    (db : AuditStore)
    (calls : List StoreCall) :
    (Run.run applied db calls).decisionAudits =
      db.decisionAudits ++
        calls.flatMap StoreCall.decisionRows :=
  Run.appended_run AuditStore.decisionAudits (fun _ _ => rfl) db calls

omit [Sql] in
/- And the runs as their writes left them. -/
theorem validationRuns_run
    (db : AuditStore)
    (calls : List StoreCall) :
    (Run.run applied db calls).validationRuns =
      Run.run ValidationStore.runUpserts.upsert
        db.validationRuns
        (calls.filterMap StoreCall.runWrite?) := by
  refine Run.component_run AuditStore.validationRuns
    StoreCall.runWrite? (fun db c => ?_) db calls
  cases hWrite : c.runWrite? with
  | none => simp [applied, hWrite]
  | some w => simp [applied, hWrite]

/- No key is in a table twice. -/
structure HasKeys (db : AuditStore) : Prop where
  runs : (db.validationRuns.map ValidationRunModel.uid).Nodup
  outcomes : (db.reconcilerOutcomes.map Identified.id).Nodup
  findings : (db.scanFindings.map ScanFindingModel.id).Nodup
  decisions :
    (db.decisionAudits.map DecisionAuditModel.id).Nodup

omit [Sql] in
theorem hasKeys_empty : HasKeys empty :=
  ⟨List.nodup_nil, List.nodup_nil, List.nodup_nil,
    List.nodup_nil⟩

omit [Sql] in
/- Rows with new identifiers keep them apart. -/
theorem nodup_append_of_fresh
    {ρ : Type}
    {key : ρ → String}
    {rows batch : List ρ}
    (hRows : (rows.map key).Nodup)
    (hFresh : InsertOnly.Fresh key rows batch) :
    ((rows ++ batch).map key).Nodup :=
  InsertOnly.nodup_insertMany hRows
    (InsertOnly.insertMany_eq_some_iff.mpr ⟨hFresh, rfl⟩)

/- No call takes an identifier twice. -/
theorem hasKeys_step
    {db : AuditStore}
    (hKeys : HasKeys db)
    (e : Entry) :
    HasKeys (db.step e) := by
  rcases db.call_cases e.1 e.2 with
    ⟨err, hCall⟩ | ⟨hCall, hFresh⟩
  · rw [step, hCall]
    exact hKeys
  · rw [step, hCall]
    refine ⟨?_, nodup_append_of_fresh hKeys.outcomes
      hFresh.outcomes, nodup_append_of_fresh hKeys.findings
      hFresh.findings, nodup_append_of_fresh hKeys.decisions
      hFresh.decisions⟩
    cases hWrite : e.2.runWrite? with
    | none => simpa [applied, hWrite] using hKeys.runs
    | some w =>
        have hRuns :=
          ValidationStore.runUpserts.nodup_upsert hKeys.runs w
        simp only [applied, hWrite, Option.elim_some]
        exact hRuns

/- So none is, after any history of calls. -/
theorem hasKeys_run
    {db : AuditStore}
    (hKeys : HasKeys db)
    (es : List Entry) :
    HasKeys (Run.run step db es) :=
  Run.invariant_run HasKeys
    (fun _ e hInv _ => hasKeys_step hInv e) hKeys
    (Run.allowed_true step db es)

end AuditStore

end EngenhoPromessa

------------------------------------------------------------
-- A Reference Database
------------------------------------------------------------

namespace EngenhoPromessa

namespace Reference

/- No row is before a row of a later time. -/
def Newest
    {ρ : Type}
    (column : ρ → DateTime)
    (r r' : ρ) : Prop :=
  column r' ≤ column r

instance
    {ρ : Type}
    (column : ρ → DateTime) :
    DecidableRel (Newest column) :=
  fun r r' =>
    inferInstanceAs (Decidable (column r' ≤ column r))

instance
    {ρ : Type}
    (column : ρ → DateTime) :
    Std.Total (Newest column) :=
  ⟨fun r r' => le_total (column r') (column r)⟩

instance
    {ρ : Type}
    (column : ρ → DateTime) :
    IsTrans ρ (Newest column) :=
  ⟨fun _ _ _ h h' => le_trans h' h⟩

/- Rows of the same time stay as they were inserted. -/
instance sql : Sql where
  duplicateKey := ⟨"UNIQUE constraint failed"⟩
  orderByDesc column rows :=
    rows.insertionSort (Newest column)
  perm_orderByDesc column rows :=
    List.perm_insertionSort (Newest column) rows
  pairwise_orderByDesc column rows :=
    List.pairwise_insertionSort (Newest column) rows

end Reference

end EngenhoPromessa
