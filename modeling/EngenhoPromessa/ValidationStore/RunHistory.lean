import EngenhoPromessa.Collections.Upserts
import EngenhoPromessa.ValidationStore.Store

/-
  The row of a validation run after any history of upserts.

  Its columns are of three kinds: those of the first write,
  those of the last, and the time of the first terminal one.

  Key definitions include:
    * `ValidationStore.upsertAll`
    * `ValidationStore.IsHistoryRow`

  Key theorems include:
    * `ValidationStore.validationRuns_upsertAll`
    * `ValidationStore.rows_upsertAll`
-/

------------------------------------------------------------
-- Histories Of Writes
------------------------------------------------------------

namespace EngenhoPromessa

/- A write, with the time its call reads from the clock. -/
abbrev TimedRunWrite := DateTime × ValidationRunWrite

/- The text of a phase says whether it is terminal. -/
theorem isTerminalPhase_serializePhase
    (phase : AkeylessImageValidationPhase) :
    isTerminalPhase (serializePhase phase) =
      phase.isTerminal := by
  cases phase with
  | pending => decide
  | provisioning => decide
  | scanning => decide
  | aggregating => decide
  | attesting => decide
  | gating => decide
  | passed => decide
  | failed => decide
  | quarantined => decide

namespace ValidationStore

/- The table of validation runs, keyed by their uids. -/
def runUpserts :
    Upserts String ValidationRunModel TimedRunWrite where
  key := ValidationRunModel.uid
  target w := w.2.uid
  insert w := insertRun w.1 w.2
  update w existing := updateRun w.1 w.2 existing
  key_insert _ := rfl
  key_update _ _ := rfl

/- Calls whose writes succeed one after another. -/
def upsertAll
    (db : ValidationStore)
    (history : List TimedRunWrite) : ValidationStore :=
  Run.run (fun db w => db.upsertValidationRun w.1 w.2) db
    history

/- The call is an upsert by uid. -/
theorem validationRuns_upsert
    (db : ValidationStore)
    (w : TimedRunWrite) :
    (db.upsertValidationRun w.1 w.2).validationRuns =
      runUpserts.upsert db.validationRuns w := by
  cases hRow : db.validationRunByUid w.2.uid with
  | none =>
      have hRow' :
          runUpserts.row db.validationRuns
            (runUpserts.target w) = none := hRow
      simp only [upsertValidationRun, hRow, Upserts.upsert,
        hRow']
      rfl
  | some existing =>
      have hRow' :
          runUpserts.row db.validationRuns
            (runUpserts.target w) = some existing := hRow
      simp only [upsertValidationRun, hRow, Upserts.upsert,
        hRow']
      rfl

/- Calls one after the other. -/
theorem validationRuns_upsertAll
    (db : ValidationStore)
    (history : List TimedRunWrite) :
    (db.upsertAll history).validationRuns =
      Run.run runUpserts.upsert db.validationRuns history := by
  induction history generalizing db with
  | nil => rfl
  | cons w history ih =>
      rw [Run.run_cons, ← validationRuns_upsert, ← ih]
      rfl

/- A run is what the writes of its uid have left. -/
theorem validationRunByUid_upsertAll
    (db : ValidationStore)
    (history : List TimedRunWrite)
    (uid : String) :
    (db.upsertAll history).validationRunByUid uid =
      Run.run runUpserts.written (db.validationRunByUid uid)
        (history.filter (fun w => w.2.uid = uid)) := by
  have hRun := runUpserts.row_run db.validationRuns history uid
  rw [← validationRuns_upsertAll] at hRun
  exact hRun

end ValidationStore

end EngenhoPromessa

------------------------------------------------------------
-- The Row After A History
------------------------------------------------------------

namespace EngenhoPromessa

namespace ValidationStore

/- What the writes of one uid, from the first, make a row. -/
structure IsHistoryRow
    (writes : List TimedRunWrite)
    (row : ValidationRunModel) : Prop where
  of_first :
    writes.head?.map (fun w =>
        (w.1, w.2.uid, w.2.«namespace», w.2.name,
          w.2.imageDigest, w.2.imageRepo)) =
      some (row.startedAt, row.uid, row.«namespace», row.name,
        row.imageDigest, row.imageRepo)
  of_last :
    writes.getLast?.map (fun w =>
        (w.1, serializePhase w.2.phase,
          w.2.evidenceBundleHash, w.2.outcomeReceiptRef,
          w.2.observedGeneration)) =
      some (row.lastSeenAt, row.phase,
        row.evidenceBundleHash, row.outcomeReceiptRef,
        row.observedGeneration)
  of_first_terminal :
    row.terminalAt =
      (writes.find? (fun w => w.2.phase.isTerminal)).map
        Prod.fst

/- The first value of those that pass a test. -/
theorem findSome?_ite
    {α β : Type}
    (p : α → Bool)
    (f : α → β)
    (as : List α) :
    as.findSome? (fun a => if p a then some (f a) else none) =
      (as.find? p).map f := by
  induction as with
  | nil => rfl
  | cons a as ih =>
      rw [List.findSome?_cons, List.find?_cons]
      cases p a with
      | false => exact ih
      | true => rfl

/- Each column is that of the write that set it. -/
theorem isHistoryRow_of_rowAfter
    {writes : List TimedRunWrite}
    {row : ValidationRunModel}
    (hRow : runUpserts.rowAfter writes = some row) :
    IsHistoryRow writes row where
  of_first :=
    Upserts.head?_of_rowAfter
      (fun row : ValidationRunModel =>
        (row.startedAt, row.uid, row.«namespace», row.name,
          row.imageDigest, row.imageRepo))
      (fun _ _ => rfl) hRow
  of_last :=
    Upserts.getLast?_of_rowAfter
      (fun row : ValidationRunModel =>
        (row.lastSeenAt, row.phase, row.evidenceBundleHash,
          row.outcomeReceiptRef, row.observedGeneration))
      (fun _ => rfl) (fun _ _ => rfl) hRow
  of_first_terminal := by
    have hInsert :
        ∀ w, (runUpserts.insert w).terminalAt =
          if w.2.phase.isTerminal then some w.1 else none := by
      intro w
      rw [← isTerminalPhase_serializePhase]
      rfl
    have hUpdate :
        ∀ w row, (runUpserts.update w row).terminalAt =
          row.terminalAt.or
            (if w.2.phase.isTerminal then some w.1
              else none) := by
      intro w row
      rw [← isTerminalPhase_serializePhase]
      change (updateRun w.1 w.2 row).terminalAt = _
      rw [updateRun]
      cases row.terminalAt with
      | none => rfl
      | some t => rfl
    rw [Upserts.findSome?_of_rowAfter
      ValidationRunModel.terminalAt hInsert hUpdate hRow]
    exact findSome?_ite _ _ _

/-
  Rows that are not written stay as they are, and a run that
  had no row has one made by the writes of its uid.
-/
theorem rows_upsertAll
    (db : ValidationStore)
    (history : List TimedRunWrite)
    (uid : String) :
    ((∀ w ∈ history, w.2.uid ≠ uid) →
      (db.upsertAll history).validationRunByUid uid =
        db.validationRunByUid uid) ∧
      (db.validationRunByUid uid = none →
        (∃ w ∈ history, w.2.uid = uid) →
        ∃ row,
          (db.upsertAll history).validationRunByUid uid =
              some row ∧
            IsHistoryRow
              (history.filter (fun w => w.2.uid = uid))
              row) := by
  rw [validationRunByUid_upsertAll]
  constructor
  · intro hOthers
    have hNone :
        history.filter (fun w => w.2.uid = uid) = [] := by
      simpa using hOthers
    rw [hNone]
    rfl
  · rintro hNew ⟨w, hw, hUid⟩
    rw [hNew]
    have hSome :
        history.filter (fun w => w.2.uid = uid) ≠ [] :=
      List.ne_nil_of_mem
        (List.mem_filter.mpr ⟨hw, decide_eq_true hUid⟩)
    cases hRow : runUpserts.rowAfter
        (history.filter (fun w => w.2.uid = uid)) with
    | none =>
        exact absurd
          ((runUpserts.rowAfter_eq_none_iff _).mp hRow) hSome
    | some row =>
        exact ⟨row, hRow, isHistoryRow_of_rowAfter hRow⟩

/- A write of one run, at a time and in a phase. -/
def sampleRunWrite
    (uid : String)
    (nanos : Int)
    (phase : AkeylessImageValidationPhase) :
    TimedRunWrite :=
  (⟨nanos⟩,
    { uid := uid
      «namespace» := "platform"
      name := "nginx"
      imageDigest := "sha256:ab"
      imageRepo := "harbor/library/nginx"
      phase := phase
      evidenceBundleHash := none
      outcomeReceiptRef := none
      observedGeneration := 1 })

/- Two runs whose writes alternate, and a third. -/
def sampleHistory : List TimedRunWrite :=
  [sampleRunWrite "u" 1 .scanning,
    sampleRunWrite "v" 2 .passed,
    sampleRunWrite "u" 3 .failed,
    sampleRunWrite "u" 4 .scanning]

/- Two calls on one run, and none on another. -/
theorem rows_upsertAll_sampleHistory :
    (empty.upsertAll sampleHistory).validationRunByUid "w" =
        empty.validationRunByUid "w" ∧
      ∃ row,
        (empty.upsertAll sampleHistory).validationRunByUid
              "u" =
            some row ∧
          IsHistoryRow
            (sampleHistory.filter (fun w => w.2.uid = "u"))
            row :=
  ⟨(rows_upsertAll empty sampleHistory "w").1 (by decide),
    (rows_upsertAll empty sampleHistory "u").2 rfl
      ⟨sampleRunWrite "u" 1 .scanning,
        List.mem_cons_self, rfl⟩⟩

end ValidationStore

end EngenhoPromessa
