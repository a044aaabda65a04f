import EngenhoPromessa.ValidationStore.RunHistory

/-
  Concurrent upserts of one validation run. A call reads the
  row and later writes the columns it has worked out from
  what it read, with no transaction around the two.

  A call that read the row before it got its terminal time
  may write over that time.

  Key definitions include:
    * `SharedRow`
    * `SharedRow.step`
    * `SharedRow.TerminalAtOnce`
    * `SharedRow.WritesInTime`

  Key theorems include:
    * `SharedRow.validationRunByUid_upsert_eq`
    * `SharedRow.startedAt_run`
    * `SharedRow.terminalAtOnce_iff`
-/

------------------------------------------------------------
-- Halves Of A Call
------------------------------------------------------------

namespace EngenhoPromessa

/- A call that has read the row and not yet written it. -/
structure OpenUpsert where
  now : DateTime
  write : ValidationRunWrite
  existing : ValidationRunModel

/- `active.update(db)`: only the columns set are written. -/
def OpenUpsert.store
    (call : OpenUpsert)
    (stored : ValidationRunModel) : ValidationRunModel :=
  let active :=
    ValidationStore.updateRun call.now call.write
      call.existing
  { stored with
    phase := active.phase
    evidenceBundleHash := active.evidenceBundleHash
    outcomeReceiptRef := active.outcomeReceiptRef
    observedGeneration := active.observedGeneration
    lastSeenAt := active.lastSeenAt
    terminalAt := active.terminalAt }

/- The row of one uid, and the calls that have read it. -/
structure SharedRow where
  stored : ValidationRunModel
  openCalls : List OpenUpsert

/- A call reads, or the n-th of the open calls writes. -/
inductive UpsertHalf
| read (now : DateTime) (write : ValidationRunWrite)
| write (n : Nat)

namespace SharedRow

/- One half of a call: it reads the row, or it writes it. -/
def step (s : SharedRow) : UpsertHalf → SharedRow
| .read now write =>
    -- Calls on other uids have no part in this row.
    if write.uid = s.stored.uid then
      { s with
        openCalls :=
          s.openCalls ++ [⟨now, write, s.stored⟩] }
    else
      s
| .write n =>
    match s.openCalls[n]? with
    | some call =>
        { stored := call.store s.stored
          openCalls := s.openCalls.eraseIdx n }
    | none => s

/- The row after the halves, in this order. -/
def run
    (row : ValidationRunModel)
    (halves : List UpsertHalf) : SharedRow :=
  Run.run step ⟨row, []⟩ halves

/- A call that nothing comes between is a whole upsert. -/
theorem validationRunByUid_upsert_eq
    {db : ValidationStore}
    {row : ValidationRunModel}
    (now : DateTime)
    (write : ValidationRunWrite)
    (hRow : db.validationRunByUid write.uid = some row) :
    (db.upsertValidationRun now write).validationRunByUid
        write.uid =
      some (run row [.read now write, .write 0]).stored := by
  have hUid : write.uid = row.uid :=
    (ValidationStore.uid_of_validationRunByUid hRow).2.symm
  have hUpsert :=
    ValidationStore.validationRunByUid_upsertAll db
      [(now, write)] write.uid
  have hOwn :
      [(now, write)].filter
        (fun w => w.2.uid = write.uid) = [(now, write)] := by
    simp
  rw [hOwn, hRow] at hUpsert
  refine Eq.trans hUpsert (congrArg some ?_)
  have hStored :
      (run row [.read now write, .write 0]).stored =
        OpenUpsert.store ⟨now, write, row⟩ row := by
    simp [run, step, hUid]
  rw [hStored]
  rfl

end SharedRow

end EngenhoPromessa

------------------------------------------------------------
-- Interleavings
------------------------------------------------------------

namespace EngenhoPromessa

/- What a call writes goes by the row it has read. -/
theorem OpenUpsert.terminalAt_store
    (call : OpenUpsert)
    (stored : ValidationRunModel) :
    (call.store stored).terminalAt =
      call.existing.terminalAt.or
        (if call.write.phase.isTerminal then some call.now
          else none) := by
  rw [← isTerminalPhase_serializePhase]
  simp only [store, ValidationStore.updateRun]
  cases call.existing.terminalAt with
  | none => rfl
  | some t => rfl

namespace SharedRow

/- The columns no call sets are as they were inserted. -/
theorem startedAt_run
    (row : ValidationRunModel)
    (halves : List UpsertHalf) :
    let stored := (run row halves).stored
    (stored.uid, stored.«namespace», stored.name,
        stored.imageDigest, stored.imageRepo,
        stored.startedAt) =
      (row.uid, row.«namespace», row.name, row.imageDigest,
        row.imageRepo, row.startedAt) := by
  refine Run.invariant_run
    (fun s : SharedRow =>
      (s.stored.uid, s.stored.«namespace», s.stored.name,
          s.stored.imageDigest, s.stored.imageRepo,
          s.stored.startedAt) =
        (row.uid, row.«namespace», row.name,
          row.imageDigest, row.imageRepo, row.startedAt))
    ?_ rfl (Run.allowed_true step ⟨row, []⟩ halves)
  intro s half hSame _
  cases half with
  | read now write =>
      simp only [step]
      split
      · exact hSame
      · exact hSame
  | write n =>
      simp only [step]
      split
      · exact hSame
      · exact hSame

/- A terminal time that is stored is stored afterwards. -/
def KeepsTerminalAt (s s' : SharedRow) : Prop :=
  ∀ t, s.stored.terminalAt = some t →
    s'.stored.terminalAt = some t

/-
  Once some stored version has a terminal time, all later
  ones have the same.
-/
def TerminalAtOnce
    (row : ValidationRunModel)
    (halves : List UpsertHalf) : Prop :=
  ∀ earlier later, earlier ++ later <+: halves →
    KeepsTerminalAt (run row earlier)
      (run row (earlier ++ later))

/-
  A call that writes over a terminal time read the row with
  one, or is terminal itself at that very time.
-/
def WritesInTime (s : SharedRow) : UpsertHalf → Prop
| .read _ _ => True
| .write n =>
    ∀ call, s.openCalls[n]? = some call →
      ∀ t, s.stored.terminalAt = some t →
        call.existing.terminalAt ≠ none ∨
          (call.write.phase.isTerminal = true ∧
            call.now = t)

/- What a call read of the terminal time still stands. -/
def ReadsStand (s : SharedRow) : Prop :=
  ∀ call ∈ s.openCalls, ∀ t,
    call.existing.terminalAt = some t →
      s.stored.terminalAt = some t

/- What was read still stands if the time was kept. -/
theorem readsStand_step
    {s : SharedRow}
    {half : UpsertHalf}
    (hReads : s.ReadsStand)
    (hKeeps : KeepsTerminalAt s (s.step half)) :
    (s.step half).ReadsStand := by
  intro call hCall t hRead
  cases half with
  | read now write =>
      simp only [step] at hCall ⊢
      split at hCall
      · rename_i hUid
        rw [if_pos hUid]
        rcases List.mem_append.mp hCall with hOld | hNew
        · exact hReads call hOld t hRead
        · rw [List.mem_singleton.mp hNew] at hRead
          exact hRead
      · rename_i hUid
        rw [if_neg hUid]
        exact hReads call hCall t hRead
  | write n =>
      have hOld : call ∈ s.openCalls := by
        simp only [step] at hCall
        split at hCall
        · exact List.mem_of_mem_eraseIdx hCall
        · exact hCall
      exact hKeeps t (hReads call hOld t hRead)

/- What one half does to a terminal time. -/
theorem keepsTerminalAt_step_iff
    {s : SharedRow}
    (hReads : s.ReadsStand)
    (half : UpsertHalf) :
    KeepsTerminalAt s (s.step half) ↔
      s.WritesInTime half := by
  cases half with
  | read now write =>
      refine iff_of_true (fun t hStored => ?_) trivial
      simp only [step]
      split
      · exact hStored
      · exact hStored
  | write n =>
      cases hCall : s.openCalls[n]? with
      | none =>
          simp [KeepsTerminalAt, WritesInTime, step, hCall]
      | some call =>
          have hMem : call ∈ s.openCalls :=
            List.mem_of_getElem? hCall
          have hStore :
              (s.step (.write n)).stored.terminalAt =
                call.existing.terminalAt.or
                  (if call.write.phase.isTerminal then
                    some call.now else none) := by
            rw [← call.terminalAt_store s.stored]
            simp [step, hCall]
          simp only [KeepsTerminalAt, WritesInTime, hStore,
            hCall, Option.some.injEq, forall_eq']
          refine forall_congr' fun t =>
            imp_congr_right fun hStored => ?_
          cases hRead : call.existing.terminalAt with
          | none => simp
          | some t' =>
              have hTime := hReads call hMem t' hRead
              have hSame : t' = t :=
                Option.some.inj (hTime.symm.trans hStored)
              simp [hSame]

/- Keeping the time is asking that no write comes late. -/
theorem allowed_keepsTerminalAt_iff
    (row : ValidationRunModel)
    (halves : List UpsertHalf) :
    Run.Allowed step
        (fun s half => KeepsTerminalAt s (s.step half))
        ⟨row, []⟩ halves ↔
      Run.Allowed step WritesInTime ⟨row, []⟩ halves := by
  have hNew : ReadsStand ⟨row, []⟩ := fun _ hCall =>
    absurd hCall List.not_mem_nil
  constructor
  · exact Run.allowed_of_invariant ReadsStand
      (fun _ _ hReads hKeeps =>
        readsStand_step hReads hKeeps)
      (fun _ half hReads hKeeps =>
        (keepsTerminalAt_step_iff hReads half).mp hKeeps)
      hNew
  · exact Run.allowed_of_invariant ReadsStand
      (fun _ half hReads hInTime =>
        readsStand_step hReads
          ((keepsTerminalAt_step_iff hReads half).mpr
            hInTime))
      (fun _ half hReads hInTime =>
        (keepsTerminalAt_step_iff hReads half).mpr hInTime)
      hNew

/- The time is set once just if no write comes late. -/
theorem terminalAtOnce_iff
    (row : ValidationRunModel)
    (halves : List UpsertHalf) :
    TerminalAtOnce row halves ↔
      Run.Allowed step WritesInTime ⟨row, []⟩ halves := by
  rw [← allowed_keepsTerminalAt_iff]
  exact (Run.allowed_relates_iff KeepsTerminalAt
    (fun _ _ hStored => hStored)
    (fun hFirst hSecond t hStored =>
      hSecond t (hFirst t hStored))).symm

/-
  A call that has read the row while its run was scanning
  writes after the one that saw the run pass.
-/
def slowWriter : List UpsertHalf :=
  [.read ⟨2⟩
      (ValidationStore.sampleRunWrite "u" 2 .scanning).2,
    .read ⟨3⟩
      (ValidationStore.sampleRunWrite "u" 3 .passed).2,
    .write 1,
    .write 0]

/- A slow writer takes the time of a run back. -/
theorem not_terminalAtOnce_slowWriter :
    ¬ TerminalAtOnce
      (ValidationStore.insertRun ⟨1⟩
        (ValidationStore.sampleRunWrite "u" 1 .scanning).2)
      slowWriter := by
  intro hOnce
  have hStored :=
    hOnce (slowWriter.take 3) (slowWriter.drop 3)
      List.prefix_rfl ⟨3⟩ (by decide)
  exact absurd hStored (by decide)

end SharedRow

end EngenhoPromessa
