import EngenhoPromessa.Controllers.Traceability
import EngenhoPromessa.ReconcilerEngine.ShortCircuit

/-
  The rows of a dispatched action against its execution.

  An execution is noted leaf by leaf, each with its outcome.
  When no `Compose` lies within another, the receipt of the
  execution lists exactly the noted outcomes, and the rows
  read back from it are the noted leaves.

  Key definitions include:
    * `TypedAction.IsFlat`
    * `ActionExecutor.noted`
    * `ActionExecutor.leafExecutions`
    * `ActionDispatcher.RowsAreExecution`

  Key theorems include:
    * `ActionExecutor.run_executeSteps_noted`
    * `ActionDispatcher.rowsAreExecution`
-/

------------------------------------------------------------
-- Noting The Leaves Of An Execution
------------------------------------------------------------

namespace EngenhoPromessa

namespace TypedAction

/- Not a `Compose` that contains a `Compose`. -/
def IsFlat : TypedAction → Prop
| .compose steps => ∀ step ∈ steps, step.isLeaf = true
| _ => True

/- The leaves of a flat action, in order. -/
def flatLeaves : TypedAction → List TypedAction
| .compose steps => steps
| action => [action]

end TypedAction

namespace ActionExecutor

/- A leaf that was run, with what came of it. -/
structure LeafExecution where
  leaf : TypedAction.Leaf
  outcome : ErasedOutcome

namespace LeafExecution

/- The action the executor was given. -/
def action (e : LeafExecution) : TypedAction := e.leaf.1

/- Whether the execution went through. -/
def succeeded (e : LeafExecution) : Bool :=
  e.outcome.isTerminalSuccess

end LeafExecution

variable {σ : Type}

/- Run a leaf and note it. -/
def noted
    (run : List Nat → TypedAction.Leaf → StateM σ ErasedOutcome)
    (pos : List Nat)
    (leaf : TypedAction.Leaf) :
    StateM (σ × List LeafExecution) ErasedOutcome :=
  fun s =>
    let (outcome, s') := (run pos leaf).run s.1
    (outcome, (s', s.2 ++ [⟨leaf, outcome⟩]))

/-
  What is noted of a list of leaves: each in its turn, all
  but the last a success, and the last one no success if
  there are leaves left.
-/
structure NotesOf
    (steps : List TypedAction)
    (notes : List LeafExecution) : Prop where
  inOrder : notes.map LeafExecution.action <+: steps
  goesOn :
    notes.Pairwise (fun earlier _ => earlier.succeeded = true)
  stops :
    notes.length < steps.length →
      ∃ last, notes.getLast? = some last ∧
        last.succeeded = false

theorem notesOf_nil : NotesOf [] [] where
  inOrder := List.prefix_rfl
  goesOn := List.Pairwise.nil
  stops hShort := absurd hShort (Nat.lt_irrefl 0)

/- A leaf that is no success is the last one noted. -/
theorem notesOf_failed
    {e : LeafExecution}
    (hFailed : e.succeeded = false)
    (steps : List TypedAction) :
    NotesOf (e.action :: steps) [e] where
  inOrder := ⟨steps, rfl⟩
  goesOn := List.pairwise_singleton _ _
  stops _ := ⟨e, rfl, hFailed⟩

/- A leaf by itself is the only one noted. -/
theorem notesOf_leaf
    {action : TypedAction}
    (hLeaf : action.isLeaf = true)
    (outcome : ErasedOutcome) :
    NotesOf action.flatLeaves [⟨⟨action, hLeaf⟩, outcome⟩] := by
  have hLeaves : action.flatLeaves = [action] := by
    cases action with
    | compose steps => simp [TypedAction.isLeaf] at hLeaf
    | _ => rfl
  rw [hLeaves]
  exact
    { inOrder := List.prefix_rfl
      goesOn := List.pairwise_singleton _ _
      stops := fun hShort => absurd hShort (Nat.lt_irrefl 1) }

/-
  A successful execution goes in front of the notes of the
  later steps.
-/
theorem NotesOf.cons
    {e : LeafExecution}
    {steps : List TypedAction}
    {notes : List LeafExecution}
    (hOk : e.succeeded = true)
    (hNotes : NotesOf steps notes) :
    NotesOf (e.action :: steps) (e :: notes) where
  inOrder :=
    (List.prefix_cons_inj e.action).mpr hNotes.inOrder
  goesOn :=
    List.pairwise_cons.mpr ⟨fun _ _ => hOk, hNotes.goesOn⟩
  stops hShort := by
    rcases hNotes.stops (Nat.lt_of_succ_lt_succ hShort) with
      ⟨last, hLast, hFailed⟩
    refine ⟨last, ?_, hFailed⟩
    rw [List.getLast?_cons, hLast, Option.getD_some]

variable [PromessaSerde]

/- The leaves an execution runs, in the order it does. -/
def leafExecutions
    (run : List Nat → TypedAction.Leaf → StateM σ ErasedOutcome)
    (action : TypedAction)
    (s : σ) : List LeafExecution :=
  ((executeWith (noted run) [] action).run (s, [])).2.2

/- A leaf is run by the leaf executor, at its own position. -/
theorem executeWith_of_isLeaf
    {m : Type → Type}
    [Monad m]
    (run : List Nat → TypedAction.Leaf → m ErasedOutcome)
    (pos : List Nat)
    {action : TypedAction}
    (hLeaf : action.isLeaf = true) :
    executeWith run pos action = run pos ⟨action, hLeaf⟩ := by
  cases action with
  | compose steps => simp [TypedAction.isLeaf] at hLeaf
  | _ => rfl

/- What a noted leaf does, and the note it leaves. -/
theorem run_executeWith_noted
    {run : List Nat → TypedAction.Leaf → StateM σ ErasedOutcome}
    {pos : List Nat}
    {leaf : TypedAction.Leaf}
    {s s' : σ}
    {outcome : ErasedOutcome}
    (hRun : (run pos leaf).run s = (outcome, s'))
    (log : List LeafExecution) :
    (executeWith (noted run) pos leaf.1).run (s, log) =
      (outcome, (s', log ++ [⟨leaf, outcome⟩])) := by
  rw [executeWith_of_isLeaf (noted run) pos leaf.2]
  change (((run pos leaf).run s).1,
    (((run pos leaf).run s).2,
      log ++ [⟨leaf, ((run pos leaf).run s).1⟩])) = _
  rw [hRun]

/-
  The loop over leaves and the same loop with notes. The
  induction is on the steps, with the notes so far kept.
-/
theorem run_executeSteps_noted
    (run : List Nat → TypedAction.Leaf → StateM σ ErasedOutcome)
    (pos : List Nat)
    (i : Nat)
    {steps : List TypedAction}
    (hLeaves : ∀ step ∈ steps, step.isLeaf = true)
    (s : σ)
    (log : List LeafExecution) :
    ∃ notes s',
      NotesOf steps notes ∧
        (executeSteps run pos i steps).run s =
          (notes.map LeafExecution.outcome, s') ∧
        (executeSteps (noted run) pos i steps).run (s, log) =
          (notes.map LeafExecution.outcome,
            (s', log ++ notes)) := by
  induction steps generalizing i s log with
  | nil =>
      refine ⟨[], s, notesOf_nil, rfl, ?_⟩
      rw [List.append_nil]
      rfl
  | cons step steps ih =>
      have hLeaf := hLeaves step List.mem_cons_self
      rcases hStep : (run (pos ++ [i]) ⟨step, hLeaf⟩).run s
        with ⟨outcome, s₁⟩
      let e : LeafExecution := ⟨⟨step, hLeaf⟩, outcome⟩
      have hRun :
          (executeWith run (pos ++ [i]) step).run s =
            (outcome, s₁) := by
        rw [executeWith_of_isLeaf run _ hLeaf, hStep]
      have hNoted :
          (executeWith (noted run) (pos ++ [i]) step).run
              (s, log) =
            (outcome, (s₁, log ++ [e])) :=
        run_executeWith_noted hStep log
      cases hOk : outcome.isTerminalSuccess with
      | false =>
          have hFailed : e.succeeded = false := hOk
          refine ⟨[e], s₁, notesOf_failed hFailed steps, ?_, ?_⟩
          · rw [executeSteps, run_bind_of_run hRun, hOk]
            rfl
          · rw [executeSteps, run_bind_of_run hNoted, hOk]
            rfl
      | true =>
          rcases ih (i + 1)
            (fun step hMem =>
              hLeaves step (List.mem_cons_of_mem _ hMem))
            s₁ (log ++ [e]) with
            ⟨notes, s₂, hNotes, hRest, hRestNoted⟩
          have hSucceeded : e.succeeded = true := hOk
          refine ⟨e :: notes, s₂, hNotes.cons hSucceeded, ?_, ?_⟩
          · rw [executeSteps, run_bind_of_run hRun, hOk,
              if_pos rfl, run_bind_of_run hRest]
            rfl
          · rw [executeSteps, run_bind_of_run hNoted, hOk,
              if_pos rfl, run_bind_of_run hRestNoted,
              List.append_assoc]
            rfl

/- A composition of leaves and the same with notes. -/
theorem run_compose_noted
    (run : List Nat → TypedAction.Leaf → StateM σ ErasedOutcome)
    {steps : List TypedAction}
    (hLeaves : ∀ step ∈ steps, step.isLeaf = true)
    (s : σ) :
    ∃ notes s',
      NotesOf steps notes ∧
        (executeWith run [] (.compose steps)).run s =
          (.applied (composeReceipt
            (notes.map LeafExecution.outcome)), s') ∧
        (executeWith (noted run) [] (.compose steps)).run
            (s, []) =
          (.applied (composeReceipt
            (notes.map LeafExecution.outcome)),
            (s', notes)) := by
  rcases run_executeSteps_noted run [] 0 hLeaves s [] with
    ⟨notes, s', hNotes, hRun, hNoted⟩
  refine ⟨notes, s', hNotes, ?_, ?_⟩
  · rw [executeWith, run_bind_of_run hRun]
    rfl
  · rw [executeWith, run_bind_of_run hNoted]
    rfl

end ActionExecutor

end EngenhoPromessa

------------------------------------------------------------
-- Rows And Leaves
------------------------------------------------------------

namespace EngenhoPromessa

namespace ActionDispatcher

open ActionExecutor

variable [PromessaSerde] [OutcomeSerde]

/- The row that the `i`th executed leaf has in the store. -/
def leafRow
    (clock : ClockRead → DateTime)
    (uid : String)
    (decidedAt : DateTime)
    (i : Nat)
    (e : LeafExecution) : ReconcilerOutcomeModel :=
  ValidationStore.insertOutcome (clock (.appendedAt i))
    (outcomeWrite uid decidedAt
      (outcomeRow e.action e.outcome))

/-
  What is persisted of the outcome of an execution that runs
  its leaves with `run`. Noting the leaves is the execution
  itself; each has a row of its own, and none but the last
  is without success.
-/
structure RowsAreExecution
    {σ : Type}
    (execution : StateM σ ErasedOutcome)
    (run : List Nat → TypedAction.Leaf → StateM σ ErasedOutcome)
    (action : TypedAction)
    (s : σ)
    (clock : ClockRead → DateTime)
    (uid : String)
    (decidedAt : DateTime)
    (db : ValidationStore) : Prop where
  noted :
    (executeWith (noted run) [] action).run (s, []) =
      ((execution.run s).1,
        ((execution.run s).2, leafExecutions run action s))
  notes : NotesOf action.flatLeaves (leafExecutions run action s)
  rows :
    (persistOutcome clock uid decidedAt action
        (execution.run s).1 db).1 =
      { db with
        reconcilerOutcomes :=
          db.reconcilerOutcomes ++
            (leafExecutions run action s).mapIdx
              (leafRow clock uid decidedAt) }

/- A leaf leaves one row. -/
theorem outcomeRows_of_isLeaf
    {action : TypedAction}
    (hLeaf : action.isLeaf = true)
    (outcome : ErasedOutcome) :
    outcomeRows action outcome = [outcomeRow action outcome] := by
  cases action with
  | compose steps => simp [TypedAction.isLeaf] at hLeaf
  | _ => rfl

/- Zipping the steps with the receipts gives the notes. -/
omit [PromessaSerde] [OutcomeSerde] in
theorem zip_outcomes_of_prefix
    {steps : List TypedAction}
    {notes : List LeafExecution}
    (hOrder : notes.map LeafExecution.action <+: steps) :
    steps.zip (notes.map LeafExecution.outcome) =
      notes.map (fun e => (e.action, e.outcome)) := by
  induction notes generalizing steps with
  | nil => simp
  | cons e notes ih =>
      rcases hOrder with ⟨rest, rfl⟩
      have hTail :=
        ih (List.prefix_append (notes.map LeafExecution.action)
          rest)
      simp only [List.map_cons, List.cons_append,
        List.zip_cons_cons, hTail]

/-
  A compose leaves one row for each step that was executed,
  in order.
-/
theorem outcomeRows_compose
    {steps : List TypedAction}
    {notes : List LeafExecution}
    (hOrder : notes.map LeafExecution.action <+: steps) :
    outcomeRows (.compose steps)
        (.applied (composeReceipt
          (notes.map LeafExecution.outcome))) =
      notes.map (fun e => outcomeRow e.action e.outcome) := by
  simp only [outcomeRows,
    composeReceiptFromValue_composeReceipt,
    zip_outcomes_of_prefix hOrder, List.map_map,
    Function.comp_def]

/- The rows are appended one by one, each at its time. -/
theorem persistOutcome_eq_of_outcomeRows
    {action : TypedAction}
    {outcome : ErasedOutcome}
    {notes : List LeafExecution}
    (hRows :
      outcomeRows action outcome =
        notes.map (fun e => outcomeRow e.action e.outcome))
    (clock : ClockRead → DateTime)
    (uid : String)
    (decidedAt : DateTime)
    (db : ValidationStore) :
    (persistOutcome clock uid decidedAt action outcome db).1 =
      { db with
        reconcilerOutcomes :=
          db.reconcilerOutcomes ++
            notes.mapIdx (leafRow clock uid decidedAt) } := by
  have hMap :
      ∀ f : Nat → OutcomeRow → ReconcilerOutcomeModel,
        (notes.map (fun e =>
            outcomeRow e.action e.outcome)).mapIdx f =
          notes.mapIdx (fun i e =>
            f i (outcomeRow e.action e.outcome)) := by
    intro f
    exact List.ext_getElem (by simp) (by simp)
  simp only [persistOutcome, hRows, persistRows_fst_eq, hMap,
    Nat.zero_add]
  rfl

/-
  The rows of a flat action are its executions, whatever
  each answers.
-/
theorem rowsAreExecution_executeWith
    {σ : Type}
    (run : List Nat → TypedAction.Leaf → StateM σ ErasedOutcome)
    {action : TypedAction}
    (hFlat : action.IsFlat)
    (s : σ)
    (clock : ClockRead → DateTime)
    (uid : String)
    (decidedAt : DateTime)
    (db : ValidationStore) :
    RowsAreExecution (executeWith run [] action) run action s
      clock uid decidedAt db := by
  cases hLeaf : action.isLeaf with
  | true =>
      rcases hRun : (run [] ⟨action, hLeaf⟩).run s with
        ⟨outcome, s'⟩
      have hExecute :
          (executeWith run [] action).run s =
            (outcome, s') := by
        rw [executeWith_of_isLeaf run [] hLeaf, hRun]
      have hNoted := run_executeWith_noted hRun []
      have hExecutions :
          leafExecutions run action s =
            [⟨⟨action, hLeaf⟩, outcome⟩] := by
        rw [leafExecutions, hNoted]
        rfl
      refine ⟨?_, ?_, ?_⟩
      · rw [hExecutions, hExecute]
        exact hNoted
      · rw [hExecutions]
        exact notesOf_leaf hLeaf outcome
      · rw [hExecutions, hExecute]
        refine persistOutcome_eq_of_outcomeRows ?_ clock uid
          decidedAt db
        exact outcomeRows_of_isLeaf hLeaf outcome
  | false =>
      rcases TypedAction.exists_of_not_isLeaf hLeaf with
        ⟨steps, rfl⟩
      rcases run_compose_noted run hFlat s with
        ⟨notes, s', hNotes, hRun, hNoted⟩
      have hExecutions :
          leafExecutions run (.compose steps) s = notes := by
        rw [leafExecutions, hNoted]
      refine ⟨?_, ?_, ?_⟩
      · rw [hExecutions, hNoted, hRun]
      · rw [hExecutions]
        exact hNotes
      · rw [hExecutions, hRun]
        exact persistOutcome_eq_of_outcomeRows
          (outcomeRows_compose hNotes.inOrder) clock uid
          decidedAt db

/- Run a leaf by looking up what comes of it. -/
def assigned
    (outcome : List Nat → ErasedOutcome)
    (pos : List Nat)
    (_ : TypedAction.Leaf) : StateM Unit ErasedOutcome :=
  return outcome pos

/-
  The rows of a flat action are its execution, whatever the
  reconcilers do, and whatever outcomes its leaves have.
-/
theorem rowsAreExecution
    [ErrorText]
    {action : TypedAction}
    (hFlat : action.IsFlat)
    (clock : ClockRead → DateTime)
    (uid : String)
    (decidedAt : DateTime)
    (db : ValidationStore) :
    (∀ {σ : Type} (executor : ActionExecutor (StateM σ))
        (env : Env) (s : σ),
      RowsAreExecution (executor.execute env action)
        (fun _ leaf => executor.executeLeaf env leaf) action s
        clock uid decidedAt db) ∧
      ∀ outcome : List Nat → ErasedOutcome,
        RowsAreExecution
          (executeWith (assigned outcome) [] action)
          (assigned outcome) action () clock uid decidedAt
          db := by
  refine ⟨?_, ?_⟩
  · intro σ executor env s
    exact rowsAreExecution_executeWith _ hFlat s clock uid
      decidedAt db
  · intro outcome
    exact rowsAreExecution_executeWith _ hFlat () clock uid
      decidedAt db

end ActionDispatcher

end EngenhoPromessa

------------------------------------------------------------
-- The Rows Of Two Steps
------------------------------------------------------------

namespace EngenhoPromessa

namespace ActionDispatcher

open Reference

/- Two steps, of which the first one fails. -/
def failingPair : TypedAction :=
  .compose [.reconcilerApply .ghcrTagRevoke (.obj []), .noop]

/-
  The executor of the reference, on a compose that stops at
  its first step.
-/
theorem rowsAreExecution_failingPair :
    failingPair.IsFlat ∧
      RowsAreExecution
        (Reference.executor.execute (fun _ => none) failingPair)
        (fun _ leaf =>
          Reference.executor.executeLeaf (fun _ => none) leaf)
        failingPair () (fun _ => Reference.second 0) "uid-00"
        (Reference.second 0) .empty := by
  have hFlat : failingPair.IsFlat := by
    intro step hStep
    rcases List.mem_pair.mp hStep with rfl | rfl
    · rfl
    · rfl
  exact ⟨hFlat,
    (rowsAreExecution hFlat _ _ _ _).1 Reference.executor _ ()⟩

end ActionDispatcher

end EngenhoPromessa
