import EngenhoPromessa.Collections.UpToFailure
import EngenhoPromessa.External.Reference
import EngenhoPromessa.ReconcilerEngine.Executor

/-
  Which leaves of an action tree the executor runs.

  A `Compose` leaves its loop at the first step that is no
  success, but is itself a success, so a failure is only
  seen by the `Compose` directly around it. The leaves that
  run are those up to the first failure, in depth-first
  order, and the leaves that follow in the outer steps.

  Key definitions include:
    * `TypedAction.leafPositions`
    * `ActionExecutor.executedLeaves`
    * `ActionExecutor.visited`
    * `ActionExecutor.Contained`

  Key theorems include:
    * `ActionExecutor.executedLeaves_eq_visited`
    * `ActionExecutor.visited_eq_append`
-/

------------------------------------------------------------
-- Leaves And Their Positions
------------------------------------------------------------

namespace EngenhoPromessa

namespace TypedAction

mutual

/- The leaves of a tree, depth first and left to right. -/
def leafPositions
    (pos : List Nat) : TypedAction → List (List Nat)
| .compose steps => leafPositionsSteps pos 0 steps
| _ => [pos]

/- The same of the steps, counted from `i` on. -/
def leafPositionsSteps
    (pos : List Nat)
    (i : Nat) : List TypedAction → List (List Nat)
| [] => []
| step :: steps =>
    leafPositions (pos ++ [i]) step ++
      leafPositionsSteps pos (i + 1) steps

end

theorem leafPositions_of_isLeaf
    {action : TypedAction}
    (hLeaf : action.isLeaf = true)
    (pos : List Nat) :
    leafPositions pos action = [pos] := by
  cases action <;> simp_all [isLeaf, leafPositions]

theorem exists_of_not_isLeaf
    {action : TypedAction}
    (hNot : action.isLeaf = false) :
    ∃ steps, action = .compose steps := by
  cases action <;> simp_all [isLeaf]

mutual

/- A leaf lies below the node it was reached from. -/
theorem prefix_of_mem_leafPositions
    (pos : List Nat)
    {p : List Nat}
    (action : TypedAction)
    (hp : p ∈ leafPositions pos action) :
    pos <+: p := by
  cases action with
  | compose steps =>
      rcases prefix_of_mem_leafPositionsSteps pos 0 steps hp
        with ⟨j, _, hPrefix⟩
      exact (List.prefix_append pos [j]).trans hPrefix
  | _ =>
      have hEq : p = pos := by
        simpa [leafPositions] using hp
      exact hEq ▸ List.prefix_rfl

/- The steps from index `i` on are at index `i` or later. -/
theorem prefix_of_mem_leafPositionsSteps
    (pos : List Nat)
    (i : Nat)
    {p : List Nat}
    (steps : List TypedAction)
    (hp : p ∈ leafPositionsSteps pos i steps) :
    ∃ j, i ≤ j ∧ pos ++ [j] <+: p := by
  cases steps with
  | nil =>
      simp [leafPositionsSteps] at hp
  | cons step steps =>
      rcases List.mem_append.mp hp with hStep | hSteps
      · exact ⟨i, le_refl i,
          prefix_of_mem_leafPositions (pos ++ [i]) step
            hStep⟩
      · rcases prefix_of_mem_leafPositionsSteps pos (i + 1)
          steps hSteps with ⟨j, hij, hPrefix⟩
        exact ⟨j, by omega, hPrefix⟩

end

end TypedAction

end EngenhoPromessa

------------------------------------------------------------
-- The Leaves A Run Executes
------------------------------------------------------------

namespace EngenhoPromessa

namespace ActionExecutor

variable [PromessaSerde]

/- Run a leaf by noting its position. -/
def recordLeaf
    (outcome : List Nat → ErasedOutcome)
    (pos : List Nat)
    (_ : TypedAction.Leaf) :
    StateM (List (List Nat)) ErasedOutcome := do
  modify (fun executed => executed ++ [pos])
  return outcome pos

/- The leaves that run when the outcomes are as given. -/
def executedLeaves
    (outcome : List Nat → ErasedOutcome)
    (action : TypedAction) : List (List Nat) :=
  ((executeWith (recordLeaf outcome) [] action).run []).2

mutual

/-
  The same without the state: the leaf positions a run
  visits when `ok` tells which leaves succeed.
-/
def visited
    (ok : List Nat → Bool)
    (pos : List Nat) : TypedAction → List (List Nat)
| .compose steps => visitedSteps ok pos 0 steps
| _ => [pos]

/- A `Compose` succeeds whatever its steps did. -/
def visitedSteps
    (ok : List Nat → Bool)
    (pos : List Nat)
    (i : Nat) : List TypedAction → List (List Nat)
| [] => []
| step :: steps =>
    visited ok (pos ++ [i]) step ++
      if step.isLeaf && !ok (pos ++ [i]) then
        []
      else
        visitedSteps ok pos (i + 1) steps

end

mutual

/- The log of an execution is that of the visit. -/
theorem run_executeWith_recordLeaf
    (outcome : List Nat → ErasedOutcome)
    (pos : List Nat)
    (action : TypedAction)
    (executed : List (List Nat)) :
    ∃ result : ErasedOutcome,
      (executeWith (recordLeaf outcome) pos action).run
          executed =
        (result, executed ++ visited
          (fun p => (outcome p).isTerminalSuccess) pos
          action) ∧
      result.isTerminalSuccess =
        !(action.isLeaf && !(outcome pos).isTerminalSuccess) := by
  cases action with
  | compose steps =>
      rcases run_executeSteps_recordLeaf outcome pos 0 steps
        executed with ⟨results, hRun⟩
      refine ⟨.applied (composeReceipt results), ?_, rfl⟩
      rw [executeWith, run_bind_of_run hRun, visited]
      rfl
  | _ =>
      refine ⟨outcome pos, rfl, ?_⟩
      simp [TypedAction.isLeaf]

/- The same for steps, up to the first that fails. -/
theorem run_executeSteps_recordLeaf
    (outcome : List Nat → ErasedOutcome)
    (pos : List Nat)
    (i : Nat)
    (steps : List TypedAction)
    (executed : List (List Nat)) :
    ∃ results : List ErasedOutcome,
      (executeSteps (recordLeaf outcome) pos i steps).run
          executed =
        (results, executed ++ visitedSteps
          (fun p => (outcome p).isTerminalSuccess) pos i
          steps) := by
  cases steps with
  | nil =>
      refine ⟨[], ?_⟩
      rw [executeSteps, visitedSteps, List.append_nil]
      rfl
  | cons step steps =>
      rcases run_executeWith_recordLeaf outcome (pos ++ [i])
        step executed with ⟨result, hRun, hResult⟩
      rcases run_executeSteps_recordLeaf outcome pos (i + 1)
        steps (executed ++ visited
          (fun p => (outcome p).isTerminalSuccess)
          (pos ++ [i]) step) with ⟨results, hRest⟩
      cases hStop :
        step.isLeaf &&
          !(outcome (pos ++ [i])).isTerminalSuccess
      · refine ⟨result :: results, ?_⟩
        rw [hStop, Bool.not_false] at hResult
        rw [executeSteps, run_bind_of_run hRun, if_pos hResult,
          run_bind_of_run hRest, visitedSteps, hStop,
          List.append_assoc]
        rfl
      · refine ⟨[result], ?_⟩
        rw [hStop, Bool.not_true] at hResult
        rw [executeSteps, run_bind_of_run hRun, hResult,
          visitedSteps, hStop, if_pos rfl, List.append_nil]
        rfl

end

/- What is executed is what is visited. -/
theorem executedLeaves_eq_visited
    (outcome : List Nat → ErasedOutcome)
    (action : TypedAction) :
    executedLeaves outcome action =
      visited (fun p => (outcome p).isTerminalSuccess) []
        action := by
  rcases run_executeWith_recordLeaf outcome [] action []
    with ⟨result, hRun, _⟩
  rw [executedLeaves, hRun]
  rfl

end ActionExecutor

end EngenhoPromessa

------------------------------------------------------------
-- Failures And What Contains Them
------------------------------------------------------------

namespace EngenhoPromessa

namespace ActionExecutor

open TypedAction

/-
  Every leaf after the first failing one lies within the
  `Compose` directly around it, or no leaf fails.
-/
def Contained
    (ok : List Nat → Bool)
    (leaves : List (List Nat)) : Prop :=
  match leaves.failure? ok with
  | none => True
  | some (p, rest) => ∀ q ∈ rest, p.dropLast <+: q

/- What the visit of `leaves` adds past the first failure. -/
def VisitsUpTo
    (ok : List Nat → Bool)
    (leaves visit : List (List Nat)) : Prop :=
  ∃ extra, visit = leaves.upToFailure ok ++ extra ∧
    (extra = [] ↔ Contained ok leaves)

/- Nothing is visited only if there is no leaf. -/
theorem VisitsUpTo.eq_nil_iff
    {ok : List Nat → Bool}
    {leaves visit : List (List Nat)}
    (hVisit : VisitsUpTo ok leaves visit) :
    visit = [] ↔ leaves = [] := by
  rcases hVisit with ⟨extra, rfl, hExtra⟩
  constructor
  · intro hNil
    have hUpTo := (List.append_eq_nil_iff.mp hNil).1
    exact (List.upToFailure_eq_nil_iff ok leaves).mp hUpTo
  · rintro rfl
    simpa [List.upToFailure] using hExtra.mpr trivial

/- A leaf alone is visited. -/
theorem visitsUpTo_leaf
    (ok : List Nat → Bool)
    (pos : List Nat) :
    VisitsUpTo ok [pos] [pos] := by
  refine ⟨[], ?_, ?_⟩
  · by_cases hOk : ok pos = true
    · simp [List.upToFailure, hOk]
    · simp [List.upToFailure, hOk]
  · by_cases hOk : ok pos = true
    · simp [Contained, List.failure?, hOk]
    · simp [Contained, List.failure?, hOk]

/- A leaf that fails ends the steps it is one of. -/
theorem visitsUpTo_failed_leaf
    {ok : List Nat → Bool}
    {pos : List Nat}
    {i : Nat}
    (hFails : ok (pos ++ [i]) = false)
    (steps : List TypedAction) :
    VisitsUpTo ok
      ((pos ++ [i]) :: leafPositionsSteps pos (i + 1) steps)
      [pos ++ [i]] := by
  refine ⟨[], by simp [List.upToFailure, hFails], ?_⟩
  refine ⟨fun _ => ?_, fun _ => rfl⟩
  simp only [Contained, List.failure?, hFails]
  intro q hq
  rcases prefix_of_mem_leafPositionsSteps pos (i + 1) steps
    hq with ⟨j, _, hPrefix⟩
  rw [List.dropLast_concat]
  exact (List.prefix_append pos [j]).trans hPrefix

/- After a leaf that succeeds the visit goes on. -/
theorem VisitsUpTo.append_of_all
    {ok : List Nat → Bool}
    {first rest visit : List (List Nat)}
    (hAll : first.failure? ok = none)
    (hRest : VisitsUpTo ok rest visit) :
    VisitsUpTo ok (first ++ rest) (first ++ visit) := by
  rcases hRest with ⟨extra, rfl, hExtra⟩
  refine ⟨extra, ?_, ?_⟩
  · rw [List.upToFailure_append_of_all hAll,
      List.append_assoc]
  · rw [hExtra, Contained, Contained,
      List.failure?_append_of_all hAll]

/-
  A leaf of a later step is outside the step `pos ++ [i]`,
  and so outside any `Compose` within that step.
-/
theorem not_prefix_of_mem_later
    {pos p q : List Nat}
    {i : Nat}
    {steps : List TypedAction}
    (hp : pos ++ [i] <+: p)
    (hq : q ∈ leafPositionsSteps pos (i + 1) steps) :
    ¬ p <+: q := by
  intro hPrefix
  rcases prefix_of_mem_leafPositionsSteps pos (i + 1) steps
    hq with ⟨j, hij, hLater⟩
  have hEq : pos ++ [i] = pos ++ [j] :=
    List.prefix_of_prefix_length_le (hp.trans hPrefix) hLater
      (by simp) |>.eq_of_length (by simp)
  have hSame : i = j := by simpa using hEq
  omega

/- The leaves of a `Compose` are strictly below it. -/
theorem prefix_dropLast_of_mem_leafPositions
    {pos p : List Nat}
    {steps : List TypedAction}
    (hp : p ∈ leafPositions pos (.compose steps)) :
    pos <+: p.dropLast := by
  rw [leafPositions] at hp
  rcases prefix_of_mem_leafPositionsSteps pos 0 steps hp with
    ⟨j, _, tail, rfl⟩
  rw [List.append_assoc]
  rw [List.dropLast_append_of_ne_nil (by simp)]
  exact List.prefix_append _ _

/-
  A failure inside an inner `Compose` does not stop the
  outer steps: they are visited as if it had succeeded.
-/
theorem VisitsUpTo.append_compose
    {ok : List Nat → Bool}
    {pos : List Nat}
    {i : Nat}
    {inner steps : List TypedAction}
    {visitInner visitSteps : List (List Nat)}
    (hInner :
      VisitsUpTo ok
        (leafPositions (pos ++ [i]) (.compose inner))
        visitInner)
    (hSteps :
      VisitsUpTo ok (leafPositionsSteps pos (i + 1) steps)
        visitSteps) :
    VisitsUpTo ok
      (leafPositions (pos ++ [i]) (.compose inner) ++
        leafPositionsSteps pos (i + 1) steps)
      (visitInner ++ visitSteps) := by
  have hLater := hSteps.eq_nil_iff
  cases hFailure :
    (leafPositions (pos ++ [i]) (.compose inner)).failure? ok
    with
  | none =>
      have hVisit :
          visitInner =
            leafPositions (pos ++ [i]) (.compose inner) := by
        rcases hInner with ⟨extra, rfl, hExtra⟩
        have hNil : extra = [] := by
          rw [hExtra, Contained, hFailure]
          trivial
        rw [hNil, List.append_nil,
          List.upToFailure_of_all hFailure]
      rw [hVisit]
      exact hSteps.append_of_all hFailure
  | some failure =>
      rcases failure with ⟨p, rest⟩
      have hp :=
        prefix_dropLast_of_mem_leafPositions
          (List.mem_of_failure?_eq_some hFailure)
      rcases hInner with ⟨extra, rfl, hExtra⟩
      refine ⟨extra ++ visitSteps, ?_, ?_⟩
      · rw [List.upToFailure_append_of_failure
          (by rw [hFailure]; simp), List.append_assoc]
      · rw [Contained, hFailure] at hExtra
        rw [Contained,
          List.failure?_append_of_failure hFailure,
          List.append_eq_nil_iff, hExtra, hLater]
        constructor
        · rintro ⟨hRest, hNil⟩ q hq
          rw [hNil, List.append_nil] at hq
          exact hRest q hq
        · intro hRest
          refine ⟨fun q hq =>
            hRest q (List.mem_append_left _ hq), ?_⟩
          apply List.eq_nil_iff_forall_not_mem.mpr
          intro q hq
          exact not_prefix_of_mem_later hp hq
            (hRest q (List.mem_append_right _ hq))

end ActionExecutor

end EngenhoPromessa

------------------------------------------------------------
-- The Short-Circuit Law
------------------------------------------------------------

namespace EngenhoPromessa

namespace ActionExecutor

open TypedAction

theorem visited_of_isLeaf
    {action : TypedAction}
    (hLeaf : action.isLeaf = true)
    (ok : List Nat → Bool)
    (pos : List Nat) :
    visited ok pos action = [pos] := by
  cases action <;> simp_all [isLeaf, visited]

mutual

/- The visit of a tree, one case per kind of action. -/
theorem visitsUpTo_visited
    (ok : List Nat → Bool)
    (pos : List Nat)
    (action : TypedAction) :
    VisitsUpTo ok (leafPositions pos action)
      (visited ok pos action) := by
  cases action with
  | compose steps =>
      rw [leafPositions, visited]
      exact visitsUpTo_visitedSteps ok pos 0 steps
  | _ => exact visitsUpTo_leaf ok pos

/- The steps are visited up to the first that fails. -/
theorem visitsUpTo_visitedSteps
    (ok : List Nat → Bool)
    (pos : List Nat)
    (i : Nat)
    (steps : List TypedAction) :
    VisitsUpTo ok (leafPositionsSteps pos i steps)
      (visitedSteps ok pos i steps) := by
  cases steps with
  | nil =>
      exact ⟨[], rfl, by simp [leafPositionsSteps, Contained,
        List.failure?]⟩
  | cons step steps =>
      have hStep :=
        visitsUpTo_visited ok (pos ++ [i]) step
      have hSteps :=
        visitsUpTo_visitedSteps ok pos (i + 1) steps
      rw [leafPositionsSteps, visitedSteps]
      cases hLeaf : step.isLeaf with
      | false =>
          rcases exists_of_not_isLeaf hLeaf with ⟨inner, rfl⟩
          exact hStep.append_compose hSteps
      | true =>
          rw [leafPositions_of_isLeaf hLeaf,
            visited_of_isLeaf hLeaf]
          cases hOk : ok (pos ++ [i]) with
          | false =>
              exact visitsUpTo_failed_leaf hOk steps
          | true =>
              have hAll :
                  [pos ++ [i]].failure? ok = none := by
                simp [List.failure?, hOk]
              exact hSteps.append_of_all hAll

end

/-
  The leaves that run are those up to the first failure in
  depth-first order, and none beyond it.
-/
def ShortCircuits
    [PromessaSerde]
    (outcome : List Nat → ErasedOutcome)
    (action : TypedAction) : Prop :=
  let ok := fun p => (outcome p).isTerminalSuccess
  executedLeaves outcome action =
      (leafPositions [] action).upToFailure ok ∧
    (executedLeaves outcome action).Pairwise
      (fun p _ => ok p = true)

/-
  The law holds exactly when no leaf fails, or every leaf
  after the first failing one is inside the `Compose`
  directly around that one.
-/
theorem shortCircuits_iff_contained
    [PromessaSerde]
    (outcome : List Nat → ErasedOutcome)
    (action : TypedAction) :
    ShortCircuits outcome action ↔
      Contained (fun p => (outcome p).isTerminalSuccess)
        (leafPositions [] action) := by
  rw [ShortCircuits, executedLeaves_eq_visited]
  rcases visitsUpTo_visited
    (fun p => (outcome p).isTerminalSuccess) [] action with
    ⟨extra, hVisit, hExtra⟩
  rw [← hExtra, hVisit]
  constructor
  · rintro ⟨hEq, _⟩
    simpa using hEq
  · rintro rfl
    rw [List.append_nil]
    exact ⟨rfl, List.pairwise_upToFailure _ _⟩

/-
  Two steps, the first a `Compose` whose only step fails:
  the second step runs after the failure.
-/
theorem not_shortCircuits_nested :
    ¬ ShortCircuits
      (fun p =>
        if p = [0, 0] then
          .failed (.transient "connection refused")
        else
          .alreadyConverged)
      (.compose
        [.compose [.reconcilerApply .ghcrTagRevoke (.obj [])],
          .noop]) := by
  rintro ⟨hExecuted, _⟩
  exact absurd hExecuted (by decide)

end ActionExecutor

end EngenhoPromessa
