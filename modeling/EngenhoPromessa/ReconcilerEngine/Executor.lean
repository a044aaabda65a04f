import EngenhoPromessa.ReconcilerEngine.Engine

/-
  The action executor: it recurses through `Compose` and
  runs every other action as a leaf.

  A leaf of an action tree is named by its position, the
  path of child indices from the root, since one action can
  occur in a tree many times.

  Key definitions include:
    * `ActionExecutor.executeWith`
    * `ActionExecutor.executeLeaf`
    * `ActionExecutor.execute`
-/

------------------------------------------------------------
-- Execution
------------------------------------------------------------

namespace EngenhoPromessa

/- What executes actions: an engine, and maybe commits. -/
structure ActionExecutor (m : Type → Type) where
  engine : ReconcilerEngine m
  fluxCommit : Option (FluxCommitSpec → m ErasedOutcome)

namespace ActionExecutor

/- A run of a sequence, from the run of its first part. -/
theorem run_bind_of_run
    {σ α β : Type}
    {x : StateM σ α}
    {s s' : σ}
    {a : α}
    (hRun : x.run s = (a, s'))
    (f : α → StateM σ β) :
    (x >>= f).run s = (f a).run s' := by
  rw [StateT.run_bind, hRun]
  rfl

variable {m : Type → Type} [Monad m]

/- The receipts of the steps, as the receipt of a compose. -/
def composeReceipt
    [PromessaSerde]
    (steps : List ErasedOutcome) : Json :=
  .obj
    [("steps",
      .arr (steps.map PromessaSerde.outcomeToValue))]

mutual

/-
  The recursion of the executor, over any way `run` to run
  the leaf at a position.
-/
def executeWith
    [PromessaSerde]
    (run : List Nat → TypedAction.Leaf → m ErasedOutcome)
    (pos : List Nat) : TypedAction → m ErasedOutcome
| .compose steps => do
    let receipts ← executeSteps run pos 0 steps
    return .applied (composeReceipt receipts)
| .fluxCommit path patch =>
    run pos ⟨.fluxCommit path patch, rfl⟩
| .reconcilerApply reconciler spec =>
    run pos ⟨.reconcilerApply reconciler spec, rfl⟩
| .magmaApply payload => run pos ⟨.magmaApply payload, rfl⟩
| .cofreRotate payload => run pos ⟨.cofreRotate payload, rfl⟩
| .crachaPatch payload => run pos ⟨.crachaPatch payload, rfl⟩
| .custom kind payload => run pos ⟨.custom kind payload, rfl⟩
| .noop => run pos ⟨.noop, rfl⟩

/- The loop over the steps, which a non-success leaves. -/
def executeSteps
    [PromessaSerde]
    (run : List Nat → TypedAction.Leaf → m ErasedOutcome)
    (pos : List Nat)
    (i : Nat) : List TypedAction → m (List ErasedOutcome)
| [] => pure []
| step :: steps => do
    let outcome ← executeWith run (pos ++ [i]) step
    if outcome.isTerminalSuccess then
      let receipts ← executeSteps run pos (i + 1) steps
      return outcome :: receipts
    else
      return [outcome]

end

/- What is answered where commits were not wired. -/
def noFluxCommit (path : String) : ErasedOutcome :=
  .failed (.substrateRefused
    ("ActionExecutor has no FluxCommitReconciler attached " ++
      "— wire one via ActionExecutor::with_flux_commit at " ++
      "boot. spec.path=" ++ path ++
      ", spec.patch present"))

/- An executor that has not been shipped yet. -/
def notShipped (name slug : String) : ErasedOutcome :=
  .failed (.internal
    (name ++ " executor not yet shipped — D1+ deliverable. " ++
      "Track at FOLLOWUP(reconciler-engine#" ++ slug ++ ")."))

/- Executes one action that is no compose. -/
def executeLeaf
    [ErrorText]
    (self : ActionExecutor m)
    (env : Env) : TypedAction.Leaf → m ErasedOutcome
| ⟨.reconcilerApply reconciler spec, _⟩ =>
    self.engine.dispatch (.reconcilerApply reconciler spec)
| ⟨.noop, _⟩ => pure .alreadyConverged
| ⟨.fluxCommit path patch, _⟩ =>
    match self.fluxCommit with
    | none => pure (noFluxCommit path)
    | some act =>
        act
          { repoUrl :=
              (env "FLUX_COMMIT_REPO_URL").getD
                "git@github.com:pleme-io/k8s.git"
            branch :=
              (env "FLUX_COMMIT_BRANCH").getD
                FluxCommitSpec.defaultBranch
            path := path
            patch := patch
            commitMessage := none }
| ⟨.cofreRotate _, _⟩ =>
    pure (notShipped "CofreRotate" "cofre-rotate")
| ⟨.magmaApply _, _⟩ =>
    pure (notShipped "MagmaApply" "magma-apply")
| ⟨.crachaPatch _, _⟩ =>
    pure (notShipped "CrachaPatch" "cracha-patch")
| ⟨.custom kind _, _⟩ =>
    pure (.failed (.invalidSpec
      ("TypedAction::Custom rejected — extract a typed " ++
        "variant for kind=" ++ kind ++
        " (VIGGY-AUTHORING §5.3 three-times rule).")))

/- Executes an action and all its steps. -/
def execute
    [PromessaSerde]
    [ErrorText]
    (self : ActionExecutor m)
    (env : Env)
    (action : TypedAction) : m ErasedOutcome :=
  executeWith (fun _ leaf => self.executeLeaf env leaf) []
    action

end ActionExecutor

end EngenhoPromessa
