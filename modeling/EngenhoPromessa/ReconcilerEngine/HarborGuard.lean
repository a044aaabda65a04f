import EngenhoPromessa.ReconcilerEngine.HarborMirror
import EngenhoPromessa.External.Reference

/-
  What the executor asks of the copy runner.

  Every request to the runner and its answer are logged, and
  the run of a tree is cut into the runs of its leaves. The
  log of the whole run is the concatenation of theirs, so
  that a fact about one leaf is a fact about the tree.

  Key definitions include:
    * `Host`
    * `Substrate`
    * `LeafRun`
    * `LeafRun.Guarded`

  Key theorems include:
    * `ActionExecutor.traced_executeWith`
    * `ActionExecutor.guarded_executeLeaf`
    * `ActionExecutor.harborMirror_guarded`
-/

------------------------------------------------------------
-- The Host And Its Log
------------------------------------------------------------

namespace EngenhoPromessa

/- A request to the runner with the answer it got. -/
abbrev CopyCall :=
  SkopeoCopyRequest × Except ReconcilerError SkopeoCopyOutcome

/- The log of the runner, and the state of all else. -/
structure Host (σ : Type) where
  copies : List CopyCall
  rest : σ

namespace Host

variable {σ α : Type}

/- What does not go through the runner leaves the log. -/
def aside (x : StateM σ α) : StateM (Host σ) α :=
  fun h =>
    let (a, rest) := x.run h.rest
    (a, { h with rest := rest })

/- Each copy is noted with the answer to it. -/
def logged
    (runner : SkopeoRunner (StateM σ)) :
    SkopeoRunner (StateM (Host σ)) :=
  fun request h =>
    let (answer, rest) := (runner request).run h.rest
    (answer,
      { copies := h.copies ++ [(request, answer)]
        rest := rest })

@[simp] theorem copies_aside
    (x : StateM σ α)
    (h : Host σ) :
    ((aside x).run h).2.copies = h.copies := rfl

end Host

/- The systems around the executor, with any behaviour. -/
structure Substrate (σ : Type) where
  runner : SkopeoRunner (StateM σ)
  now : StateM σ DateTime
  cartorioAdmit : CartorioAdmitSpec → StateM σ ErasedOutcome
  ghcrTagRevoke : GhcrTagRevokeSpec → StateM σ ErasedOutcome
  fluxCommit :
    Option (FluxCommitSpec → StateM σ ErasedOutcome)

namespace Substrate

variable {σ : Type} [Chrono]

/- The reconciler, with every copy noted. -/
def harborMirror
    (sub : Substrate σ)
    (config : EngineConfig) :
    HarborMirrorReconciler (StateM (Host σ)) :=
  config.harborMirror (Host.logged sub.runner)

/- The acts of the three reconcilers on one host. -/
def acts
    (sub : Substrate σ)
    (config : EngineConfig) :
    DefaultActs (StateM (Host σ)) where
  cartorioAdmit spec := Host.aside (sub.cartorioAdmit spec)
  ghcrTagRevoke spec := Host.aside (sub.ghcrTagRevoke spec)
  harborMirror spec := do
    let outcome ←
      (sub.harborMirror config).act (Host.aside sub.now) spec
    return outcome.mapReceipt HarborMirrorReceipt.toValue

/- The executor over the default engine. -/
def executor
    (sub : Substrate σ)
    (config : EngineConfig) :
    ActionExecutor (StateM (Host σ)) where
  engine := ReconcilerEngine.withDefaults (sub.acts config)
  fluxCommit :=
    sub.fluxCommit.map
      (fun act spec => Host.aside (act spec))

end Substrate

end EngenhoPromessa

------------------------------------------------------------
-- The Runs Of The Leaves
------------------------------------------------------------

namespace EngenhoPromessa

/- One leaf as it was run: its copies and its outcome. -/
structure LeafRun where
  position : List Nat
  leaf : TypedAction.Leaf
  copies : List CopyCall
  outcome : ErasedOutcome

namespace ActionExecutor

variable {σ : Type}

/- Run a leaf and note what it did. -/
def traced
    (run :
      List Nat → TypedAction.Leaf →
        StateM (Host σ) ErasedOutcome)
    (pos : List Nat)
    (leaf : TypedAction.Leaf) :
    StateM (Host σ × List LeafRun) ErasedOutcome :=
  fun s =>
    let (outcome, h) := (run pos leaf).run s.1
    (outcome,
      (h, s.2 ++
        [{ position := pos
           leaf := leaf
           copies := h.copies.drop s.1.copies.length
           outcome := outcome }]))

/-
  A traced run does what the run does, and what it notes of
  each leaf has a property that every leaf's run has.
-/
structure Traces
    (P : LeafRun → Prop)
    {α : Type}
    (x : StateM (Host σ) α)
    (y : StateM (Host σ × List LeafRun) α)
    (h : Host σ)
    (runs new : List LeafRun) : Prop where
  run_eq :
    y.run (h, runs) =
      ((x.run h).1, ((x.run h).2, runs ++ new))
  copies_eq :
    (x.run h).2.copies =
      h.copies ++ new.flatMap LeafRun.copies
  forall_new : ∀ r ∈ new, P r

variable {P : LeafRun → Prop} {α β : Type}

/- A pure value has no trace. -/
theorem traces_pure (a : α) (h : Host σ) (runs) :
    Traces P (pure a : StateM (Host σ) α) (pure a) h runs
      [] where
  run_eq := by
    rw [List.append_nil]
    rfl
  copies_eq := by
    rw [List.flatMap_nil, List.append_nil]
    rfl
  forall_new := by simp

/- The traces of two parts follow each other. -/
theorem Traces.bind
    {x : StateM (Host σ) α}
    {y : StateM (Host σ × List LeafRun) α}
    {f : α → StateM (Host σ) β}
    {g : α → StateM (Host σ × List LeafRun) β}
    {h : Host σ}
    {runs new more : List LeafRun}
    (hx : Traces P x y h runs new)
    (hf :
      Traces P (f (x.run h).1) (g (x.run h).1) (x.run h).2
        (runs ++ new) more) :
    Traces P (x >>= f) (y >>= g) h runs (new ++ more) where
  run_eq := by
    rw [StateT.run_bind, hx.run_eq]
    refine hf.run_eq.trans ?_
    rw [List.append_assoc]
    rfl
  copies_eq := by
    refine hf.copies_eq.trans ?_
    rw [hx.copies_eq, List.flatMap_append, List.append_assoc]
  forall_new r hr := by
    rcases List.mem_append.mp hr with hNew | hMore
    · exact hx.forall_new r hNew
    · exact hf.forall_new r hMore

/- The run of one leaf is noted with the copies it made. -/
theorem traces_leaf
    (run :
      List Nat → TypedAction.Leaf →
        StateM (Host σ) ErasedOutcome)
    {pos : List Nat}
    {leaf : TypedAction.Leaf}
    {h : Host σ}
    {made : List CopyCall}
    (hCopies :
      ((run pos leaf).run h).2.copies = h.copies ++ made)
    (hP :
      P { position := pos
          leaf := leaf
          copies := made
          outcome := ((run pos leaf).run h).1 })
    (runs : List LeafRun) :
    Traces P (run pos leaf) (traced run pos leaf) h runs
      [{ position := pos
         leaf := leaf
         copies := made
         outcome := ((run pos leaf).run h).1 }] where
  run_eq := by
    have hMade :
        ((run pos leaf).run h).2.copies.drop
          h.copies.length = made := by
      rw [hCopies, List.drop_left]
    rw [← hMade]
    rfl
  copies_eq := by
    rw [hCopies, List.flatMap_singleton]
  forall_new r hr := by
    rwa [List.mem_singleton.mp hr]

variable [PromessaSerde]

mutual

/- The recursion over the tree, one leaf after another. -/
theorem traced_executeWith
    {run :
      List Nat → TypedAction.Leaf →
        StateM (Host σ) ErasedOutcome}
    (hLeaf :
      ∀ pos leaf h runs,
        ∃ new, Traces P (run pos leaf) (traced run pos leaf)
          h runs new)
    (pos : List Nat)
    (action : TypedAction)
    (h : Host σ)
    (runs : List LeafRun) :
    ∃ new,
      Traces P (executeWith run pos action)
        (executeWith (traced run) pos action) h runs new := by
  cases action with
  | compose steps =>
      rcases traced_executeSteps hLeaf pos 0 steps h runs with
        ⟨new, hSteps⟩
      simp only [executeWith]
      exact ⟨new ++ [], hSteps.bind (traces_pure _ _ _)⟩
  | _ => exact hLeaf pos _ h runs

/- The steps are traced one after the other. -/
theorem traced_executeSteps
    {run :
      List Nat → TypedAction.Leaf →
        StateM (Host σ) ErasedOutcome}
    (hLeaf :
      ∀ pos leaf h runs,
        ∃ new, Traces P (run pos leaf) (traced run pos leaf)
          h runs new)
    (pos : List Nat)
    (i : Nat)
    (steps : List TypedAction)
    (h : Host σ)
    (runs : List LeafRun) :
    ∃ new,
      Traces P (executeSteps run pos i steps)
        (executeSteps (traced run) pos i steps) h runs
        new := by
  cases steps with
  | nil => exact ⟨[], traces_pure [] h runs⟩
  | cons step steps =>
      rcases traced_executeWith hLeaf (pos ++ [i]) step h
        runs with ⟨new, hStep⟩
      simp only [executeSteps]
      cases hOk :
        ((executeWith run (pos ++ [i]) step).run
          h).1.isTerminalSuccess with
      | false =>
          refine ⟨new ++ [], hStep.bind ?_⟩
          simp only [hOk]
          exact traces_pure _ _ _
      | true =>
          rcases traced_executeSteps hLeaf pos (i + 1) steps
            ((executeWith run (pos ++ [i]) step).run h).2
            (runs ++ new) with ⟨more, hMore⟩
          refine ⟨new ++ (more ++ []), hStep.bind ?_⟩
          simp only [hOk, if_true]
          exact hMore.bind (traces_pure _ _ _)

end

end ActionExecutor

end EngenhoPromessa

------------------------------------------------------------
-- One Leaf
------------------------------------------------------------

namespace EngenhoPromessa

namespace LeafRun

/-
  A copy of this digest was asked for once, by digest at both
  ends, and success is only reported if it is what arrived.
-/
def CopiesOnce (r : LeafRun) (digest : String) : Prop :=
  ∃ request answer, r.copies = [(request, answer)] ∧
    (∃ source, request.sourceUrl = source ++ "@" ++ digest) ∧
    (∃ target, request.targetUrl = target ++ "@" ++ digest) ∧
    ∀ receipt, r.outcome = .applied receipt →
      answer = .ok { digest := digest }

/-
  Only a mirror leaf whose spec reads with its flag on asks
  for a copy; with its flag off it is gated.
-/
def Guarded (r : LeafRun) : Prop :=
  match r.leaf with
  | ⟨.reconcilerApply .harborMirror spec, _⟩ =>
      match HarborMirrorSpec.fromValue spec with
      | some typed =>
          if typed.flagEnabled then
            r.CopiesOnce typed.sourceDigest
          else
            r.copies = [] ∧ r.outcome = .flagGated harborFlag
      | none => r.copies = []
  | _ => r.copies = []

end LeafRun

namespace Substrate

variable {σ : Type} [Chrono]

/- With the flag on, the handler asks the runner once. -/
theorem run_harborMirror_enabled
    (sub : Substrate σ)
    (config : EngineConfig)
    {spec : HarborMirrorSpec}
    (hEnabled : spec.flagEnabled = true)
    (h : Host σ) :
    ∃ answer,
      (((sub.acts config).harborMirror spec).run h).2.copies =
          h.copies ++
            [((sub.harborMirror config).request spec,
              answer)] ∧
        ∀ receipt,
          (((sub.acts config).harborMirror spec).run h).1 =
              .applied receipt →
            answer = .ok { digest := spec.sourceDigest } := by
  rcases hRun :
    (sub.runner
      ((sub.harborMirror config).request spec)).run h.rest
    with ⟨answer, rest⟩
  have hLogged :
      ((sub.harborMirror config).runner
          ((sub.harborMirror config).request spec)).run h =
        (answer,
          { copies := h.copies ++
              [((sub.harborMirror config).request spec,
                answer)]
            rest := rest }) := by
    have hEq :
        ((sub.harborMirror config).runner
            ((sub.harborMirror config).request spec)).run h =
          (Host.logged sub.runner
            ((sub.harborMirror config).request spec)).run h :=
      rfl
    rw [hEq]
    unfold Host.logged
    simp only [StateT.run] at hRun ⊢
    rw [hRun]
  refine ⟨answer, ?_⟩
  simp only [acts, HarborMirrorReconciler.act, hEnabled,
    Bool.not_true, Bool.false_eq_true, if_false, bind_assoc]
  rw [ActionExecutor.run_bind_of_run hLogged]
  cases answer with
  | error error =>
      refine ⟨rfl, ?_⟩
      intro receipt hApplied
      exact absurd hApplied (by
        simp [ReconcilerOutcome.mapReceipt])
  | ok outcome =>
      by_cases hDigest : outcome.digest = spec.sourceDigest
      · simp only [hDigest, ne_eq, not_true_eq_false,
          if_false]
        refine ⟨rfl, ?_⟩
        intro receipt _
        rw [← hDigest]
      · simp only [ne_eq, hDigest, not_false_eq_true,
          if_true]
        refine ⟨rfl, ?_⟩
        intro receipt hApplied
        exact absurd hApplied (by
          simp [ReconcilerOutcome.mapReceipt])

/- With the flag off, it asks for nothing. -/
theorem run_harborMirror_disabled
    (sub : Substrate σ)
    (config : EngineConfig)
    {spec : HarborMirrorSpec}
    (hDisabled : spec.flagEnabled = false)
    (h : Host σ) :
    ((sub.acts config).harborMirror spec).run h =
      (.flagGated harborFlag, h) := by
  simp only [acts, HarborMirrorReconciler.act, hDisabled,
    Bool.not_false, if_true, pure_bind]
  rfl

end Substrate

end EngenhoPromessa

------------------------------------------------------------
-- The Whole Tree
------------------------------------------------------------

namespace EngenhoPromessa

namespace ActionExecutor

variable {σ : Type} [Chrono] [ErrorText]

omit [Chrono] in
/- A handler that leaves the log alone does so for any spec. -/
theorem copies_actErased
    {r : Reconciler (StateM (Host σ))}
    (hAct :
      ∀ typed h, ((r.act typed).run h).2.copies = h.copies)
    (spec : Json)
    (h : Host σ) :
    ((r.actErased spec).run h).2.copies = h.copies := by
  unfold Reconciler.actErased
  split
  · exact hAct _ h
  · rfl

/- The copies of the mirror are what the guard allows. -/
theorem guarded_harborMirror
    (sub : Substrate σ)
    (config : EngineConfig)
    (pos : List Nat)
    (spec : Json)
    (h : Host σ) :
    let run := ((ReconcilerEngine.harborMirrorReconciler
      (sub.acts config)).actErased spec).run h
    ∃ made, run.2.copies = h.copies ++ made ∧
      LeafRun.Guarded
        { position := pos
          leaf := ⟨.reconcilerApply .harborMirror spec, rfl⟩
          copies := made
          outcome := run.1 } := by
  simp only [Reconciler.actErased,
    ReconcilerEngine.harborMirrorReconciler]
  cases hSpec : HarborMirrorSpec.fromValue spec with
  | none =>
      exact ⟨[], (List.append_nil _).symm,
        by simp [LeafRun.Guarded, hSpec]⟩
  | some typed =>
      change ∃ made,
        (((sub.acts config).harborMirror typed).run
          h).2.copies = h.copies ++ made ∧ _
      cases hFlag : typed.flagEnabled with
      | false =>
          rw [Substrate.run_harborMirror_disabled sub config
            hFlag h]
          exact ⟨[], by simp,
            by simp [LeafRun.Guarded, hSpec, hFlag]⟩
      | true =>
          rcases Substrate.run_harborMirror_enabled sub
            config hFlag h with ⟨answer, hCopies, hApplied⟩
          refine ⟨_, hCopies, ?_⟩
          simp only [LeafRun.Guarded, hSpec, hFlag, if_true]
          exact ⟨_, answer, rfl, ⟨_, rfl⟩, ⟨_, rfl⟩,
            hApplied⟩

/- The copies of one leaf are what the guard allows. -/
theorem guarded_executeLeaf
    (sub : Substrate σ)
    (config : EngineConfig)
    (env : Env)
    (pos : List Nat)
    (leaf : TypedAction.Leaf)
    (h : Host σ) :
    ∃ made,
      (((sub.executor config).executeLeaf env leaf).run
          h).2.copies = h.copies ++ made ∧
        LeafRun.Guarded
          { position := pos
            leaf := leaf
            copies := made
            outcome :=
              (((sub.executor config).executeLeaf env
                leaf).run h).1 } := by
  have hNone : h.copies = h.copies ++ [] :=
    (List.append_nil _).symm
  rcases leaf with ⟨action, hLeaf⟩
  cases action with
  | compose steps => simp [TypedAction.isLeaf] at hLeaf
  | noop => exact ⟨[], hNone, rfl⟩
  | magmaApply payload => exact ⟨[], hNone, rfl⟩
  | cofreRotate payload => exact ⟨[], hNone, rfl⟩
  | crachaPatch payload => exact ⟨[], hNone, rfl⟩
  | custom kind payload => exact ⟨[], hNone, rfl⟩
  | fluxCommit path patch =>
      refine ⟨[], Eq.trans ?_ hNone, rfl⟩
      unfold executeLeaf Substrate.executor
      cases sub.fluxCommit with
      | none => rfl
      | some act => rfl
  | reconcilerApply kind spec =>
      cases kind with
      | harborMirror =>
          exact guarded_harborMirror sub config pos spec h
      | cartorioAdmit =>
          have hCopies :
              (((ReconcilerEngine.cartorioAdmitReconciler
                (sub.acts config)).actErased spec).run
                  h).2.copies = h.copies :=
            copies_actErased (fun _ _ => rfl) spec h
          exact ⟨[], hCopies.trans hNone, rfl⟩
      | ghcrTagRevoke =>
          have hCopies :
              (((ReconcilerEngine.ghcrTagRevokeReconciler
                (sub.acts config)).actErased spec).run
                  h).2.copies = h.copies :=
            copies_actErased (fun _ _ => rfl) spec h
          exact ⟨[], hCopies.trans hNone, rfl⟩
      | cosignAttest => exact ⟨[], hNone, rfl⟩
      | sbomGenerate => exact ⟨[], hNone, rfl⟩
      | slsaProvenance => exact ⟨[], hNone, rfl⟩
      | renovateBaseImageBump => exact ⟨[], hNone, rfl⟩

variable [PromessaSerde]

/-
  The leaves a run executes, as they were run, found by
  running the tree again with every leaf traced.
-/
def leafRuns
    (self : ActionExecutor (StateM (Host σ)))
    (env : Env)
    (action : TypedAction)
    (h : Host σ) : List LeafRun :=
  ((executeWith
    (traced (fun _ leaf => self.executeLeaf env leaf)) []
    action).run (h, [])).2.2

/-
  Tracing changes neither the outcome nor the host; the
  copies a run makes are those of its leaves, in order; and
  each leaf is guarded.
-/
theorem harborMirror_guarded
    (sub : Substrate σ)
    (config : EngineConfig)
    (env : Env)
    (action : TypedAction)
    (h : Host σ) :
    let self := sub.executor config
    let runs := self.leafRuns env action h
    (executeWith
        (traced (fun _ leaf => self.executeLeaf env leaf)) []
        action).run (h, []) =
      (((self.execute env action).run h).1,
        (((self.execute env action).run h).2, runs)) ∧
      ((self.execute env action).run h).2.copies =
        h.copies ++ runs.flatMap LeafRun.copies ∧
      ∀ r ∈ runs, r.Guarded := by
  intro self runs
  have hLeaf :
      ∀ pos leaf g leafs,
        ∃ new, Traces LeafRun.Guarded
          (self.executeLeaf env leaf)
          (traced (fun _ leaf => self.executeLeaf env leaf)
            pos leaf) g leafs new := by
    intro pos leaf g leafs
    rcases guarded_executeLeaf sub config env pos leaf g with
      ⟨made, hCopies, hGuarded⟩
    exact ⟨_, traces_leaf
      (fun _ leaf => self.executeLeaf env leaf) hCopies
      hGuarded leafs⟩
  rcases traced_executeWith hLeaf [] action h [] with
    ⟨new, hTraces⟩
  have hRun := hTraces.run_eq
  rw [List.nil_append] at hRun
  have hRuns : runs = new :=
    congrArg (fun p => p.2.2) hRun
  rw [hRuns]
  exact ⟨hRun, hTraces.copies_eq, hTraces.forall_new⟩

end ActionExecutor

end EngenhoPromessa
