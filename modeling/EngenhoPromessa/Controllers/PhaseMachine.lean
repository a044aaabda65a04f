import EngenhoPromessa.Controllers.GateSafety
import EngenhoPromessa.Controllers.ValidationRuns

/-
  The phase machine of a validation whose reconcile steps
  act on the stored object: which phases follow each other,
  and what a status holds in which phase.

  Key definitions include:
    * `RunState.Moves`
    * `RunState.PhaseInvariant`
    * `RunState.Event.IsFresh`

  Key theorems include:
    * `RunState.moves_of_advance`
    * `RunState.phaseInvariant_of_advance`
    * `RunState.phaseMachine_of_fresh`
-/

------------------------------------------------------------
-- The Machine
------------------------------------------------------------

namespace EngenhoPromessa

namespace AkeylessImageValidationPhase

/- The phases a run goes through, one after another. -/
def isFollowedBy :
    AkeylessImageValidationPhase →
      AkeylessImageValidationPhase → Bool
| .pending, .provisioning => true
| .provisioning, .scanning => true
| .scanning, .aggregating => true
| .aggregating, .attesting => true
| .attesting, .gating => true
| .gating, phase => phase.isTerminal
| _, _ => false

end AkeylessImageValidationPhase

namespace RunState

open ImageValidation

variable [Chrono] [SerdeJson]

/- There are child scan jobs, and all have come to an end. -/
def ChildrenFinished
    (cluster : Cluster)
    (obj : AkeylessImageValidation) : Prop :=
  ∃ children, childrenIn cluster obj = some children ∧
    children ≠ [] ∧
    ∀ c ∈ children, c.phase = some .attested ∨
      c.phase = some .failed ∨ c.phase = some .reaped

/- The phases a step may lead from and to. -/
inductive Moves
    (cluster : Cluster)
    (obj : AkeylessImageValidation) :
    AkeylessImageValidationPhase →
      AkeylessImageValidationPhase → Prop where
  | stay (phase : AkeylessImageValidationPhase) :
      Moves cluster obj phase phase
  | advance
      {before after : AkeylessImageValidationPhase}
      (hFollows : before.isFollowedBy after = true)
      (hChildren :
        after = .aggregating →
          ChildrenFinished cluster obj) :
      Moves cluster obj before after
  | reprovision
      (hChildren : childrenIn cluster obj = some [])
      (hTenant : tenantIn cluster obj = none) :
      Moves cluster obj .scanning .provisioning

/- What a status holds in which phase. -/
structure PhaseInvariant
    (st : AkeylessImageValidationStatus)
    (phase : AkeylessImageValidationPhase) : Prop where
  evidence_present :
    phase = .attesting ∨ phase = .gating ∨
        phase.isTerminal = true →
      st.evidenceBundleHash.isSome = true
  gate_present :
    st.gateDecision.isSome = true ↔ phase.isTerminal = true
  terminalAt_present :
    st.terminalAt.isSome = true ↔ phase.isTerminal = true
  phase_is_verdict :
    ∀ g, st.gateDecision = some g → phase = g.verdict.phase
  receipt_terminal :
    st.outcomeReceiptRef.isSome = true →
      phase.isTerminal = true

omit [Chrono] [SerdeJson] in
/-
  A scan job is finished in `Attested`, `Failed` and
  `Reaped`.
-/
theorem isFinished_iff {sj : ScanJob} :
    isFinished sj = true ↔
      sj.phase = some .attested ∨ sj.phase = some .failed ∨
        sj.phase = some .reaped := by
  unfold isFinished
  rcases sj.phase with _ | phase
  · simp
  · cases phase <;> simp

omit [Chrono] [SerdeJson] in
/- A validation without status counts as pending. -/
theorem phase_statusOrDefault
    (obj : AkeylessImageValidation) :
    obj.statusOrDefault.phase.getD .pending =
      obj.currentPhase := by
  unfold AkeylessImageValidation.statusOrDefault
    AkeylessImageValidation.currentPhase
  cases obj.status with
  | none => rfl
  | some st => rfl

omit [Chrono] [SerdeJson] in
/- A status that is still open has nothing of the gate's. -/
theorem phaseInvariant_of_open
    {st : AkeylessImageValidationStatus}
    {phase : AkeylessImageValidationPhase}
    (hOpen : phase.isTerminal = false)
    (hEvidence :
      phase = .attesting ∨ phase = .gating →
        st.evidenceBundleHash.isSome = true)
    (hGate : st.gateDecision = none)
    (hTerminalAt : st.terminalAt = none)
    (hReceipt : st.outcomeReceiptRef = none) :
    PhaseInvariant st phase where
  evidence_present := by
    rintro (hPhase | hPhase | hPhase)
    · exact hEvidence (Or.inl hPhase)
    · exact hEvidence (Or.inr hPhase)
    · simp [hOpen] at hPhase
  gate_present := by simp [hGate, hOpen]
  terminalAt_present := by simp [hTerminalAt, hOpen]
  phase_is_verdict := by simp [hGate]
  receipt_terminal := by simp [hReceipt]

omit [Chrono] [SerdeJson] in
/-
  Before a terminal phase there is no decision and no
  receipt.
-/
theorem PhaseInvariant.open_fields
    {st : AkeylessImageValidationStatus}
    {phase : AkeylessImageValidationPhase}
    (hInv : PhaseInvariant st phase)
    (hOpen : phase.isTerminal = false) :
    st.gateDecision = none ∧ st.terminalAt = none ∧
      st.outcomeReceiptRef = none := by
  refine ⟨?_, ?_, ?_⟩
  · simpa [hOpen] using hInv.gate_present
  · simpa [hOpen] using hInv.terminalAt_present
  · simpa [hOpen] using hInv.receipt_terminal

end RunState

end EngenhoPromessa

------------------------------------------------------------
-- The Answers Of The Handlers
------------------------------------------------------------

namespace EngenhoPromessa

namespace RunState

open ImageValidation AkeylessImageValidationStatus

variable [Chrono] [SerdeJson] [Blake3] [PromessaSerde]

/- A handler answers only for a phase that is not terminal. -/
theorem isTerminal_of_advance
    {ctx : ReconcileCtx}
    {cluster : Cluster}
    {obj : AkeylessImageValidation}
    {new : AkeylessImageValidationStatus}
    (hAdvance : Advance ctx cluster obj new) :
    obj.currentPhase.isTerminal = false := by
  cases hAdvance with
  | provisionFirst hPhase => rw [hPhase]; rfl
  | provisionAgain hPhase hTenant =>
      rcases hPhase with hPhase | ⟨hPhase, _⟩
      · rw [hPhase]; rfl
      · rw [hPhase]; rfl
  | scan summaries tenant hPhase hTenant hReady hSome =>
      rcases hPhase with hPhase | ⟨hPhase, _⟩
      · rw [hPhase]; rfl
      · rw [hPhase]; rfl
  | watch children hPhase hChildren hSome => rw [hPhase]; rfl
  | aggregate children hPhase hChildren => rw [hPhase]; rfl
  | attest hPhase => rw [hPhase]; rfl
  | gate children hPhase hChildren => rw [hPhase]; rfl

omit [Chrono] [SerdeJson] [Blake3] [PromessaSerde] in
/- Scanning moves on when every child is finished. -/
theorem phase_mergeOver_scannedStatus
    (obj : AkeylessImageValidation)
    (children : List ScanJob) :
    (obj.statusOrDefault.mergeOver
        (scannedStatus obj children)).phase.getD .pending =
      if children.all isFinished then .aggregating
      else obj.currentPhase := by
  rw [← phase_statusOrDefault]
  simp only [mergeOver, scannedStatus]
  split
  · rfl
  · rw [Option.or_self]

/-
  A status of the current object, merged with the answer a
  handler gives for it.
-/
theorem moves_of_advance
    {ctx : ReconcileCtx}
    {cluster : Cluster}
    {obj : AkeylessImageValidation}
    {new : AkeylessImageValidationStatus}
    (hAdvance : Advance ctx cluster obj new) :
    Moves cluster obj obj.currentPhase
      ((obj.statusOrDefault.mergeOver new).phase.getD
        .pending) := by
  cases hAdvance with
  | provisionFirst hPhase =>
      rw [hPhase]
      change Moves cluster obj .pending .provisioning
      exact .advance rfl (by simp)
  | provisionAgain hPhase hTenant =>
      rcases hPhase with hPhase | ⟨hPhase, hChildren⟩
      · rw [hPhase]
        exact .stay _
      · rw [hPhase]
        exact .reprovision hChildren hTenant
  | scan summaries tenant hPhase hTenant hReady hSome =>
      rcases hPhase with hPhase | ⟨hPhase, _⟩
      · rw [hPhase]
        change Moves cluster obj .provisioning .scanning
        exact .advance rfl (by simp)
      · rw [hPhase]
        exact .stay _
  | watch children hPhase hChildren hSome =>
      rw [phase_mergeOver_scannedStatus]
      split
      · rename_i hAll
        rw [hPhase]
        refine .advance rfl (fun _ =>
          ⟨children, hChildren, hSome, ?_⟩)
        intro c hc
        exact isFinished_iff.mp
          (List.all_eq_true.mp hAll c hc)
      · exact .stay _
  | aggregate children hPhase hChildren =>
      rw [hPhase]
      change Moves cluster obj .aggregating .attesting
      exact .advance rfl (by simp)
  | attest hPhase =>
      rw [hPhase]
      change Moves cluster obj .attesting .gating
      exact .advance rfl (by simp)
  | gate children hPhase hChildren =>
      rw [hPhase]
      apply Moves.advance
      · exact GateVerdict.isTerminal_phase _
      · intro hAggregating
        have hTerminal := GateVerdict.isTerminal_phase
          (gateDecisionOf ctx
            (securitySpecFor ctx.env obj.spec.promessaRef)
            obj children).verdict
        change GateVerdict.phase _ = _ at hAggregating
        rw [hAggregating] at hTerminal
        simp [AkeylessImageValidationPhase.isTerminal]
          at hTerminal

omit [Chrono] [SerdeJson] [Blake3] [PromessaSerde] in
/- An answer that leaves the gate's fields as they are. -/
theorem phaseInvariant_mergeOver_of_open
    {old new : AkeylessImageValidationStatus}
    {phase : AkeylessImageValidationPhase}
    (hInv : PhaseInvariant old phase)
    (hOpen : phase.isTerminal = false)
    (hSame :
      new.gateDecision = old.gateDecision ∧
        new.terminalAt = old.terminalAt ∧
        new.outcomeReceiptRef = old.outcomeReceiptRef)
    {after : AkeylessImageValidationPhase}
    (hAfter : after.isTerminal = false)
    (hEvidence :
      after = .attesting ∨ after = .gating →
        (old.mergeOver new).evidenceBundleHash.isSome =
          true) :
    PhaseInvariant (old.mergeOver new) after := by
  rcases hInv.open_fields hOpen with
    ⟨hGate, hTerminalAt, hReceipt⟩
  rcases hSame with
    ⟨hNewGate, hNewTerminalAt, hNewReceipt⟩
  apply phaseInvariant_of_open hAfter hEvidence
  · simp [mergeOver, hNewGate, hGate]
  · simp [mergeOver, hNewTerminalAt, hTerminalAt]
  · simp [mergeOver, hNewReceipt, hReceipt]

/- The handlers keep what a status holds in which phase. -/
theorem phaseInvariant_of_advance
    {ctx : ReconcileCtx}
    {cluster : Cluster}
    {obj : AkeylessImageValidation}
    {new : AkeylessImageValidationStatus}
    (hAdvance : Advance ctx cluster obj new)
    (hInv :
      PhaseInvariant obj.statusOrDefault obj.currentPhase) :
    PhaseInvariant (obj.statusOrDefault.mergeOver new)
      ((obj.statusOrDefault.mergeOver new).phase.getD
        .pending) := by
  have hOpen := isTerminal_of_advance hAdvance
  have hEvidence := hInv.evidence_present
  cases hAdvance with
  | provisionFirst hPhase =>
      refine phaseInvariant_mergeOver_of_open hInv hOpen
        ?_ rfl ?_
      · exact ⟨rfl, rfl, rfl⟩
      · simp [mergeOver, provisionedStatus]
  | provisionAgain hPhase hTenant =>
      refine phaseInvariant_mergeOver_of_open hInv hOpen
        ?_ rfl ?_
      · exact ⟨rfl, rfl, rfl⟩
      · simp [mergeOver, provisionedStatus]
  | scan summaries tenant hPhase hTenant hReady hSome =>
      refine phaseInvariant_mergeOver_of_open hInv hOpen
        ?_ rfl ?_
      · exact ⟨rfl, rfl, rfl⟩
      · simp [mergeOver, scanningStatus]
  | watch children hPhase hChildren hSome =>
      rw [phase_mergeOver_scannedStatus, hPhase]
      refine phaseInvariant_mergeOver_of_open hInv hOpen
        ?_ ?_ ?_
      · exact ⟨rfl, rfl, rfl⟩
      · split
        · rfl
        · rfl
      · split
        · simp
        · simp
  | aggregate children hPhase hChildren =>
      refine phaseInvariant_mergeOver_of_open hInv hOpen
        ?_ rfl ?_
      · exact ⟨rfl, rfl, rfl⟩
      · simp [mergeOver, aggregatedStatus]
  | attest hPhase =>
      have hHash := hEvidence (Or.inl hPhase)
      refine phaseInvariant_mergeOver_of_open hInv hOpen
        ?_ rfl ?_
      · exact ⟨rfl, rfl, rfl⟩
      · simp [mergeOver, attestedStatus, hHash]
  | gate children hPhase hChildren =>
      have hHash := hEvidence (Or.inr (Or.inl hPhase))
      exact
        { evidence_present := fun _ => by
            simp [mergeOver, gatedStatus, hHash]
          gate_present := by
            simp [mergeOver, gatedStatus]
          terminalAt_present := by
            simp [mergeOver, gatedStatus]
          phase_is_verdict := by
            intro g hGate
            rw [← Option.some.inj hGate]
            rfl
          receipt_terminal := fun _ =>
            GateVerdict.isTerminal_phase _ }

/- The start of a validation is set once. -/
theorem startedAt_of_advance
    {ctx : ReconcileCtx}
    {cluster : Cluster}
    {obj : AkeylessImageValidation}
    {new : AkeylessImageValidationStatus}
    (hAdvance : Advance ctx cluster obj new)
    {t : DateTime}
    (hStarted : obj.statusOrDefault.startedAt = some t) :
    (obj.statusOrDefault.mergeOver new).startedAt =
      some t := by
  cases hAdvance with
  | provisionFirst hPhase =>
      simp [mergeOver, provisionedStatus, hStarted]
  | provisionAgain hPhase hTenant =>
      simp [mergeOver, provisionedStatus, hStarted]
  | scan summaries tenant hPhase hTenant hReady hSome =>
      simp [mergeOver, scanningStatus, hStarted]
  | watch children hPhase hChildren hSome =>
      simp [mergeOver, scannedStatus, hStarted]
  | aggregate children hPhase hChildren =>
      simp [mergeOver, aggregatedStatus, hStarted]
  | attest hPhase =>
      simp [mergeOver, attestedStatus, hStarted]
  | gate children hPhase hChildren =>
      simp [mergeOver, gatedStatus, hStarted]

end RunState

end EngenhoPromessa

------------------------------------------------------------
-- Runs On The Stored Object
------------------------------------------------------------

namespace EngenhoPromessa

namespace RunState

variable [Chrono] [SerdeJson] [Blake3] [PromessaSerde]

/-
  A reconcile step acts on the stored object. The outcome
  chain and the dispatcher may see any version.
-/
def Event.IsFresh : Event → Prop
| .reconcile _ age _ _ => age = 0
| .outcomeChain _ _ _ _ => True
| .dispatch _ => True

/- The phase a step leads to, with the reason it may. -/
def StepMoves (s : RunState) (e : Event) : Prop :=
  (s.step e).phase = s.phase ∨
    ∃ ctx surroundings faults obj,
      e = .reconcile ctx 0 surroundings faults ∧
      s.copy 0 = some obj ∧
      Moves (s.clusterIn surroundings) obj s.phase
        (s.step e).phase

/-
  What holds of a run on stored objects: every version that
  is terminal has left a terminal phase behind.
-/
structure FreshInvariant (s : RunState) : Prop where
  is_readable : s.IsReadable
  phase_invariant : PhaseInvariant s.status s.phase
  terminal_versions :
    ∀ stored ∈ s.versions, ∀ old,
      AkeylessImageValidationStatus.ofStored stored =
          some old →
        ((old.getD .default).phase.getD
          .pending).isTerminal = true →
        s.phase.isTerminal = true

omit [SerdeJson] [Blake3] [PromessaSerde] in
/- A created validation satisfies the invariant. -/
theorem freshInvariant_created
    (metadata : ObjectMeta)
    (spec : AkeylessImageValidationSpec) :
    FreshInvariant (created metadata spec) where
  is_readable := isReadable_created metadata spec
  phase_invariant :=
    phaseInvariant_of_open rfl (by simp) rfl rfl rfl
  terminal_versions := by
    intro stored hMem old hOld hTerminal
    obtain rfl : stored = none := by
      simpa [created, versions] using hMem
    obtain rfl : none = old := Option.some.inj hOld
    exact absurd hTerminal (by decide)

/- What one step on the stored object does. -/
structure FreshStep (s : RunState) (e : Event) : Prop where
  phase_moves : StepMoves s e
  phase_invariant :
    PhaseInvariant (s.step e).status (s.step e).phase
  terminal_kept :
    s.phase.isTerminal = true → (s.step e).phase = s.phase
  startedAt_kept :
    ∀ t, s.status.startedAt = some t →
      (s.step e).status.startedAt = some t

/- A step that leaves the status alone is a good one. -/
theorem freshStep_of_same
    {s : RunState}
    {e : Event}
    (hInv : FreshInvariant s)
    (hSame : (s.step e).status = s.status) :
    FreshStep s e := by
  have hPhase : (s.step e).phase = s.phase := by
    rw [phase, hSame, phase]
  exact
    { phase_moves := Or.inl hPhase
      phase_invariant := by
        rw [hSame, hPhase]
        exact hInv.phase_invariant
      terminal_kept := fun _ => hPhase
      startedAt_kept := by
        intro t hStarted
        rw [hSame]
        exact hStarted }

/- The outcome chain only sees a terminal copy after the end. -/
theorem freshStep_of_receipt
    {s : RunState}
    {e : Event}
    {age : Nat}
    {obj : AkeylessImageValidation}
    {receipt : OutcomeReceiptRef}
    (hInv : FreshInvariant s)
    (hCopy : s.copy age = some obj)
    (hTerminal : obj.currentPhase.isTerminal = true)
    (hStatus :
      (s.step e).status =
        { s.status with
          outcomeReceiptRef := some receipt }) :
    FreshStep s e := by
  rcases copy_eq_some hCopy with
    ⟨_, _, stored, hMem, hStored⟩
  have hEnded : s.phase.isTerminal = true := by
    apply hInv.terminal_versions stored hMem _ hStored
    rwa [← phase_statusOrDefault] at hTerminal
  have hPhase : (s.step e).phase = s.phase := by
    rw [phase, hStatus, phase]
  have hBefore := hInv.phase_invariant
  exact
    { phase_moves := Or.inl hPhase
      phase_invariant := by
        rw [hStatus, hPhase]
        exact
          { evidence_present := hBefore.evidence_present
            gate_present := hBefore.gate_present
            terminalAt_present := hBefore.terminalAt_present
            phase_is_verdict := hBefore.phase_is_verdict
            receipt_terminal := fun _ => hEnded }
      terminal_kept := fun _ => hPhase
      startedAt_kept := by
        intro t hStarted
        rw [hStatus]
        exact hStarted }

/- A handler's answer for the object as it is stored. -/
theorem freshStep_of_advance
    {s : RunState}
    {ctx : ReconcileCtx}
    {surroundings : Cluster}
    {faults : List ApiFault}
    {obj : AkeylessImageValidation}
    {new : AkeylessImageValidationStatus}
    (hInv : FreshInvariant s)
    (hCopy : s.copy 0 = some obj)
    (hAdvance :
      ImageValidation.Advance ctx
        (s.clusterIn surroundings) obj new)
    (hStatus :
      (s.step (.reconcile ctx 0 surroundings
          faults)).status =
        s.status.mergeOver new) :
    FreshStep s (.reconcile ctx 0 surroundings faults) := by
  rcases copy_zero_eq_some hCopy with ⟨hObj, hObjPhase⟩
  have hOpen := isTerminal_of_advance hAdvance
  have hMoves := moves_of_advance hAdvance
  have hAfter := phaseInvariant_of_advance hAdvance
    (by rw [hObj, hObjPhase]
        exact hInv.phase_invariant)
  rw [hObj, ← hStatus] at hMoves hAfter
  rw [hObjPhase] at hMoves hOpen
  exact
    { phase_moves := Or.inr
        ⟨ctx, surroundings, faults, obj, rfl, hCopy, hMoves⟩
      phase_invariant := hAfter
      terminal_kept := by
        intro hTerminal
        rw [hTerminal] at hOpen
        exact absurd hOpen (by decide)
      startedAt_kept := by
        intro t hStarted
        rw [hStatus, ← hObj]
        apply startedAt_of_advance hAdvance
        rwa [hObj] }

/- Every fresh step is a good one. -/
theorem freshStep_of_fresh
    {s : RunState}
    {e : Event}
    (hInv : FreshInvariant s)
    (hFresh : e.IsFresh) :
    FreshStep s e := by
  rcases step_status hInv.is_readable e with
    hSame | ⟨st, hWrites, hStatus⟩
  · exact freshStep_of_same hInv hSame
  · cases hWrites with
    | @advance ctx age surroundings faults obj new hCopy
        hAdvance =>
        obtain rfl : age = 0 := hFresh
        exact freshStep_of_advance hInv hCopy hAdvance
          hStatus
    | receipt hCopy hTerminal receipt =>
        exact freshStep_of_receipt hInv hCopy hTerminal
          hStatus

/- A fresh step keeps the invariant. -/
theorem freshInvariant_step
    {s : RunState}
    {e : Event}
    (hInv : FreshInvariant s)
    (hFresh : e.IsFresh) :
    FreshInvariant (s.step e) := by
  have hStep := freshStep_of_fresh hInv hFresh
  refine
    { is_readable := isReadable_step hInv.is_readable e
      phase_invariant := hStep.phase_invariant
      terminal_versions := ?_ }
  intro stored hMem old hOld hTerminal
  rcases (step_frame s e).2 stored hMem with hNew | hBefore
  · rw [hNew] at hOld
    rw [phase, status, hOld]
    exact hTerminal
  · have hEnded :=
      hInv.terminal_versions stored hBefore old hOld
        hTerminal
    rw [hStep.terminal_kept hEnded]
    exact hEnded

/-
  The phase machine: wherever a run on stored objects has
  come to, its status holds what the phase demands, and the
  next step moves as the machine does.
-/
theorem phaseMachine_of_fresh
    (metadata : ObjectMeta)
    (spec : AkeylessImageValidationSpec)
    (events : List Event)
    (e : Event)
    (hFresh : ∀ e' ∈ events ++ [e], e'.IsFresh) :
    let s := Run.run step (created metadata spec) events
    s.IsReadable ∧ PhaseInvariant s.status s.phase ∧
      FreshStep s e := by
  intro s
  have hInv : FreshInvariant s :=
    Run.invariant_run FreshInvariant
      (fun _ _ hInv hFresh => freshInvariant_step hInv hFresh)
      (freshInvariant_created metadata spec)
      (Run.allowed_of_forall
        (fun e' hMem => hFresh e'
          (List.mem_append_left _ hMem)) _)
  exact ⟨hInv.is_readable, hInv.phase_invariant,
    freshStep_of_fresh hInv (hFresh e (by simp))⟩

end RunState

namespace RunState

/- Two steps of a run, the receipt writer on an old copy. -/
theorem phaseMachine_of_fresh_created :
    let s := Run.run step
      (created (Reference.metadata "auth-00")
        Reference.validationSpec)
      [.reconcile Reference.ctx 0 Reference.emptyCluster [],
        .outcomeChain Reference.ctx 1
          Reference.emptyCluster []]
    s.IsReadable ∧ PhaseInvariant s.status s.phase ∧
      FreshStep s
        (.reconcile Reference.ctx 0
          Reference.emptyCluster [.refused]) :=
  phaseMachine_of_fresh (Reference.metadata "auth-00")
    Reference.validationSpec _ _
    (by simp [Event.IsFresh])

end RunState

end EngenhoPromessa
