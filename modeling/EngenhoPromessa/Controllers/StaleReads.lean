import EngenhoPromessa.Controllers.PhaseMachine

/-
  Runs whose steps act on copies of any age: what no writer
  erases, and when a gate decision is final.

  Key definitions include:
    * `RunState.Retains`
    * `RunState.CatchesUp`
    * `RunState.DecisionIsFinal`

  Key theorems include:
    * `RunState.retains_of_run`
    * `RunState.decisionIsFinal_of_catchesUp`
-/

------------------------------------------------------------
-- Recorded Fields
------------------------------------------------------------

namespace EngenhoPromessa

namespace RunState

open AkeylessImageValidationStatus

/- The fields present before are present after. -/
structure Retains
    (old new : AkeylessImageValidationStatus) : Prop where
  outcomeReceiptRef_kept :
    old.outcomeReceiptRef.isSome = true →
      new.outcomeReceiptRef.isSome = true
  gateDecision_kept :
    old.gateDecision.isSome = true →
      new.gateDecision.isSome = true
  evidenceBundleHash_kept :
    old.evidenceBundleHash.isSome = true →
      new.evidenceBundleHash.isSome = true
  ephemeralTenantRef_kept :
    old.ephemeralTenantRef.isSome = true →
      new.ephemeralTenantRef.isSome = true
  startedAt_kept :
    old.startedAt.isSome = true →
      new.startedAt.isSome = true
  terminalAt_kept :
    old.terminalAt.isSome = true →
      new.terminalAt.isSome = true

theorem retains_refl
    (st : AkeylessImageValidationStatus) :
    Retains st st :=
  ⟨id, id, id, id, id, id⟩

/- Retaining composes. -/
theorem retains_trans
    {a b c : AkeylessImageValidationStatus}
    (hab : Retains a b)
    (hbc : Retains b c) :
    Retains a c where
  outcomeReceiptRef_kept h :=
    hbc.outcomeReceiptRef_kept (hab.outcomeReceiptRef_kept h)
  gateDecision_kept h :=
    hbc.gateDecision_kept (hab.gateDecision_kept h)
  evidenceBundleHash_kept h :=
    hbc.evidenceBundleHash_kept
      (hab.evidenceBundleHash_kept h)
  ephemeralTenantRef_kept h :=
    hbc.ephemeralTenantRef_kept
      (hab.ephemeralTenantRef_kept h)
  startedAt_kept h :=
    hbc.startedAt_kept (hab.startedAt_kept h)
  terminalAt_kept h :=
    hbc.terminalAt_kept (hab.terminalAt_kept h)

/- A merge of a whole status erases nothing. -/
theorem retains_mergeOver
    (old new : AkeylessImageValidationStatus) :
    Retains old (old.mergeOver new) := by
  have hOr :
      ∀ {α : Type} (a b : Option α),
        b.isSome = true → (a.or b).isSome = true := by
    intro α a b hb
    cases a with
    | none => exact hb
    | some a => rfl
  exact
    { outcomeReceiptRef_kept := hOr _ _
      gateDecision_kept := by
        intro hOld
        unfold mergeOver
        cases new.gateDecision with
        | none => exact hOld
        | some g => rfl
      evidenceBundleHash_kept := hOr _ _
      ephemeralTenantRef_kept := hOr _ _
      startedAt_kept := hOr _ _
      terminalAt_kept := hOr _ _ }

variable [Chrono] [SerdeJson] [Blake3] [PromessaSerde]

/- What a step writes retains what was stored. -/
theorem retains_of_writes
    {s : RunState}
    {e : Event}
    {st : AkeylessImageValidationStatus}
    (hWrites : Writes s e st) :
    Retains s.status st := by
  cases hWrites with
  | advance hCopy hAdvance => exact retains_mergeOver _ _
  | receipt hCopy hTerminal receipt =>
      exact ⟨fun _ => rfl, id, id, id, id, id⟩

/- A step retains the status, whatever the age of its copy. -/
theorem retains_step
    {s : RunState}
    (hReadable : s.IsReadable)
    (e : Event) :
    Retains s.status (s.step e).status := by
  rcases step_status hReadable e with
    hSame | ⟨st, hWrites, hStatus⟩
  · rw [hSame]
    exact retains_refl _
  · rw [hStatus]
    exact retains_of_writes hWrites

/-
  Whatever the writers interleave, and however old the
  copies are that they act on, a recorded field stays.
-/
theorem retains_of_run
    (metadata : ObjectMeta)
    (spec : AkeylessImageValidationSpec)
    (events later : List Event) :
    Retains
      (Run.run step (created metadata spec) events).status
      (Run.run step (created metadata spec)
        (events ++ later)).status := by
  rw [Run.run_append]
  exact Run.relates_run IsReadable
    (fun s t => Retains s.status t.status)
    (fun s => retains_refl s.status)
    (fun hst htu => retains_trans hst htu)
    (fun _ e hReadable _ => isReadable_step hReadable e)
    (fun _ e hReadable _ => retains_step hReadable e)
    (isReadable_run metadata spec events)
    (Run.allowed_true step _ later)

end RunState

end EngenhoPromessa

------------------------------------------------------------
-- Final Decisions
------------------------------------------------------------

namespace EngenhoPromessa

namespace RunState

open AkeylessImageValidationStatus

variable [Chrono] [SerdeJson] [Blake3] [PromessaSerde]

/-
  Once a validation has ended, a reconcile step acts on a
  copy that shows an end.
-/
def CatchesUp (s : RunState) : Event → Prop
| .reconcile _ age _ _ =>
    s.phase.isTerminal = true →
      (s.copy age).all (fun obj =>
        obj.currentPhase.isTerminal) = true
| .outcomeChain _ _ _ _ => True
| .dispatch _ => True

instance (s : RunState) (e : Event) :
    Decidable (s.CatchesUp e) :=
  match e with
  | .reconcile _ _ _ _ => inferInstanceAs (Decidable (_ → _))
  | .outcomeChain _ _ _ _ => .isTrue trivial
  | .dispatch _ => .isTrue trivial

/-
  What was decided in one state still stands in a later one,
  and at most one action was executed.
-/
structure DecisionIsFinal (s t : RunState) : Prop where
  phase_kept :
    s.phase.isTerminal = true → t.phase = s.phase
  gate_kept :
    s.phase.isTerminal = true →
      t.status.gateDecision = s.status.gateDecision
  executed_once : t.executed.length ≤ 1

/- A handler takes the decision of its copy, or ends. -/
theorem gate_of_advance
    {ctx : ReconcileCtx}
    {cluster : Cluster}
    {obj : AkeylessImageValidation}
    {new : AkeylessImageValidationStatus}
    (hAdvance :
      ImageValidation.Advance ctx cluster obj new) :
    new.gateDecision = obj.statusOrDefault.gateDecision ∨
      ∃ verdict : GateVerdict,
        new.phase = some verdict.phase := by
  cases hAdvance with
  | provisionFirst hPhase => exact Or.inl rfl
  | provisionAgain hPhase hTenant => exact Or.inl rfl
  | scan summaries tenant hPhase hTenant hReady hSome =>
      exact Or.inl rfl
  | watch children hPhase hChildren hSome => exact Or.inl rfl
  | aggregate children hPhase hChildren => exact Or.inl rfl
  | attest hPhase => exact Or.inl rfl
  | gate children hPhase hChildren => exact Or.inr ⟨_, rfl⟩

/- A step that catches up keeps the end of a validation. -/
theorem step_of_terminal
    {s : RunState}
    {e : Event}
    (hReadable : s.IsReadable)
    (hCatchesUp : s.CatchesUp e)
    (hTerminal : s.phase.isTerminal = true) :
    (s.step e).phase = s.phase ∧
      (s.step e).status.gateDecision =
        s.status.gateDecision := by
  rcases step_status hReadable e with
    hSame | ⟨st, hWrites, hStatus⟩
  · rw [phase, hSame, phase]
    exact ⟨rfl, rfl⟩
  · cases hWrites with
    | advance hCopy hAdvance =>
        have hEnded := hCatchesUp hTerminal
        simp [hCopy, isTerminal_of_advance hAdvance]
          at hEnded
    | receipt hCopy hCopyTerminal receipt =>
        rw [phase, hStatus, phase]
        exact ⟨rfl, rfl⟩

/-
  What holds of a run that catches up: a version with a
  decision has the final one, and only its key has been
  dispatched.
-/
structure FinalInvariant (s : RunState) : Prop where
  is_readable : s.IsReadable
  gate_versions :
    ∀ stored ∈ s.versions, ∀ old,
      ofStored stored = some old →
      ∀ g, (old.getD .default).gateDecision = some g →
        s.status.gateDecision = some g ∧
          s.phase.isTerminal = true
  executed_dispatched :
    s.executed.length ≤ s.dedupe.seen.length
  dispatched_final :
    s.dedupe.seen = [] ∨
      ∃ uid g, s.metadata.uid = some uid ∧
        s.status.gateDecision = some g ∧
        s.dedupe.seen = [ActionDispatcher.keyOf uid g]

omit [SerdeJson] [Blake3] [PromessaSerde] in
/- A created validation has no decision yet. -/
theorem finalInvariant_created
    (metadata : ObjectMeta)
    (spec : AkeylessImageValidationSpec) :
    FinalInvariant (created metadata spec) where
  is_readable := isReadable_created metadata spec
  gate_versions := by
    intro stored hMem old hOld g hGate
    obtain rfl : stored = none := by
      simpa [created, versions] using hMem
    obtain rfl : none = old := Option.some.inj hOld
    simp [AkeylessImageValidationStatus.default] at hGate
  executed_dispatched := Nat.zero_le _
  dispatched_final := Or.inl rfl

omit [Chrono] [SerdeJson] [Blake3] [PromessaSerde] in
/- The decision of a validation, with or without a status. -/
theorem gate_statusOrDefault
    (obj : AkeylessImageValidation) :
    obj.statusOrDefault.gateDecision =
      obj.status.bind gateDecision := by
  unfold AkeylessImageValidation.statusOrDefault
  cases obj.status with
  | none => rfl
  | some st => rfl

omit [SerdeJson] [Blake3] [PromessaSerde] in
/- A decision in a copy is the stored one. -/
theorem gate_copy
    {s : RunState}
    (hInv : FinalInvariant s)
    {age : Nat}
    {obj : AkeylessImageValidation}
    (hCopy : s.copy age = some obj)
    {g : GateDecision}
    (hGate : obj.statusOrDefault.gateDecision = some g) :
    s.status.gateDecision = some g ∧
      s.phase.isTerminal = true := by
  rcases copy_eq_some hCopy with
    ⟨_, _, stored, hMem, hStored⟩
  exact hInv.gate_versions stored hMem _ hStored g hGate

omit [SerdeJson] [Blake3] [PromessaSerde] in
/- A stored decision ends the validation. -/
theorem gate_status
    {s : RunState}
    (hInv : FinalInvariant s)
    {g : GateDecision}
    (hGate : s.status.gateDecision = some g) :
    s.phase.isTerminal = true := by
  rcases ofStored_stored hInv.is_readable with
    ⟨old, hOld, hStatus, _⟩
  rw [← hStatus] at hGate
  exact (hInv.gate_versions s.stored (List.Mem.head _) old
    hOld g hGate).2

/- An open validation gets a decision only with its end. -/
theorem gate_step_of_open
    {s : RunState}
    {e : Event}
    (hInv : FinalInvariant s)
    (hOpen : s.phase.isTerminal = false)
    {g : GateDecision}
    (hGate : (s.step e).status.gateDecision = some g) :
    (s.step e).phase.isTerminal = true := by
  have hNone : s.status.gateDecision = none := by
    cases hSome : s.status.gateDecision with
    | none => rfl
    | some g' =>
        have hTerminal := gate_status hInv hSome
        rw [hOpen] at hTerminal
        exact absurd hTerminal (by decide)
  rcases step_status hInv.is_readable e with
    hSame | ⟨st, hWrites, hStatus⟩
  · rw [hSame, hNone] at hGate
    simp at hGate
  · cases hWrites with
    | @advance ctx age surroundings faults obj new hCopy
        hAdvance =>
        rcases gate_of_advance hAdvance with
          hCopied | ⟨verdict, hVerdict⟩
        · have hNewNone : new.gateDecision = none := by
            rw [hCopied]
            cases hSome : obj.statusOrDefault.gateDecision with
            | none => rfl
            | some g' =>
                have hEnded := (gate_copy hInv hCopy hSome).2
                rw [hOpen] at hEnded
                exact absurd hEnded (by decide)
          rw [hStatus] at hGate
          simp [mergeOver, hNewNone, hNone] at hGate
        · rw [phase, hStatus]
          simp [mergeOver, hVerdict]
    | receipt hCopy hTerminal receipt =>
        rw [hStatus] at hGate
        simp [hNone] at hGate

/-
  Across a step, a decision in any version is the stored
  one.
-/
theorem gate_versions_step
    {s : RunState}
    {e : Event}
    (hInv : FinalInvariant s)
    (hCatchesUp : s.CatchesUp e)
    {stored : Option Json}
    (hMem : stored ∈ (s.step e).versions)
    {old : Option AkeylessImageValidationStatus}
    (hOld : ofStored stored = some old)
    {g : GateDecision}
    (hGate : (old.getD .default).gateDecision = some g) :
    (s.step e).status.gateDecision = some g ∧
      (s.step e).phase.isTerminal = true := by
  have hKeeps := step_of_terminal hInv.is_readable hCatchesUp
  rcases (step_frame s e).2 stored hMem with hNew | hBefore
  · rw [hNew] at hOld
    have hStatus : (s.step e).status = old.getD .default := by
      rw [status, hOld, Option.join_some]
    rw [← hStatus] at hGate
    refine ⟨hGate, ?_⟩
    cases hTerminal : s.phase.isTerminal with
    | true => rw [(hKeeps hTerminal).1, hTerminal]
    | false => exact gate_step_of_open hInv hTerminal hGate
  · rcases hInv.gate_versions stored hBefore old hOld g hGate
      with ⟨hFinal, hTerminal⟩
    rcases hKeeps hTerminal with ⟨hPhase, hSame⟩
    rw [hPhase, hSame]
    exact ⟨hFinal, hTerminal⟩

/- The dispatcher takes on one key at most. -/
theorem dispatched_step
    {s : RunState}
    {e : Event}
    (hInv : FinalInvariant s)
    (hCatchesUp : s.CatchesUp e) :
    (s.step e).executed.length ≤
        (s.step e).dedupe.seen.length ∧
      ((s.step e).dedupe.seen = [] ∨
        ∃ uid g, (s.step e).metadata.uid = some uid ∧
          (s.step e).status.gateDecision = some g ∧
          (s.step e).dedupe.seen =
            [ActionDispatcher.keyOf uid g]) := by
  have hMetadata := (step_frame s e).1
  rcases step_dedupe s e with
    ⟨hDedupe, hExecuted⟩ |
      ⟨age, obj, uid, g, rfl, hCopy, hUid, hGate, hNew,
        hDedupe, hExecuted⟩
  · rw [hDedupe, hExecuted]
    refine ⟨hInv.executed_dispatched, ?_⟩
    rcases hInv.dispatched_final with
      hNil | ⟨uid, g, hUid, hFinal, hSeen⟩
    · exact Or.inl hNil
    · have hSame := (step_of_terminal hInv.is_readable
        hCatchesUp (gate_status hInv hFinal)).2
      exact Or.inr ⟨uid, g, by rwa [hMetadata],
        by rwa [hSame], hSeen⟩
  · have hCopyGate :
        obj.statusOrDefault.gateDecision = some g := by
      rwa [gate_statusOrDefault]
    rcases gate_copy hInv hCopy hCopyGate with
      ⟨hFinal, hTerminal⟩
    have hSame := (step_of_terminal hInv.is_readable
      hCatchesUp hTerminal).2
    rw [(copy_eq_some hCopy).1] at hUid
    rcases hInv.dispatched_final with
      hNil | ⟨uid', g', hUid', hFinal', hSeen⟩
    · have hBefore := hInv.executed_dispatched
      rw [hDedupe, hExecuted, hNil]
      refine ⟨?_, Or.inr ⟨uid, g, by rwa [hMetadata],
        by rwa [hSame], rfl⟩⟩
      have hOne :
          (PromessaSerde.actionFromValue
            g.action).toList.length ≤ 1 := by
        cases PromessaSerde.actionFromValue g.action with
        | none => simp
        | some action => simp
      simp only [hNil, List.length_nil] at hBefore
      simp only [List.length_append, List.length_nil,
        List.length_singleton]
      omega
    · obtain rfl : uid' = uid :=
        Option.some.inj (hUid'.symm.trans hUid)
      obtain rfl : g' = g :=
        Option.some.inj (hFinal'.symm.trans hFinal)
      exact absurd (by simp [hSeen]) hNew

/- A step that catches up keeps the invariant. -/
theorem finalInvariant_step
    {s : RunState}
    {e : Event}
    (hInv : FinalInvariant s)
    (hCatchesUp : s.CatchesUp e) :
    FinalInvariant (s.step e) where
  is_readable := isReadable_step hInv.is_readable e
  gate_versions _ hMem _ hOld _ hGate :=
    gate_versions_step hInv hCatchesUp hMem hOld hGate
  executed_dispatched := (dispatched_step hInv hCatchesUp).1
  dispatched_final := (dispatched_step hInv hCatchesUp).2

omit [SerdeJson] [Blake3] [PromessaSerde] in
/- One decision is executed once. -/
theorem length_executed_le_one
    {s : RunState}
    (hInv : FinalInvariant s) :
    s.executed.length ≤ 1 := by
  have hExecuted := hInv.executed_dispatched
  rcases hInv.dispatched_final with
    hNil | ⟨uid, g, _, _, hSeen⟩
  · simp only [hNil, List.length_nil] at hExecuted
    omega
  · simpa [hSeen] using hExecuted

/- A run that catches up keeps the invariant. -/
theorem finalInvariant_run
    {metadata : ObjectMeta}
    {spec : AkeylessImageValidationSpec}
    {events : List Event}
    (hCatchesUp :
      Run.Allowed step CatchesUp (created metadata spec)
        events) :
    FinalInvariant
      (Run.run step (created metadata spec) events) :=
  Run.invariant_run FinalInvariant
    (fun _ _ hInv hOk => finalInvariant_step hInv hOk)
    (finalInvariant_created metadata spec) hCatchesUp

/-
  In a run whose reconcile steps notice the end, whatever
  else they miss, a decision stands once it is written.
-/
theorem decisionIsFinal_of_catchesUp
    (metadata : ObjectMeta)
    (spec : AkeylessImageValidationSpec)
    (events later : List Event)
    (hCatchesUp :
      Run.Allowed step CatchesUp (created metadata spec)
        (events ++ later)) :
    DecisionIsFinal
      (Run.run step (created metadata spec) events)
      (Run.run step (created metadata spec)
        (events ++ later)) := by
  rcases Run.allowed_append_iff.mp hCatchesUp with
    ⟨hFirst, hLater⟩
  have hEnd := finalInvariant_run hCatchesUp
  rw [Run.run_append] at hEnd ⊢
  have hKept :=
    Run.relates_run FinalInvariant
      (fun s t => s.phase.isTerminal = true →
        t.phase = s.phase ∧
          t.status.gateDecision = s.status.gateDecision)
      (fun s _ => ⟨rfl, rfl⟩)
      (fun hst htu hTerminal => by
        rcases hst hTerminal with ⟨hPhase, hGate⟩
        rcases htu (by rw [hPhase]; exact hTerminal) with
          ⟨hPhase', hGate'⟩
        exact ⟨hPhase'.trans hPhase, hGate'.trans hGate⟩)
      (fun _ _ hInv hOk => finalInvariant_step hInv hOk)
      (fun _ _ hInv hOk =>
        step_of_terminal hInv.is_readable hOk)
      (finalInvariant_run hFirst) hLater
  exact
    { phase_kept := fun hTerminal => (hKept hTerminal).1
      gate_kept := fun hTerminal => (hKept hTerminal).2
      executed_once := length_executed_le_one hEnd }

end RunState

namespace Reference

/- A context at a given time. -/
def ctxAt (seconds : Nat) : ReconcileCtx :=
  { ctx with clock := fun _ => second seconds }

/- A tenant that is ready. -/
def readyTenant : AkeylessEphemeralTenant where
  metadata := metadata "eph-auth-00"
  spec :=
    (ImageValidation.buildTenant (validationAt .pending)).spec
  status := some { AkeylessEphemeralTenantStatus.default with
    phase := some .ready }

/- The same as it is stored. -/
def storedTenant : Stored AkeylessEphemeralTenantSpec where
  metadata := readyTenant.metadata
  spec := readyTenant.spec
  status := readyTenant.status.map
    AkeylessEphemeralTenantStatus.toValue

/- A cluster with that tenant. -/
def withTenant : Cluster :=
  { emptyCluster with tenants := [storedTenant] }

/- One child, whose scan found nothing. -/
def withScan : Cluster :=
  { emptyCluster with
    scanJobs :=
      [{ metadata := (childOf .trivy .attested []).metadata
         spec := (childOf .trivy .attested []).spec
         status := some (.obj
          [("phase", .str "Attested")]) }] }

/- From creation to the gate, each step on the stored object. -/
def untilGating : List RunState.Event :=
  [.reconcile ctx 0 emptyCluster [],
    .reconcile ctx 0 withTenant [],
    .reconcile ctx 0 withScan [],
    .reconcile ctx 0 withScan [],
    .reconcile ctx 0 emptyCluster []]

/- The gate decides after a second, and its action is run. -/
def untilDispatch : List RunState.Event :=
  untilGating ++
    [.reconcile (ctxAt 1) 0 withScan [], .dispatch 0]

end Reference

namespace RunState

/-
  The gate has decided, but a reconcile step still sees the
  version before: it decides again, and the dispatcher runs
  the action of the validation a second time.
-/
theorem not_decisionIsFinal_staleGating :
    ¬ DecisionIsFinal
      (Run.run step
        (created (Reference.metadata "auth-00")
          Reference.validationSpec)
        Reference.untilDispatch)
      (Run.run step
        (created (Reference.metadata "auth-00")
          Reference.validationSpec)
        (Reference.untilDispatch ++
          [.reconcile (Reference.ctxAt 2) 1
              Reference.withScan [],
            .dispatch 0])) := by
  intro hFinal
  exact absurd hFinal.executed_once (by decide +kernel)

/- The same run, but the late step sees the decision. -/
theorem decisionIsFinal_of_catchesUp_reference :
    DecisionIsFinal
      (Run.run step
        (created (Reference.metadata "auth-00")
          Reference.validationSpec)
        Reference.untilDispatch)
      (Run.run step
        (created (Reference.metadata "auth-00")
          Reference.validationSpec)
        (Reference.untilDispatch ++
          [.reconcile (Reference.ctxAt 2) 0
              Reference.withScan [],
            .dispatch 0])) :=
  decisionIsFinal_of_catchesUp
    (Reference.metadata "auth-00") Reference.validationSpec
    _ _ (by decide +kernel)

end RunState

end EngenhoPromessa
