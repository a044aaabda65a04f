import EngenhoPromessa.Controllers.PhaseMachine
import EngenhoPromessa.Controllers.Published
import EngenhoPromessa.Controllers.StaleReads

/-
  The published phase events are the phase history.

  A reconcile step publishes after its patch went through,
  by comparing the object it was called for with the status
  it sent. Over steps on the stored object the events lead
  from the first phase to the stored one, and the decision
  is announced when it is stored.

  Key definitions include:
    * `ImageValidation.announcements`
    * `PhaseLog.step`
    * `PhaseLog.Leads`
    * `PhaseLog.IsHistory`

  Key theorems include:
    * `ImageValidation.exec_reconcile_announces`
    * `PhaseLog.isHistory_run`
-/

------------------------------------------------------------
-- What A Step Announces
------------------------------------------------------------

namespace EngenhoPromessa

namespace ApiCall

/- Whether a call patches a status. -/
def isPatchStatus : ApiCall → Bool
| .patchStatus _ _ _ => true
| _ => false

end ApiCall

namespace World

/- No status patch so far took effect without an answer. -/
def PatchesAnswered (w : World) : Prop :=
  ∀ call ∈ w.calls, call.1.isPatchStatus = true →
    call.2 ≠ .lost

instance (w : World) : Decidable w.PatchesAnswered :=
  inferInstanceAs (Decidable (∀ call ∈ w.calls, _))

end World

namespace ImageValidation

open Fallible

/- The phase event a turn is to publish. -/
def phaseAnnouncement
    (ctx : ReconcileCtx)
    (obj : AkeylessImageValidation)
    (newStatus : AkeylessImageValidationStatus) :
    Option PhaseChanged :=
  newStatus.phase.bind (fun newPhase =>
    if newPhase = obj.currentPhase then
      none
    else
      some
        { validationRunUid := obj.metadata.uidOrDefault
          service := obj.spec.service
          imageDigest := obj.spec.imageDigest
          imageRepo := obj.spec.imageRepo
          observedAt := ctx.clock .publishedAt
          «from» := some obj.currentPhase
          «to» := newPhase })

/- The decision event a turn is to publish. -/
def decisionAnnouncement
    (ctx : ReconcileCtx)
    (obj : AkeylessImageValidation)
    (newStatus : AkeylessImageValidationStatus) :
    Option DecisionEmitted :=
  newStatus.gateDecision.bind (fun gd =>
    if (obj.status.bind
        AkeylessImageValidationStatus.gateDecision).isSome
    then
      none
    else
      some
        { validationRunUid := obj.metadata.uidOrDefault
          service := obj.spec.service
          imageDigest := obj.spec.imageDigest
          imageRepo := obj.spec.imageRepo
          observedAt := ctx.clock .publishedAt
          severity := gd.severity
          verdict := gd.verdict
          reason := gd.reason })

/- What is published once a status was patched in. -/
def announcements
    (ctx : ReconcileCtx)
    (obj : AkeylessImageValidation)
    (newStatus : AkeylessImageValidationStatus) :
    List ValidationEvent :=
  ((phaseAnnouncement ctx obj newStatus).map
      ValidationEvent.phaseChanged).toList ++
    ((decisionAnnouncement ctx obj newStatus).map
      ValidationEvent.decisionEmitted).toList

/- Announcing a phase publishes just that event. -/
theorem exec_emitPhaseChanged
    (ctx : ReconcileCtx)
    (obj : AkeylessImageValidation)
    (newStatus : AkeylessImageValidationStatus)
    (w : World) :
    (emitPhaseChanged ctx obj obj.currentPhase
        newStatus).exec w =
      (.ok (), { w with
        published := w.published ++
          ((phaseAnnouncement ctx obj newStatus).map
            ValidationEvent.phaseChanged).toList }) := by
  unfold emitPhaseChanged phaseAnnouncement
  cases newStatus.phase with
  | none => simp
  | some newPhase =>
      by_cases hSame : newPhase = obj.currentPhase
      · simp [hSame]
      · simp [hSame, Kube.publish]

/- Announcing a decision publishes just that event. -/
theorem exec_emitDecision
    (ctx : ReconcileCtx)
    (obj : AkeylessImageValidation)
    (newStatus : AkeylessImageValidationStatus)
    (w : World) :
    (emitDecision ctx obj newStatus).exec w =
      (.ok (), { w with
        published := w.published ++
          ((decisionAnnouncement ctx obj newStatus).map
            ValidationEvent.decisionEmitted).toList }) := by
  unfold emitDecision decisionAnnouncement
  cases newStatus.gateDecision with
  | none => simp
  | some gd =>
      cases hHad : (obj.status.bind
          AkeylessImageValidationStatus.gateDecision).isSome
      with
      | true => simp
      | false => simp [Kube.publish]

/-
  After a patch, the phase event precedes the decision
  event.
-/
theorem exec_emitPostPatch
    (ctx : ReconcileCtx)
    (obj : AkeylessImageValidation)
    (newStatus : AkeylessImageValidationStatus)
    (w : World) :
    (emitPostPatch ctx obj obj.currentPhase
        newStatus).exec w =
      (.ok (), { w with
        published := w.published ++
          announcements ctx obj newStatus }) := by
  rw [emitPostPatch,
    exec_bind_ok (exec_emitPhaseChanged ctx obj newStatus w),
    exec_emitDecision]
  simp [announcements]

end ImageValidation

end EngenhoPromessa

------------------------------------------------------------
-- Announced And Stored
------------------------------------------------------------

namespace EngenhoPromessa

namespace Api

/-
  A status patch fails without effect, takes effect without
  an answer, or takes effect and is answered.
-/
theorem exec_patchValidationStatus_cases
    («namespace» name : String)
    (patch : Json)
    (w : World) :
    let x := (patchValidationStatus
      (.namespaced «namespace») name patch).exec w
    (∃ e, x.1 = .error e ∧
        x.2.cluster.validations = w.cluster.validations) ∨
      (∃ e, x.1 = .error e ∧ ¬ x.2.PatchesAnswered) ∨
      x.1 = .ok () ∧
        Stored.patchNamed «namespace» name patch
            w.cluster.validations =
          some x.2.cluster.validations := by
  intro x
  have hCalls :
      x.2.calls =
        w.calls ++
          [(.patchStatus "AkeylessImageValidation" name
            patch, w.fault 0)] :=
    Kube.calls_exec_call _ _ w
  cases hFault : w.fault 0 with
  | none =>
      cases hPatch : Stored.patchNamed «namespace» name patch
          w.cluster.validations with
      | none =>
          left
          refine ⟨.notFound, ?_, ?_⟩
          · simp [x, patchValidationStatus, Kube.call,
              hFault, hPatch]
          · simp [x, patchValidationStatus, Kube.call,
              hFault, hPatch]
      | some patched =>
          right
          right
          constructor
          · simp [x, patchValidationStatus, Kube.call,
              hFault, hPatch]
          · simp [x, patchValidationStatus, Kube.call,
              hFault, hPatch]
  | refused =>
      left
      refine ⟨.transport, ?_, ?_⟩
      · simp [x, patchValidationStatus, Kube.call, hFault]
      · simp [x, patchValidationStatus, Kube.call, hFault]
  | lost =>
      right
      left
      refine ⟨.transport, ?_, ?_⟩
      · simp [x, patchValidationStatus, Kube.call, hFault]
      · intro hAnswered
        have hMem :
            (ApiCall.patchStatus "AkeylessImageValidation"
              name patch, ApiFault.lost) ∈ x.2.calls := by
          rw [hCalls, hFault]
          simp
        exact hAnswered _ hMem rfl rfl

end Api

namespace ImageValidation

open Fallible

variable [Chrono] [SerdeJson] [Blake3] [PromessaSerde]

omit [SerdeJson] [Blake3] [PromessaSerde] in
/- The end of a step that has a status to store. -/
theorem exec_patch_announces
    (ctx : ReconcileCtx)
    (obj : AkeylessImageValidation)
    (new : AkeylessImageValidationStatus)
    (w : World) :
    let x := (do
      Api.patchValidationStatus (patchScope ctx obj)
        obj.metadata.nameAny
        (.obj [("status", new.toValue)])
      emitPostPatch ctx obj obj.currentPhase new
      return 15 : Kube Nat).exec w
    x.2.PatchesAnswered →
      validations x.2 = validations w ∧
          x.2.published = w.published ∨
        Stored.patchNamed
            (ctx.namespace.getD
              obj.metadata.namespaceOrDefault)
            obj.metadata.nameAny
            (.obj [("status", new.toValue)])
            (validations w) =
          some (validations x.2) ∧
        x.2.published =
          w.published ++ announcements ctx obj new := by
  intro x hAnswered
  rcases hPatch : (Api.patchValidationStatus
    (patchScope ctx obj) obj.metadata.nameAny
    (.obj [("status", new.toValue)])).exec w
    with ⟨result, w₁⟩
  have hSilent : w₁.published = w.published :=
    keeps_of_exec_eq (Kube.keeps_published_call _ _) hPatch
  have hCases := Api.exec_patchValidationStatus_cases
    (ctx.namespace.getD obj.metadata.namespaceOrDefault)
    obj.metadata.nameAny (.obj [("status", new.toValue)]) w
  rw [← patchScope, hPatch] at hCases
  have hRun : x = _ := exec_bind _ _ w
  rw [hPatch] at hRun
  rcases hCases with
    ⟨e, hError, hSame⟩ | ⟨e, hError, hLost⟩ | ⟨hOk, hPatched⟩
  · cases hError
    rw [hRun]
    exact Or.inl ⟨hSame, hSilent⟩
  · cases hError
    rw [hRun] at hAnswered
    exact absurd hAnswered hLost
  · cases hOk
    have hRest := hRun.trans (exec_bind_ok
      (exec_emitPostPatch ctx obj new w₁) _)
    rw [hRest]
    exact Or.inr ⟨hPatched, by rw [← hSilent]; rfl⟩

/-
  Unless a patch took effect unnoticed, a step that changes
  nothing publishes nothing, and one that patches a status
  in announces it.
-/
theorem exec_reconcile_announces
    (ctx : ReconcileCtx)
    (obj : AkeylessImageValidation)
    (w : World)
    (hAnswered :
      ((reconcile ctx obj).exec w).2.PatchesAnswered) :
    let w' := ((reconcile ctx obj).exec w).2
    validations w' = validations w ∧
        w'.published = w.published ∨
      ∃ new, Advance ctx w.cluster obj new ∧
        Stored.patchNamed
            (ctx.namespace.getD
              obj.metadata.namespaceOrDefault)
            obj.metadata.nameAny
            (.obj [("status", new.toValue)])
            (validations w) =
          some (validations w') ∧
        w'.published =
          w.published ++ announcements ctx obj new := by
  unfold reconcile at hAnswered ⊢
  cases hTerminal : obj.currentPhase.isTerminal with
  | true =>
      left
      simp [hTerminal]
  | false =>
      simp only [hTerminal, Bool.false_eq_true, if_false]
        at hAnswered ⊢
      rcases hNext : (nextStatus ctx obj).exec w with
        ⟨answer, w₁⟩
      have hKeep : validations w₁ = validations w :=
        keeps_of_exec_eq
          (keeps_validations_nextStatus ctx obj) hNext
      have hQuiet : w₁.published = w.published :=
        keeps_of_exec_eq
          (keeps_published_nextStatus ctx obj) hNext
      rw [exec_bind, hNext] at hAnswered ⊢
      cases answer with
      | error e => exact Or.inl ⟨hKeep, hQuiet⟩
      | ok next =>
          cases next with
          | none => exact Or.inl ⟨hKeep, hQuiet⟩
          | some new =>
              rw [← hKeep, ← hQuiet]
              rcases exec_patch_announces ctx obj new w₁
                hAnswered with hSame | hPatched
              · exact Or.inl hSame
              · exact Or.inr ⟨new,
                  advance_of_exec_nextStatus hNext, hPatched⟩

end ImageValidation

end EngenhoPromessa

------------------------------------------------------------
-- Runs With Their Events
------------------------------------------------------------

namespace EngenhoPromessa

/- A validation and what was published so far. -/
structure PhaseLog where
  run : RunState
  published : List ValidationEvent

namespace PhaseLog

/- A validation just created, with nothing published. -/
def created
    (metadata : ObjectMeta)
    (spec : AkeylessImageValidationSpec) : PhaseLog where
  run := .created metadata spec
  published := []

/-
  A reconcile step on the stored object: its context, what
  is around the object, and what becomes of the calls.
-/
structure Turn where
  ctx : ReconcileCtx
  surroundings : Cluster
  faults : List ApiFault

/- A turn of the log is a turn of the run, on a fresh copy. -/
def Turn.event (t : Turn) : RunState.Event :=
  .reconcile t.ctx 0 t.surroundings t.faults

variable [Chrono] [SerdeJson] [Blake3] [PromessaSerde]

/- The world a turn ends in. -/
def after (s : PhaseLog) (t : Turn) : Option World :=
  (s.run.copy 0).map (fun obj =>
    ((ImageValidation.reconcile t.ctx obj).exec
      (s.run.world t.surroundings t.faults)).2)

/- A turn, with what it published noted. -/
def step (s : PhaseLog) (t : Turn) : PhaseLog where
  run := s.run.step t.event
  published :=
    s.published ++
      ((s.after t).map World.published).getD []

/- The turn does not end between a patch and its answer. -/
def IsAnswered (s : PhaseLog) (t : Turn) : Prop :=
  ∀ w ∈ s.after t, w.PatchesAnswered

instance (s : PhaseLog) (t : Turn) :
    Decidable (s.IsAnswered t) :=
  inferInstanceAs (Decidable (∀ w ∈ s.after t, _))

omit [Chrono] [SerdeJson] [Blake3] [PromessaSerde]

/- The phase events of one validation. -/
def phasesOf
    (uid : String)
    (events : List ValidationEvent) : List PhaseChanged :=
  events.filterMap (fun
    | .phaseChanged e =>
        if e.validationRunUid = uid then some e else none
    | _ => none)

/- The decision events of one validation. -/
def decisionsOf
    (uid : String)
    (events : List ValidationEvent) :
    List DecisionEmitted :=
  events.filterMap (fun
    | .decisionEmitted e =>
        if e.validationRunUid = uid then some e else none
    | _ => none)

/-
  The changes are real and lead, one from where the one
  before it led to, from one phase to another.
-/
def Leads :
    AkeylessImageValidationPhase → List PhaseChanged →
      AkeylessImageValidationPhase → Prop
| first, [], last => first = last
| first, e :: es, last =>
    e.from = some first ∧ first ≠ e.to ∧ Leads e.to es last

/- Two chains of phase events meet. -/
theorem leads_append
    {first next last : AkeylessImageValidationPhase}
    {es fs : List PhaseChanged}
    (hFirst : Leads first es next)
    (hNext : Leads next fs last) :
    Leads first (es ++ fs) last := by
  induction es generalizing first with
  | nil =>
      obtain rfl : first = next := hFirst
      exact hNext
  | cons e es ih =>
      rcases hFirst with ⟨hFrom, hMoves, hRest⟩
      exact ⟨hFrom, hMoves, ih hRest⟩

end PhaseLog

namespace ImageValidation

open PhaseLog

/- A phase event carries its object's uid. -/
theorem uid_of_phaseAnnouncement
    {ctx : ReconcileCtx}
    {obj : AkeylessImageValidation}
    {new : AkeylessImageValidationStatus}
    {e : PhaseChanged}
    (hSome : phaseAnnouncement ctx obj new = some e) :
    e.validationRunUid = obj.metadata.uidOrDefault := by
  rcases Option.bind_eq_some_iff.mp hSome with
    ⟨newPhase, _, hIf⟩
  split at hIf
  · simp at hIf
  · rw [← Option.some.inj hIf]

/- A decision event carries its object's uid. -/
theorem uid_of_decisionAnnouncement
    {ctx : ReconcileCtx}
    {obj : AkeylessImageValidation}
    {new : AkeylessImageValidationStatus}
    {d : DecisionEmitted}
    (hSome : decisionAnnouncement ctx obj new = some d) :
    d.validationRunUid = obj.metadata.uidOrDefault := by
  rcases Option.bind_eq_some_iff.mp hSome with
    ⟨gd, _, hIf⟩
  split at hIf
  · simp at hIf
  · rw [← Option.some.inj hIf]

/- A turn announces its own object only. -/
theorem phasesOf_announcements
    (ctx : ReconcileCtx)
    (obj : AkeylessImageValidation)
    (new : AkeylessImageValidationStatus) :
    phasesOf obj.metadata.uidOrDefault
        (announcements ctx obj new) =
      (phaseAnnouncement ctx obj new).toList := by
  unfold phasesOf announcements
  cases hPhase : phaseAnnouncement ctx obj new with
  | none =>
      cases decisionAnnouncement ctx obj new with
      | none => rfl
      | some d => rfl
  | some e =>
      have hUid := uid_of_phaseAnnouncement hPhase
      cases decisionAnnouncement ctx obj new with
      | none => simp [hUid]
      | some d => simp [hUid]

/- Of the announcements, those of a decision. -/
theorem decisionsOf_announcements
    (ctx : ReconcileCtx)
    (obj : AkeylessImageValidation)
    (new : AkeylessImageValidationStatus) :
    decisionsOf obj.metadata.uidOrDefault
        (announcements ctx obj new) =
      (decisionAnnouncement ctx obj new).toList := by
  unfold decisionsOf announcements
  cases hDecision : decisionAnnouncement ctx obj new with
  | none =>
      cases phaseAnnouncement ctx obj new with
      | none => rfl
      | some e => rfl
  | some d =>
      have hUid := uid_of_decisionAnnouncement hDecision
      cases phaseAnnouncement ctx obj new with
      | none => simp [hUid]
      | some e => simp [hUid]

/- The announced change leads to the merged phase. -/
theorem leads_phaseAnnouncement
    (ctx : ReconcileCtx)
    (obj : AkeylessImageValidation)
    (new : AkeylessImageValidationStatus) :
    Leads obj.currentPhase
      (phaseAnnouncement ctx obj new).toList
      ((obj.statusOrDefault.mergeOver new).phase.getD
        .pending) := by
  have hBefore := RunState.phase_statusOrDefault obj
  unfold phaseAnnouncement
  cases hPhase : new.phase with
  | none =>
      simp [AkeylessImageValidationStatus.mergeOver, hPhase,
        hBefore, Leads]
  | some newPhase =>
      by_cases hSame : newPhase = obj.currentPhase
      · simp [AkeylessImageValidationStatus.mergeOver,
          hPhase, hSame, Leads]
      · have hMoves : obj.currentPhase ≠ newPhase :=
          fun hEq => hSame hEq.symm
        simp [AkeylessImageValidationStatus.mergeOver,
          hPhase, hSame, hMoves, Leads]

/- Where there was no decision, the merged one is announced. -/
theorem decisionAnnouncement_of_none
    (ctx : ReconcileCtx)
    (obj : AkeylessImageValidation)
    (new : AkeylessImageValidationStatus)
    (hNone : obj.statusOrDefault.gateDecision = none) :
    (decisionAnnouncement ctx obj new).toList.map
        (fun d => (d.severity, d.verdict)) =
      (obj.statusOrDefault.mergeOver
          new).gateDecision.toList.map
        (fun g => (g.severity, g.verdict)) := by
  have hHad :
      obj.status.bind
          AkeylessImageValidationStatus.gateDecision =
        none := by
    rw [← hNone]
    exact (RunState.gate_statusOrDefault obj).symm
  unfold decisionAnnouncement
  rw [hHad]
  cases hGate : new.gateDecision with
  | none =>
      simp [AkeylessImageValidationStatus.mergeOver, hGate,
        hNone]
  | some gd =>
      simp [AkeylessImageValidationStatus.mergeOver, hGate,
        hNone, GateDecision.mergeOver]

end ImageValidation

end EngenhoPromessa

------------------------------------------------------------
-- The History
------------------------------------------------------------

namespace EngenhoPromessa

namespace PhaseLog

open ImageValidation AkeylessImageValidationStatus

variable [Chrono] [SerdeJson] [Blake3] [PromessaSerde]

/-
  What a log on stored objects keeps: the events so far lead
  to the stored phase, and the stored decision, if there is
  one, is the one announced.
-/
structure LogInvariant
    (uid : String)
    (s : PhaseLog) : Prop where
  same_uid : s.run.metadata.uidOrDefault = uid
  fresh_invariant : s.run.FreshInvariant
  phases_lead :
    Leads .pending (phasesOf uid s.published) s.run.phase
  decision_announced :
    (decisionsOf uid s.published).map
        (fun d => (d.severity, d.verdict)) =
      s.run.status.gateDecision.toList.map
        (fun g => (g.severity, g.verdict))

omit [SerdeJson] [Blake3] [PromessaSerde] in
/- A created validation has an empty history. -/
theorem logInvariant_created
    (metadata : ObjectMeta)
    (spec : AkeylessImageValidationSpec) :
    LogInvariant metadata.uidOrDefault
      (created metadata spec) where
  same_uid := rfl
  fresh_invariant :=
    RunState.freshInvariant_created metadata spec
  phases_lead := rfl
  decision_announced := rfl

/-
  A turn leaves status and log as they are, or it merges a
  handler's answer for the stored object over the status and
  announces it.
-/
theorem step_announces
    {s : PhaseLog}
    {t : Turn}
    (hReadable : s.run.IsReadable)
    (hAnswered : s.IsAnswered t) :
    (s.step t).run.status = s.run.status ∧
        (s.step t).published = s.published ∨
      ∃ obj new,
        s.run.copy 0 = some obj ∧
        Advance t.ctx (s.run.clusterIn t.surroundings) obj
          new ∧
        (s.step t).run.status =
          obj.statusOrDefault.mergeOver new ∧
        (s.step t).published =
          s.published ++ announcements t.ctx obj new := by
  cases hCopy : s.run.copy 0 with
  | none =>
      left
      simp [step, Turn.event, RunState.step, after, hCopy]
  | some obj =>
      have hWorld :
          ((reconcile t.ctx obj).exec
            (s.run.world t.surroundings
              t.faults)).2.PatchesAnswered :=
        hAnswered _ (by simp [after, hCopy])
      have hRun :
          (s.step t).run =
            s.run.write ((reconcile t.ctx obj).exec
              (s.run.world t.surroundings t.faults)).2 := by
        simp [step, Turn.event, RunState.step, hCopy]
      have hPublished :
          (s.step t).published =
            s.published ++ ((reconcile t.ctx obj).exec
              (s.run.world t.surroundings
                t.faults)).2.published := by
        simp [step, after, hCopy]
      rcases exec_reconcile_announces t.ctx obj _ hWorld with
        ⟨hSame, hQuiet⟩ |
          ⟨new, hAdvance, hPatch, hAnnounced⟩
      · left
        constructor
        · rw [RunState.status, hRun,
            RunState.stored_write_of_eq s.run hSame,
            RunState.status]
        · rw [hPublished, hQuiet]
          exact List.append_nil _
      · right
        rcases RunState.ofStored_stored hReadable with
          ⟨old, hOld, hStatus, _⟩
        have hObj := (RunState.copy_zero_eq_some hCopy).1
        have hStored :=
          RunState.stored_write_of_patchNamed s.run hPatch
        rw [← hRun] at hStored
        have hMerged :
            ofStored (s.step t).run.stored =
              some (some (old.getD .default |>.mergeOver
                new)) := by
          rw [hStored]
          exact ofStored_merge
            (RunState.writable_of_advance hAdvance
              (RunState.writable_copy hReadable hCopy)) hOld
        refine ⟨obj, new, rfl, hAdvance, ?_, ?_⟩
        · rw [RunState.status, hMerged, hObj, ← hStatus]
          rfl
        · rw [hPublished, hAnnounced]
          rfl

/- An answered turn goes on with the history. -/
theorem logInvariant_step
    {uid : String}
    {s : PhaseLog}
    {t : Turn}
    (hInv : LogInvariant uid s)
    (hAnswered : s.IsAnswered t) :
    LogInvariant uid (s.step t) := by
  have hIsFresh : t.event.IsFresh := rfl
  have hFresh : (s.step t).run.FreshInvariant :=
    RunState.freshInvariant_step hInv.fresh_invariant
      hIsFresh
  have hUid : (s.step t).run.metadata.uidOrDefault = uid := by
    rw [← hInv.same_uid]
    exact congrArg ObjectMeta.uidOrDefault
      (RunState.step_frame s.run t.event).1
  rcases step_announces hInv.fresh_invariant.is_readable
    hAnswered with
    ⟨hStatus, hPublished⟩ |
      ⟨obj, new, hCopy, hAdvance, hStatus, hPublished⟩
  · exact
      { same_uid := hUid
        fresh_invariant := hFresh
        phases_lead := by
          rw [hPublished, RunState.phase, hStatus]
          exact hInv.phases_lead
        decision_announced := by
          rw [hPublished, hStatus]
          exact hInv.decision_announced }
  · rcases RunState.copy_zero_eq_some hCopy with
      ⟨hObj, hPhase⟩
    have hOwn : obj.metadata.uidOrDefault = uid := by
      rw [(RunState.copy_eq_some hCopy).1, hInv.same_uid]
    have hNone : s.run.status.gateDecision = none := by
      have hOpen := RunState.isTerminal_of_advance hAdvance
      rw [hPhase] at hOpen
      exact (hInv.fresh_invariant.phase_invariant.open_fields
        hOpen).1
    have hPhases := phasesOf_announcements t.ctx obj new
    have hDecisions :=
      decisionsOf_announcements t.ctx obj new
    rw [hOwn] at hPhases hDecisions
    exact
      { same_uid := hUid
        fresh_invariant := hFresh
        phases_lead := by
          rw [hPublished, phasesOf, List.filterMap_append]
          apply leads_append hInv.phases_lead
          rw [← phasesOf, hPhases, ← hPhase, RunState.phase,
            hStatus]
          exact leads_phaseAnnouncement t.ctx obj new
        decision_announced := by
          have hBefore := hInv.decision_announced
          rw [hNone] at hBefore
          rw [hPublished, decisionsOf,
            List.filterMap_append, List.map_append,
            ← decisionsOf, hBefore, ← decisionsOf,
            hDecisions, hStatus]
          exact decisionAnnouncement_of_none t.ctx obj new
            (by rw [hObj, hNone]) }

/- A terminal phase is kept by the turns after it. -/
theorem phase_run_of_terminal
    {s : PhaseLog}
    (hInv : s.run.FreshInvariant)
    (hTerminal : s.run.phase.isTerminal = true)
    (turns : List Turn) :
    (Run.run step s turns).run.phase.isTerminal = true := by
  have hKept :=
    Run.invariant_run
      (fun l : PhaseLog =>
        l.run.FreshInvariant ∧
          l.run.phase.isTerminal = true)
      (fun l t hLog _ => by
        have hIsFresh : t.event.IsFresh := rfl
        have hStep :=
          RunState.freshStep_of_fresh hLog.1 hIsFresh
        refine ⟨RunState.freshInvariant_step hLog.1
          hIsFresh, ?_⟩
        have hPhase := hStep.terminal_kept hLog.2
        exact (congrArg _ hPhase).trans hLog.2)
      ⟨hInv, hTerminal⟩ (Run.allowed_true step s turns)
  exact hKept.2

/- Some turn of the run leaves a terminal phase behind. -/
def ReachesTerminal
    (s : PhaseLog)
    (turns : List Turn) : Prop :=
  ∃ earlier later, turns = earlier ++ later ∧
    (Run.run step s earlier).run.phase.isTerminal = true

/-
  A run reaches a terminal phase exactly when it ends in
  one.
-/
theorem reachesTerminal_iff
    {uid : String}
    {s : PhaseLog}
    (hInv : LogInvariant uid s)
    {turns : List Turn}
    (hAnswered : Run.Allowed step IsAnswered s turns) :
    ReachesTerminal s turns ↔
      (Run.run step s turns).run.phase.isTerminal = true := by
  constructor
  · rintro ⟨earlier, later, rfl, hTerminal⟩
    have hBefore : LogInvariant uid (Run.run step s earlier) :=
      Run.invariant_run (LogInvariant uid)
        (fun _ _ hLog hOk => logInvariant_step hLog hOk)
        hInv (Run.allowed_append_iff.mp hAnswered).1
    rw [Run.run_append]
    exact phase_run_of_terminal hBefore.fresh_invariant
      hTerminal later
  · intro hTerminal
    exact ⟨turns, [], by simp, hTerminal⟩

/-
  What the events published for a validation tell of its
  history, given whether it came to an end.
-/
structure IsHistory
    (uid : String)
    (s : PhaseLog)
    (ended : Prop) : Prop where
  phases_lead :
    Leads .pending (phasesOf uid s.published) s.run.phase
  decision_once :
    ended →
      ∃ d g, decisionsOf uid s.published = [d] ∧
        s.run.status.gateDecision = some g ∧
        d.severity = g.severity ∧ d.verdict = g.verdict
  decision_none :
    ¬ ended → decisionsOf uid s.published = []

/- The published phase events are the phase history. -/
theorem isHistory_run
    (metadata : ObjectMeta)
    (spec : AkeylessImageValidationSpec)
    (turns : List Turn)
    (hAnswered :
      Run.Allowed step IsAnswered (created metadata spec)
        turns) :
    IsHistory metadata.uidOrDefault
      (Run.run step (created metadata spec) turns)
      (ReachesTerminal (created metadata spec) turns) := by
  have hStart := logInvariant_created metadata spec
  have hEnd :
      LogInvariant metadata.uidOrDefault
        (Run.run step (created metadata spec) turns) :=
    Run.invariant_run (LogInvariant metadata.uidOrDefault)
      (fun _ _ hLog hOk => logInvariant_step hLog hOk)
      hStart hAnswered
  have hReaches := reachesTerminal_iff hStart hAnswered
  have hPresent :=
    hEnd.fresh_invariant.phase_invariant.gate_present
  have hAnnounced := hEnd.decision_announced
  rw [← hPresent] at hReaches
  refine
    { phases_lead := hEnd.phases_lead
      decision_once := ?_
      decision_none := ?_ }
  · intro hReached
    rcases Option.isSome_iff_exists.mp
      (hReaches.mp hReached) with ⟨g, hGate⟩
    rw [hGate] at hAnnounced
    rcases List.map_eq_singleton_iff.mp hAnnounced with
      ⟨d, hOne, hPair⟩
    rcases Prod.mk.inj hPair with ⟨hSeverity, hVerdict⟩
    exact ⟨d, g, hOne, hGate, hSeverity, hVerdict⟩
  · intro hOpen
    have hNone :
        (Run.run step (created metadata
          spec) turns).run.status.gateDecision = none := by
      simpa using mt hReaches.mpr hOpen
    rw [hNone] at hAnnounced
    exact List.map_eq_nil_iff.mp hAnnounced

end PhaseLog

namespace Reference

/- A first try that is refused, and the way to the gate. -/
def untilDecided : List PhaseLog.Turn :=
  [⟨ctx, emptyCluster, [.none, .refused]⟩,
    ⟨ctx, emptyCluster, []⟩, ⟨ctx, withTenant, []⟩,
    ⟨ctx, withScan, []⟩, ⟨ctx, withScan, []⟩,
    ⟨ctx, emptyCluster, []⟩, ⟨ctx, withScan, []⟩]

end Reference

namespace PhaseLog

/- A run from creation to its decision. -/
theorem isHistory_run_untilDecided :
    IsHistory
      (Reference.metadata "auth-00").uidOrDefault
      (Run.run step
        (created (Reference.metadata "auth-00")
          Reference.validationSpec)
        Reference.untilDecided)
      (ReachesTerminal
        (created (Reference.metadata "auth-00")
          Reference.validationSpec)
        Reference.untilDecided) :=
  isHistory_run (Reference.metadata "auth-00")
    Reference.validationSpec Reference.untilDecided
    (by decide +kernel)

end PhaseLog

end EngenhoPromessa
