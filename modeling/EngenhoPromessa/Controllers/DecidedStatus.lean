import EngenhoPromessa.Json.Cover
import EngenhoPromessa.Controllers.EphemeralTenant
import EngenhoPromessa.Controllers.GateSafety

/-
  What the merge patch of a decided status leaves stored.

  A member the new status leaves out keeps its stored value:
  a tenant without a target keeps the target of an earlier
  environment, and a gate action keeps the members of the
  action before it. Nothing else a step decides is lost.

  Key definitions include:
    * `EphemeralTenant.StoresExactly`
    * `EphemeralTenant.ForgetsTarget`
    * `ImageValidation.StoresExactly`
    * `ImageValidation.ActionStands`

  Key theorems include:
    * `storedStatus_isDecided_iff`
-/

------------------------------------------------------------
-- Tenants
------------------------------------------------------------

namespace EngenhoPromessa

namespace EphemeralTenant

open AkeylessEphemeralTenantStatus

/-
  The environment names no target any more, but the status
  the step starts from has one.
-/
def ForgetsTarget
    (env : Env)
    (obj : AkeylessEphemeralTenant) : Prop :=
  obj.currentPhase ≠ .teardown ∧
    resolveDastTarget env = none ∧
    obj.statusOrDefault.ingressUrl.isSome = true

variable [Chrono]

/- The stored status reads as `new` once it was patched. -/
def StoresExactly
    (o : Stored AkeylessEphemeralTenantSpec)
    (new : AkeylessEphemeralTenantStatus) : Prop :=
  ofStored
      (o.patchStatus (.obj [("status", new.toValue)])).status =
    some (some new)

instance
    (o : Stored AkeylessEphemeralTenantSpec)
    (new : AkeylessEphemeralTenantStatus) :
    Decidable (StoresExactly o new) :=
  inferInstanceAs (Decidable (_ = _))

/-
  A status is stored exactly when merging it over the old
  one loses nothing.
-/
theorem storesExactly_iff_mergeOver
    {o : Stored AkeylessEphemeralTenantSpec}
    {obj : AkeylessEphemeralTenant}
    (hRead : Api.readTenant o = some obj)
    (new : AkeylessEphemeralTenantStatus) :
    StoresExactly o new ↔
      obj.statusOrDefault.mergeOver new = new := by
  rcases Option.map_eq_some_iff.mp hRead with
    ⟨old, hOld, rfl⟩
  have hMerged := ofStored_merge new hOld
  unfold StoresExactly Stored.patchStatus
  change ofStored (Json.mergeMember o.status
    (some new.toValue)) = _ ↔ _
  rw [hMerged, Option.some.injEq, Option.some.injEq]
  rfl

omit [Chrono] in
theorem mergeOver_reapedStatus
    (ctx : ReconcileCtx)
    (obj : AkeylessEphemeralTenant) :
    obj.statusOrDefault.mergeOver (reapedStatus ctx obj) =
      reapedStatus ctx obj := by
  simp [mergeOver, reapedStatus]

omit [Chrono] in
/-
  An assessed status is stored as decided unless it forgets
  the target.
-/
theorem mergeOver_assessedStatus_iff
    {ctx : ReconcileCtx}
    {obj : AkeylessEphemeralTenant}
    {target : Option String}
    {readiness : TargetReadiness}
    (hTarget : readiness = .noTarget ↔ target = none) :
    obj.statusOrDefault.mergeOver
          (assessedStatus ctx obj target readiness) =
        assessedStatus ctx obj target readiness ↔
      (target = none →
        obj.statusOrDefault.ingressUrl = none) := by
  cases readiness with
  | readyAt url =>
      have hSome : target ≠ none :=
        fun hNone => by simpa using hTarget.mpr hNone
      simp [mergeOver, assessedStatus, hSome]
  | noTarget =>
      have hNone := hTarget.mp rfl
      simp [mergeOver, assessedStatus, hNone]
  | waiting =>
      have hSome : target ≠ none :=
        fun hNone => by simpa using hTarget.mpr hNone
      obtain ⟨url, rfl⟩ :=
        Option.ne_none_iff_exists'.mp hSome
      simp [mergeOver, assessedStatus]

/- A step loses nothing but a target it no longer has. -/
theorem storesExactly_tenant_iff
    {ctx : ReconcileCtx}
    {o : Stored AkeylessEphemeralTenantSpec}
    {obj : AkeylessEphemeralTenant}
    {w : World}
    {new : AkeylessEphemeralTenantStatus}
    {requeue : Nat}
    (hRead : Api.readTenant o = some obj)
    (hRun :
      ((nextStatus ctx obj).exec w).1 =
        .ok (some new, requeue)) :
    StoresExactly o new ↔ ¬ ForgetsTarget ctx.env obj := by
  rw [storesExactly_iff_mergeOver hRead]
  have hAnswer : Answer ctx obj new :=
    answer_of_exec_nextStatus (Prod.ext hRun rfl)
  cases hAnswer with
  | reaped hPhase =>
      simp [mergeOver_reapedStatus, ForgetsTarget, hPhase]
  | assessed readiness hPhase hTarget =>
      rw [mergeOver_assessedStatus_iff hTarget]
      simp [ForgetsTarget, hPhase]

end EphemeralTenant

end EngenhoPromessa

------------------------------------------------------------
-- Validations
------------------------------------------------------------

namespace EngenhoPromessa

/- Actions are the same whatever order members are in. -/
def GateDecision.Same (a b : GateDecision) : Prop :=
  { a with action := b.action } = b ∧ a.action.Same b.action

namespace AkeylessImageValidationStatus

/-
  The same status, up to members of the action that `Value`
  compares alike.
-/
def Same (a b : AkeylessImageValidationStatus) : Prop :=
  { a with gateDecision := b.gateDecision } = b ∧
    Option.Rel GateDecision.Same a.gateDecision
      b.gateDecision

end AkeylessImageValidationStatus

namespace ImageValidation

open AkeylessImageValidationStatus

/- The action stored with the decision, if there is one. -/
def storedAction
    (obj : AkeylessImageValidation) : Option Json :=
  obj.statusOrDefault.gateDecision.map GateDecision.action

variable [Chrono] [SerdeJson] [Blake3] [PromessaSerde]

/- Storing a status gives it back. -/
def StoresExactly
    (o : Stored AkeylessImageValidationSpec)
    (new : AkeylessImageValidationStatus) : Prop :=
  ∃ st,
    ofStored
        (o.patchStatus
          (.obj [("status", new.toValue)])).status =
      some (some st) ∧
    st.Same new

/-
  Every other handler patches the stored action over itself,
  the gate patches the action it decides from the children.
-/
def ActionStands
    (ctx : ReconcileCtx)
    (cluster : Cluster)
    (obj : AkeylessImageValidation) : Prop :=
  if obj.currentPhase = .gating then
    ∀ children, childrenIn cluster obj = some children →
      Json.Covers
        (gateDecisionOf ctx
          (securitySpecFor ctx.env obj.spec.promessaRef) obj
          children).action
        ((storedAction obj).getD .null)
  else
    ∀ action, storedAction obj = some action →
      action ≠ .null ∧ Json.Covers action action

end ImageValidation

end EngenhoPromessa

------------------------------------------------------------
-- What A Validation Loses
------------------------------------------------------------

namespace EngenhoPromessa

namespace ImageValidation

open AkeylessImageValidationStatus

variable [Chrono] [SerdeJson] [Blake3] [PromessaSerde]

omit [SerdeJson] [Blake3] [PromessaSerde] in
/- The status a turn reads is the stored one. -/
theorem ofStored_of_readValidation
    {o : Stored AkeylessImageValidationSpec}
    {obj : AkeylessImageValidation}
    (hRead : Api.readValidation o = some obj) :
    ofStored o.status = some obj.status := by
  rcases Option.map_eq_some_iff.mp hRead with
    ⟨old, hOld, rfl⟩
  exact hOld

/-
  Every member but the decision is what the handler answered:
  it was copied, or it is there.
-/
theorem mergeOver_of_advance
    {ctx : ReconcileCtx}
    {cluster : Cluster}
    {obj : AkeylessImageValidation}
    {new : AkeylessImageValidationStatus}
    (hAdvance : Advance ctx cluster obj new) :
    { obj.statusOrDefault.mergeOver new with
      gateDecision := new.gateDecision } = new := by
  cases hAdvance with
  | provisionFirst hPhase =>
      simp [mergeOver, provisionedStatus]
  | provisionAgain hPhase hTenant =>
      simp [mergeOver, provisionedStatus]
  | scan summaries tenant hPhase hTenant hReady hSome =>
      simp [mergeOver, scanningStatus, hSome]
  | watch children hPhase hChildren hSome =>
      cases hFinished : children.all isFinished with
      | true =>
          simp [mergeOver, scannedStatus, hSome, hFinished]
      | false =>
          simp [mergeOver, scannedStatus, hSome, hFinished]
  | aggregate children hPhase hChildren =>
      simp [mergeOver, aggregatedStatus]
  | attest hPhase => simp [mergeOver, attestedStatus]
  | gate children hPhase hChildren =>
      simp [mergeOver, gatedStatus]

/- So the patch stores what its decision leaves. -/
theorem storesExactly_iff_gate
    {ctx : ReconcileCtx}
    {cluster : Cluster}
    {o : Stored AkeylessImageValidationSpec}
    {obj : AkeylessImageValidation}
    {new : AkeylessImageValidationStatus}
    (hRead : Api.readValidation o = some obj)
    (hAdvance : Advance ctx cluster obj new)
    (hWritable : new.Writable) :
    StoresExactly o new ↔
      Option.Rel GateDecision.Same
        (obj.statusOrDefault.mergeOver new).gateDecision
        new.gateDecision := by
  have hMerged := ofStored_merge hWritable
    (ofStored_of_readValidation hRead)
  have hRest := mergeOver_of_advance hAdvance
  unfold StoresExactly Stored.patchStatus
  change (∃ st, ofStored (Json.mergeMember o.status
    (some new.toValue)) = _ ∧ _) ↔ _
  rw [hMerged]
  simp only [Option.some.injEq, exists_eq_left']
  exact ⟨fun hSame => hSame.2, fun hGate => ⟨hRest, hGate⟩⟩

omit [Chrono] [SerdeJson] [Blake3] [PromessaSerde] in
/- A decision stands when its action covers the one before. -/
theorem same_mergeOver_iff
    {g : GateDecision}
    {old : Option GateDecision}
    (hReason : g.reason.or (old.bind GateDecision.reason) =
      g.reason)
    (hKeys : g.action.DistinctKeys) :
    (g.mergeOver old).Same g ↔
      Json.Covers g.action
        ((old.map GateDecision.action).getD .null) := by
  rw [← Json.same_mergePatch_iff hKeys]
  have hRest :
      { g.mergeOver old with action := g.action } = g := by
    simp [GateDecision.mergeOver, hReason]
  exact ⟨fun hSame => hSame.2, fun hSame => ⟨hRest, hSame⟩⟩

/- The gate decides anew, any other handler copies. -/
theorem gateDecision_of_advance
    {ctx : ReconcileCtx}
    {cluster : Cluster}
    {obj : AkeylessImageValidation}
    {new : AkeylessImageValidationStatus}
    (hAdvance : Advance ctx cluster obj new) :
    if obj.currentPhase = .gating then
      ∃ children, childrenIn cluster obj = some children ∧
        new.gateDecision = some (gateDecisionOf ctx
          (securitySpecFor ctx.env obj.spec.promessaRef) obj
          children)
    else
      new.gateDecision = obj.statusOrDefault.gateDecision := by
  cases hAdvance with
  | provisionFirst hPhase =>
      rw [if_neg (by simp [hPhase])]
      rfl
  | provisionAgain hPhase hTenant =>
      rw [if_neg (by
        rcases hPhase with hPhase | ⟨hPhase, _⟩ <;>
          simp [hPhase])]
      rfl
  | scan summaries tenant hPhase hTenant hReady hSome =>
      rw [if_neg (by
        rcases hPhase with hPhase | ⟨hPhase, _⟩ <;>
          simp [hPhase])]
      rfl
  | watch children hPhase hChildren hSome =>
      rw [if_neg (by simp [hPhase])]
      rfl
  | aggregate children hPhase hChildren =>
      rw [if_neg (by simp [hPhase])]
      rfl
  | attest hPhase =>
      rw [if_neg (by simp [hPhase])]
      rfl
  | gate children hPhase hChildren =>
      rw [if_pos hPhase]
      exact ⟨children, hChildren, rfl⟩

omit [SerdeJson] [Blake3] [PromessaSerde] in
/- The stored action keeps the keys of the stored status. -/
theorem distinctKeys_storedAction
    {o : Stored AkeylessImageValidationSpec}
    {obj : AkeylessImageValidation}
    {g : GateDecision}
    (hRead : Api.readValidation o = some obj)
    (hKeys : ∀ j, o.status = some j → j.DistinctKeys)
    (hGate : obj.statusOrDefault.gateDecision = some g) :
    g.action.DistinctKeys := by
  have hOld := ofStored_of_readValidation hRead
  cases hStatus : obj.status with
  | none =>
      simp [AkeylessImageValidation.statusOrDefault,
        hStatus, AkeylessImageValidationStatus.default]
        at hGate
  | some st =>
      rw [AkeylessImageValidation.statusOrDefault, hStatus]
        at hGate
      rw [hStatus] at hOld
      cases hStored : o.status with
      | none =>
          rw [hStored] at hOld
          simp [ofStored, Json.Field.decodeOptional] at hOld
      | some j =>
          rw [hStored] at hOld
          rcases get?_action_of_ofStored hOld hGate with
            ⟨decision, hDecision, hAction⟩
          exact Json.distinctKeys_of_get?
            (Json.distinctKeys_of_get? (hKeys j hStored)
              hDecision) hAction

/- The gate loses nothing exactly if its action covers. -/
theorem storesExactly_gating_iff
    {ctx : ReconcileCtx}
    {cluster : Cluster}
    {o : Stored AkeylessImageValidationSpec}
    {obj : AkeylessImageValidation}
    {new : AkeylessImageValidationStatus}
    (hSerde :
      ∀ steps j,
        PromessaSerde.actionToValue (.compose steps) =
            some j →
          j.DistinctKeys)
    (hRead : Api.readValidation o = some obj)
    (hAdvance : Advance ctx cluster obj new)
    (hPhase : obj.currentPhase = .gating) :
    StoresExactly o new ↔ ActionStands ctx cluster obj := by
  have hGate := gateDecision_of_advance hAdvance
  rw [if_pos hPhase] at hGate
  rcases hGate with ⟨children, hChildren, hNew⟩
  have hKeys :
      (gateDecisionOf ctx
        (securitySpecFor ctx.env obj.spec.promessaRef) obj
        children).action.DistinctKeys := by
    rcases action_gateDecisionOf_eq_or ctx
      (securitySpecFor ctx.env obj.spec.promessaRef) obj
      children with hEmpty | ⟨steps, hSome⟩
    · rw [hEmpty]
      exact .object (by simp) (by simp)
    · exact hSerde steps _ hSome
  have hWritable : new.Writable := by
    intro g hSome
    rw [hNew] at hSome
    rw [← Option.some.inj hSome]
    exact action_gateDecisionOf_ne_null ctx _ obj children
  rw [storesExactly_iff_gate hRead hAdvance hWritable,
    ActionStands, if_pos hPhase, hChildren]
  simp only [mergeOver, hNew, Option.rel_some_some,
    Option.some.injEq, forall_eq']
  exact same_mergeOver_iff rfl hKeys

/- Any other step, if the stored action covers itself. -/
theorem storesExactly_open_iff
    {ctx : ReconcileCtx}
    {cluster : Cluster}
    {o : Stored AkeylessImageValidationSpec}
    {obj : AkeylessImageValidation}
    {new : AkeylessImageValidationStatus}
    (hRead : Api.readValidation o = some obj)
    (hKeys : ∀ j, o.status = some j → j.DistinctKeys)
    (hAdvance : Advance ctx cluster obj new)
    (hPhase : obj.currentPhase ≠ .gating) :
    StoresExactly o new ↔ ActionStands ctx cluster obj := by
  have hNew := gateDecision_of_advance hAdvance
  rw [if_neg hPhase] at hNew
  rw [ActionStands, if_neg hPhase, storedAction]
  cases hGate : obj.statusOrDefault.gateDecision with
  | none =>
      have hWritable : new.Writable := by
        intro g hSome
        simp [hNew, hGate] at hSome
      rw [storesExactly_iff_gate hRead hAdvance hWritable]
      simp [mergeOver, hNew, hGate]
  | some g =>
      simp only [Option.map_some, Option.some.injEq,
        forall_eq']
      by_cases hNull : g.action = .null
      · have hNone :
            ofStored (Json.mergeMember o.status
              (some new.toValue)) = none :=
          ofStored_merge_null (hNew.trans hGate) hNull _
        constructor
        · rintro ⟨st, hRead', _⟩
          exact absurd (hNone.symm.trans hRead') (by simp)
        · rintro ⟨hNot, _⟩
          exact absurd hNull hNot
      · have hWritable : new.Writable := by
          intro h hSome
          rw [hNew, hGate] at hSome
          rwa [← Option.some.inj hSome]
        rw [storesExactly_iff_gate hRead hAdvance hWritable]
        simp only [mergeOver, hNew, hGate,
          Option.rel_some_some]
        rw [same_mergeOver_iff (by simp)
          (distinctKeys_storedAction hRead hKeys hGate)]
        simp [hNull]

end ImageValidation

end EngenhoPromessa

------------------------------------------------------------
-- Both Controllers
------------------------------------------------------------

namespace EngenhoPromessa

/-
  A stored status is the decided one, unless a tenant forgets
  its target or a gate action does not stand.
-/
theorem storedStatus_isDecided_iff
    [Chrono]
    [SerdeJson]
    [Blake3]
    [PromessaSerde]
    (hSerde :
      ∀ steps j,
        PromessaSerde.actionToValue (.compose steps) =
            some j →
          j.DistinctKeys) :
    (∀ ctx o obj w new requeue,
      Api.readTenant o = some obj →
      ((EphemeralTenant.nextStatus ctx obj).exec w).1 =
        .ok (some new, requeue) →
      (EphemeralTenant.StoresExactly o new ↔
        ¬ EphemeralTenant.ForgetsTarget ctx.env obj)) ∧
    (∀ ctx o obj w new,
      Api.readValidation o = some obj →
      (∀ j, o.status = some j → j.DistinctKeys) →
      ((ImageValidation.nextStatus ctx obj).exec w).1 =
        .ok (some new) →
      (ImageValidation.StoresExactly o new ↔
        ImageValidation.ActionStands ctx w.cluster obj)) := by
  constructor
  · intro ctx o obj w new requeue hRead hRun
    exact EphemeralTenant.storesExactly_tenant_iff hRead hRun
  · intro ctx o obj w new hRead hKeys hRun
    have hAdvance :
        ImageValidation.Advance ctx w.cluster obj new :=
      ImageValidation.advance_of_exec_nextStatus
        (Prod.ext hRun rfl)
    by_cases hPhase : obj.currentPhase = .gating
    · exact ImageValidation.storesExactly_gating_iff hSerde
        hRead hAdvance hPhase
    · exact ImageValidation.storesExactly_open_iff hRead
        hKeys hAdvance hPhase

namespace Reference

/- A world where nothing fails. -/
def quietWorld : World where
  cluster := emptyCluster
  faults := []
  calls := []
  published := []

/- It waited for a target the environment no longer has. -/
def waitingTenant : AkeylessEphemeralTenant where
  metadata := metadata "eph-auth-00"
  spec :=
    (ImageValidation.buildTenant (validationAt .pending)).spec
  status := some { AkeylessEphemeralTenantStatus.default with
    phase := some .podsRunning
    ingressUrl := some "http://saas.akeyless.svc:8080"
    allocatedAt := some (second 0)
    observedGeneration := 1 }

/- A tenant stored while it waits for its target. -/
def storedWaitingTenant :
    Stored AkeylessEphemeralTenantSpec where
  metadata := waitingTenant.metadata
  spec := waitingTenant.spec
  status := waitingTenant.status.map
    AkeylessEphemeralTenantStatus.toValue

/- A validation stored in its attesting phase. -/
def storedAttesting :
    Stored AkeylessImageValidationSpec where
  metadata := metadata "auth-00"
  spec := validationSpec
  status := some (.obj [("phase", .str "Attesting")])

end Reference

/-
  The step decides that there is no target, and the stored
  status still has the one it waited for.
-/
theorem not_storesExactly_waitingTenant :
    ∃ new requeue,
      Api.readTenant Reference.storedWaitingTenant =
        some Reference.waitingTenant ∧
      ((EphemeralTenant.nextStatus Reference.ctx
          Reference.waitingTenant).exec
        Reference.quietWorld).1 = .ok (some new, requeue) ∧
      new.ingressUrl = none ∧
      ¬ EphemeralTenant.StoresExactly
        Reference.storedWaitingTenant new := by
  refine ⟨_, _, by decide +kernel, rfl, rfl, ?_⟩
  decide +kernel

/-
  Both halves, at a tenant that had a target and at an
  attesting validation.
-/
theorem storedStatus_isDecided_iff_reference :
    (EphemeralTenant.StoresExactly
        Reference.storedWaitingTenant
        (EphemeralTenant.assessedStatus Reference.ctx
          Reference.waitingTenant none .noTarget) ↔
      ¬ EphemeralTenant.ForgetsTarget Reference.ctx.env
        Reference.waitingTenant) ∧
    (ImageValidation.StoresExactly
        Reference.storedAttesting
        (ImageValidation.attestedStatus
          (Reference.validationAt .attesting)) ↔
      ImageValidation.ActionStands Reference.ctx
        Reference.emptyCluster
        (Reference.validationAt .attesting)) := by
  have hSerde :
      ∀ steps j,
        PromessaSerde.actionToValue (.compose steps) =
            some j →
          j.DistinctKeys := by
    intro steps j hSome
    rw [← Option.some.inj hSome]
    exact Json.distinctKeys_singleton (.atomic trivial)
  have hKeys :
      ∀ j, Reference.storedAttesting.status = some j →
        j.DistinctKeys := by
    intro j hStored
    rw [← Option.some.inj hStored]
    exact Json.distinctKeys_singleton (.atomic trivial)
  constructor
  · exact (storedStatus_isDecided_iff hSerde).1
      Reference.ctx Reference.storedWaitingTenant
      Reference.waitingTenant Reference.quietWorld _ 600
      (by decide +kernel) rfl
  · exact (storedStatus_isDecided_iff hSerde).2
      Reference.ctx Reference.storedAttesting
      (Reference.validationAt .attesting)
      Reference.quietWorld _ rfl hKeys rfl

end EngenhoPromessa
