import EngenhoPromessa.Controllers.Traceability

/-
  A process in scan-only mode executes nothing.

  The gate of this mode decides as ever, but puts the empty
  object in place of the action. Whatever versions of however
  many validations the dispatcher sees, it finds no action to
  read in their decisions.

  Key definitions include:
    * `HasNoAction`
    * `Platform.IsScanOnly`
    * `Platform.CallsNoExecutor`

  Key theorems include:
    * `Controller.preserves_harmless_handle`
    * `Platform.callsNoExecutor_run`
-/

------------------------------------------------------------
-- Statuses Without An Action
------------------------------------------------------------

namespace EngenhoPromessa

open AkeylessImageValidationStatus

/- A decision there may be, but its action is empty. -/
def AkeylessImageValidationStatus.IsHarmless
    (st : AkeylessImageValidationStatus) : Prop :=
  ∀ g, st.gateDecision = some g → g.action = .obj []

theorem isHarmless_default :
    AkeylessImageValidationStatus.default.IsHarmless := by
  intro g hGate
  simp [AkeylessImageValidationStatus.default] at hGate

/- Merging harmless statuses gives a harmless one. -/
theorem isHarmless_mergeOver
    {old new : AkeylessImageValidationStatus}
    (hOld : old.IsHarmless)
    (hNew : new.IsHarmless) :
    (old.mergeOver new).IsHarmless := by
  intro g hGate
  cases hNewGate : new.gateDecision with
  | none =>
      apply hOld g
      simpa [mergeOver, hNewGate] using hGate
  | some new' =>
      obtain rfl : new'.mergeOver old.gateDecision = g := by
        simpa [mergeOver, hNewGate] using hGate
      have hEmpty := hNew new' hNewGate
      cases hOldGate : old.gateDecision with
      | none =>
          simp [GateDecision.mergeOver, hEmpty,
            Json.mergePatch, Json.mergeMembers, Json.members]
      | some old' =>
          simp [GateDecision.mergeOver, hEmpty,
            hOld old' hOldGate, Json.mergePatch,
            Json.mergeMembers, Json.members]

variable [Chrono]

/- The stored status reads back as a harmless one. -/
def HasNoAction (stored : Option Json) : Prop :=
  ∃ old, ofStored stored = some old ∧
    (old.getD .default).IsHarmless

theorem hasNoAction_none : HasNoAction none :=
  ⟨none, rfl, isHarmless_default⟩

/- Storing a harmless status stores no action. -/
theorem hasNoAction_merge
    {stored : Option Json}
    {new : AkeylessImageValidationStatus}
    (hOld : HasNoAction stored)
    (hNew : new.IsHarmless) :
    HasNoAction
      (Json.mergeMember stored (some new.toValue)) := by
  rcases hOld with ⟨old, hRead, hHarmless⟩
  have hWritable : new.Writable := by
    intro g hGate
    simp [hNew g hGate]
  exact ⟨_, ofStored_merge hWritable hRead,
    isHarmless_mergeOver hHarmless hNew⟩

/- Storing a receipt stores no action. -/
theorem hasNoAction_merge_receipt
    {stored : Option Json}
    (receipt : OutcomeReceiptRef)
    (hOld : HasNoAction stored) :
    HasNoAction
      (Json.mergeMember stored
        (some (receiptPatch receipt))) := by
  rcases hOld with ⟨old, hRead, hHarmless⟩
  exact ⟨_, ofStored_merge_receipt receipt hRead, hHarmless⟩

end EngenhoPromessa

------------------------------------------------------------
-- Turns In Scan-Only Mode
------------------------------------------------------------

namespace EngenhoPromessa

open Fallible AkeylessImageValidationStatus

/- No decision stored in the cluster has an action. -/
def Cluster.IsHarmless
    [Chrono]
    (cluster : Cluster) : Prop :=
  ∀ o ∈ cluster.validations, HasNoAction o.status

variable [Chrono]

/- The copies read from such a cluster have none either. -/
theorem Cluster.isHarmless_validationIn
    [SerdeJson]
    {cluster : Cluster}
    (hHarmless : cluster.IsHarmless)
    {«namespace» name : String}
    {obj : AkeylessImageValidation}
    (hFound :
      cluster.validationIn «namespace» name = some obj) :
    obj.statusOrDefault.IsHarmless := by
  rcases Option.bind_eq_some_iff.mp hFound with
    ⟨o, hFind, hRead⟩
  rcases hHarmless o (List.mem_of_find?_eq_some hFind) with
    ⟨old, hOld, hStatus⟩
  rcases Option.map_eq_some_iff.mp hRead with
    ⟨old', hOld', rfl⟩
  obtain rfl : old = old' :=
    Option.some.inj (hOld.symm.trans hOld')
  exact hStatus

/- A turn that wrote no validation does no harm. -/
theorem Cluster.isHarmless_of_eq
    {cluster cluster' : Cluster}
    (hHarmless : cluster.IsHarmless)
    (hSame : cluster'.validations = cluster.validations) :
    cluster'.IsHarmless := by
  intro o hMem
  rw [hSame] at hMem
  exact hHarmless o hMem

/- Nor does a patch that stores no action. -/
theorem Cluster.isHarmless_patched
    {cluster cluster' : Cluster}
    {«namespace» name : String}
    {patch : Json}
    (hHarmless : cluster.IsHarmless)
    (hPatch :
      Stored.patchNamed «namespace» name patch
          cluster.validations =
        some cluster'.validations)
    (hMerge :
      ∀ stored, HasNoAction stored →
        HasNoAction
          (Json.mergeMember stored (patch.get? "status"))) :
    cluster'.IsHarmless := by
  intro o' hMem
  rcases Stored.mem_of_patchNamed hPatch hMem with
    hOld | ⟨o, ho, rfl⟩
  · exact hHarmless o' hOld
  · exact hMerge o.status (hHarmless o ho)

namespace ImageValidation

variable [SerdeJson] [Blake3] [PromessaSerde]

/- The gate of this mode leaves the action out. -/
theorem isHarmless_of_advance
    {ctx : ReconcileCtx}
    {cluster : Cluster}
    {obj : AkeylessImageValidation}
    {new : AkeylessImageValidationStatus}
    (hScanOnly : scanOnlyMode ctx.env = true)
    (hObj : obj.statusOrDefault.IsHarmless)
    (hAdvance : Advance ctx cluster obj new) :
    new.IsHarmless := by
  cases hAdvance with
  | provisionFirst hPhase => exact hObj
  | provisionAgain hPhase hTenant => exact hObj
  | scan summaries tenant hPhase hTenant hReady hSome =>
      exact hObj
  | watch children hPhase hChildren hSome => exact hObj
  | aggregate children hPhase hChildren => exact hObj
  | attest hPhase => exact hObj
  | gate children hPhase hChildren =>
      intro g hGate
      rw [← Option.some.inj hGate]
      simp [gateDecisionOf, hScanOnly]

/- In scan-only mode a validation's turn does no harm. -/
theorem preserves_harmless_reconcile
    {ctx : ReconcileCtx}
    {obj : AkeylessImageValidation}
    (hScanOnly : scanOnlyMode ctx.env = true)
    (hObj : obj.statusOrDefault.IsHarmless) :
    Preserves (fun w => w.cluster.IsHarmless)
      (reconcile ctx obj) := by
  intro w hHarmless
  rcases exec_reconcile_validations ctx obj w with
    hSame | ⟨new, hAdvance, hPatch⟩
  · exact Cluster.isHarmless_of_eq hHarmless hSame
  · have hNew :=
      isHarmless_of_advance hScanOnly hObj hAdvance
    exact Cluster.isHarmless_patched hHarmless hPatch
      (fun stored hStored => hasNoAction_merge hStored hNew)

end ImageValidation

/- The receipt writer does no harm. -/
theorem OutcomeChain.preserves_harmless_handle
    [Blake3]
    (ctx : ReconcileCtx)
    (obj : AkeylessImageValidation) :
    Preserves (fun w => w.cluster.IsHarmless)
      (OutcomeChain.handle ctx obj) := by
  intro w hHarmless
  rcases OutcomeChain.exec_handle_validations ctx obj w with
    hSame | ⟨_, ns, _, hPatch⟩
  · exact Cluster.isHarmless_of_eq hHarmless hSame
  · exact Cluster.isHarmless_patched hHarmless hPatch
      (fun stored hStored =>
        hasNoAction_merge_receipt _ hStored)

namespace Controller

/- The two others leave the validations alone. -/
theorem preserves_harmless_call
    {α : Type}
    (c : ApiCall)
    {serve : Cluster → Except KubeError α × Cluster}
    (hServe :
      ∀ cluster,
        (serve cluster).2.validations =
          cluster.validations) :
    Preserves (fun w => w.cluster.IsHarmless)
      (Kube.call c serve) :=
  Kube.preserves_call c (fun cluster hHarmless =>
    Cluster.isHarmless_of_eq hHarmless (hServe cluster))

variable [SerdeJson] [Blake3] [PromessaSerde]

/- No controller's turn does harm in scan-only mode. -/
theorem preserves_harmless_handle
    {ctx : ReconcileCtx}
    {copy : Cluster}
    (controller : Controller)
    (hScanOnly : scanOnlyMode ctx.env = true)
    (hCopy : copy.IsHarmless)
    («namespace» name : String) :
    Preserves (fun w => w.cluster.IsHarmless)
      (controller.handle ctx copy «namespace» name) := by
  cases controller with
  | imageValidation =>
      unfold handle
      cases hFound : copy.validationIn «namespace» name with
      | none => exact preserves_pure _ _
      | some obj =>
          exact preserves_bind
            (ImageValidation.preserves_harmless_reconcile
              hScanOnly
              (Cluster.isHarmless_validationIn hCopy hFound))
            (fun _ => preserves_pure _ _)
  | ephemeralTenant =>
      refine preserves_handleSome
        (EphemeralTenant.preserves_reconcile ?_ ctx) _
      refine
        { read := fun c serve =>
            preserves_harmless_call c (fun _ => rfl)
          patchTenantStatus := fun ns name patch => ?_ }
      apply preserves_harmless_call
      intro cluster
      split
      · rfl
      · rfl
  | scanJob =>
      refine preserves_handleSome
        (ScanJobController.preserves_reconcile ?_ ctx) _
      refine
        { read := fun c serve =>
            preserves_harmless_call c (fun _ => rfl)
          createJob := fun ns job => ?_
          createConfigMap := fun ns cm => ?_
          patchScanJobStatus := fun ns name patch => ?_
          findingRecorded := fun e w hHarmless =>
            hHarmless }
      · apply preserves_harmless_call
        intro cluster
        split
        · rfl
        · rfl
      · apply preserves_harmless_call
        intro cluster
        split
        · rfl
        · rfl
      · apply preserves_harmless_call
        intro cluster
        split
        · rfl
        · rfl
  | outcomeChain =>
      exact preserves_handleSome
        (OutcomeChain.preserves_harmless_handle ctx) _

end Controller

end EngenhoPromessa

------------------------------------------------------------
-- Runs In Scan-Only Mode
------------------------------------------------------------

namespace EngenhoPromessa

namespace Platform

open AkeylessImageValidationStatus

variable {σ : Type}

/-
  The controllers take their turns in scan-only mode. Others
  may create validations without a status, and otherwise
  leave the statuses of the validations as they are.
-/
def IsScanOnly (s : Platform σ) : Event → Prop
| .turn _ ctx _ _ _ _ => scanOnlyMode ctx.env = true
| .dispatch ctx _ _ _ => scanOnlyMode ctx.env = true
| .change f =>
    ∀ o ∈ (f s.cluster).validations, o.status = none ∨
      ∃ before ∈ s.cluster.validations,
        o.status = before.status

variable [Chrono]

/- No version of the cluster holds an action. -/
def IsHarmless (s : Platform σ) : Prop :=
  ∀ cluster ∈ s.cluster :: s.earlier, cluster.IsHarmless

/- New validations order nothing. -/
theorem isHarmless_start
    {cluster : Cluster}
    (hStart : ∀ o ∈ cluster.validations, o.status = none)
    (substrate : σ) :
    (start cluster substrate).IsHarmless := by
  intro version hVersion
  obtain rfl : version = cluster :=
    List.mem_singleton.mp hVersion
  intro o hMem
  rw [hStart o hMem]
  exact hasNoAction_none

/- The platform goes on with a harmless cluster. -/
theorem isHarmless_replaceCluster
    {s : Platform σ}
    (hHarmless : s.IsHarmless)
    {cluster : Cluster}
    (hCluster : cluster.IsHarmless) :
    (s.replaceCluster cluster).IsHarmless := by
  intro version hVersion
  rcases List.mem_cons.mp hVersion with rfl | hEarlier
  · exact hCluster
  · exact hHarmless version hEarlier

/- Every copy of a harmless platform is harmless. -/
theorem isHarmless_copy
    {s : Platform σ}
    (hHarmless : s.IsHarmless)
    {age : Nat}
    {cluster : Cluster}
    (hCopy : s.copy age = some cluster) :
    cluster.IsHarmless :=
  hHarmless cluster (List.mem_of_getElem? hCopy)

variable [SerdeJson] [PromessaSerde]

/- The event does not get as far as the executor. -/
def CallsNoExecutor (s : Platform σ) (e : Event) : Prop :=
  s.executionOf e = none

/- A harmless platform gives the executor nothing to run. -/
theorem callsNoExecutor_of_harmless
    (hEmpty :
      PromessaSerde.actionFromValue (.obj []) = none)
    {s : Platform σ}
    (hHarmless : s.IsHarmless)
    (e : Event) :
    s.CallsNoExecutor e := by
  cases e with
  | turn controller ctx age «namespace» name faults => rfl
  | change f => rfl
  | dispatch ctx age «namespace» name =>
      change (s.delivered age «namespace» name).bind
        s.toExecute = none
      cases hDelivered : s.delivered age «namespace» name with
      | none => rfl
      | some obj =>
          rcases Option.bind_eq_some_iff.mp hDelivered with
            ⟨cluster, hCopy, hFound⟩
          have hObj := Cluster.isHarmless_validationIn
            (isHarmless_copy hHarmless hCopy) hFound
          rw [Option.bind_some, toExecute]
          rcases ActionDispatcher.handle_eq_or s.dedupe obj
            with hSkip | ⟨uid, g, hGate, _, hRun, _⟩
          · rw [hSkip]
            cases ActionDispatcher.decisionOf obj with
            | none => rfl
            | some delivery => rfl
          · have hAction := hObj g
              ((RunState.gate_statusOrDefault obj).trans
                hGate)
            rw [hRun, hAction, hEmpty]
            cases ActionDispatcher.decisionOf obj with
            | none => rfl
            | some delivery => rfl

variable [ErrorText] [OutcomeSerde]

omit [SerdeJson] in
/- A dispatch changes no stored object. -/
theorem dispatch_clusters
    (executor : ActionExecutor (StateM σ))
    (ctx : ReconcileCtx)
    (s : Platform σ)
    (obj : AkeylessImageValidation) :
    (s.dispatch executor ctx obj).cluster = s.cluster ∧
      (s.dispatch executor ctx obj).earlier = s.earlier := by
  unfold dispatch
  cases s.toExecute obj with
  | none => exact ⟨rfl, rfl⟩
  | some execution => exact ⟨rfl, rfl⟩

variable [Blake3]

/- A scan-only step keeps the platform harmless. -/
theorem isHarmless_step
    (executor : ActionExecutor (StateM σ))
    {s : Platform σ}
    {e : Event}
    (hHarmless : s.IsHarmless)
    (hScanOnly : s.IsScanOnly e) :
    (s.step executor e).IsHarmless := by
  have hNow := hHarmless s.cluster List.mem_cons_self
  cases e with
  | turn controller ctx age «namespace» name faults =>
      cases hCopy : s.copy age with
      | none =>
          simp only [step, hCopy]
          exact hHarmless
      | some cluster =>
          simp only [step, hCopy]
          have hAfter :=
            controller.preserves_harmless_handle hScanOnly
              (isHarmless_copy hHarmless hCopy)
              «namespace» name
              { cluster := s.cluster
                faults := faults
                calls := []
                published := [] } hNow
          exact isHarmless_replaceCluster hHarmless hAfter
  | dispatch ctx age «namespace» name =>
      cases hDelivered : s.delivered age «namespace» name with
      | none =>
          simp only [step, hDelivered]
          exact hHarmless
      | some obj =>
          simp only [step, hDelivered]
          rcases dispatch_clusters executor ctx s obj with
            ⟨hCluster, hEarlier⟩
          intro version hVersion
          rw [hCluster, hEarlier] at hVersion
          exact hHarmless version hVersion
  | change f =>
      apply isHarmless_replaceCluster hHarmless
      intro o hMem
      rcases hScanOnly o hMem with
        hNew | ⟨before, hBefore, hSame⟩
      · rw [hNew]
        exact hasNoAction_none
      · rw [hSame]
        exact hNow before hBefore

/- Nothing was executed, and no row of an outcome written. -/
structure ExecutedNothing (s : Platform σ) : Prop where
  nothing_executed : s.executed = []
  no_outcomes : s.store.reconcilerOutcomes = []

omit [Chrono] [SerdeJson] [PromessaSerde] [ErrorText]
  [OutcomeSerde] [Blake3] in
theorem executedNothing_start
    (cluster : Cluster)
    (substrate : σ) :
    (start cluster substrate).ExecutedNothing :=
  ⟨rfl, rfl⟩

/- A step that calls no executor executes nothing. -/
theorem executedNothing_step
    (executor : ActionExecutor (StateM σ))
    {s : Platform σ}
    {e : Event}
    (hNothing : s.ExecutedNothing)
    (hCalls : s.CallsNoExecutor e) :
    (s.step executor e).ExecutedNothing := by
  rcases step_cases executor s e with
    ⟨_, hSame⟩ | ⟨_, _, _, _, _, hSome, _, _⟩
  · exact
      { nothing_executed :=
          hSame.executed_same.trans hNothing.nothing_executed
        no_outcomes :=
          (congrArg ValidationStore.reconcilerOutcomes
            hSame.store_same).trans hNothing.no_outcomes }
  · rw [CallsNoExecutor, hSome] at hCalls
    simp at hCalls

/- Scan-only mode executes nothing, whatever is found. -/
theorem callsNoExecutor_run
    (hEmpty :
      PromessaSerde.actionFromValue (.obj []) = none)
    (executor : ActionExecutor (StateM σ))
    (substrate : σ)
    (cluster : Cluster)
    (hStart : ∀ o ∈ cluster.validations, o.status = none)
    (events : List Event)
    (hScanOnly :
      Run.Allowed (step executor) IsScanOnly
        (start cluster substrate) events) :
    Run.Allowed (step executor) CallsNoExecutor
        (start cluster substrate) events ∧
      (Run.run (step executor) (start cluster substrate)
        events).ExecutedNothing := by
  have hCalls :
      Run.Allowed (step executor) CallsNoExecutor
        (start cluster substrate) events :=
    Run.allowed_of_invariant IsHarmless
      (fun _ _ hHarmless hOk =>
        isHarmless_step executor hHarmless hOk)
      (fun _ e hHarmless _ =>
        callsNoExecutor_of_harmless hEmpty hHarmless e)
      (isHarmless_start hStart substrate) hScanOnly
  refine ⟨hCalls, ?_⟩
  exact Run.invariant_run ExecutedNothing
    (fun _ _ hNothing hOk =>
      executedNothing_step executor hNothing hOk)
    (executedNothing_start cluster substrate) hCalls

end Platform

namespace Reference

/- A context in scan-only mode. -/
def scanOnlyCtx : ReconcileCtx :=
  { ctx with
    env := fun name =>
      if name = "VALIDATION_SCAN_ONLY" then
        some "true"
      else
        none }

/- A turn in scan-only mode. -/
def scanOnlyTurn
    (controller : Controller)
    (name : String) : Platform.Event :=
  .turn controller scanOnlyCtx 0 "validation" name []

/- A second validation is created. -/
def addValidation (cluster : Cluster) : Cluster :=
  { cluster with
    validations := cluster.validations ++
      [{ metadata := metadata "auth-01"
         spec := validationSpec
         status := none }] }

/- It comes without a status. -/
theorem status_addValidation
    (cluster : Cluster) :
    ∀ o ∈ (addValidation cluster).validations,
      o.status = none ∨
        ∃ before ∈ cluster.validations,
          o.status = before.status := by
  intro o hMem
  rcases List.mem_append.mp hMem with hOld | hNew
  · exact Or.inr ⟨o, hOld, rfl⟩
  · rw [List.mem_singleton.mp hNew]
    exact Or.inl rfl

/- A second validation comes, the first goes to its end. -/
def scanOnlyEvents : List Platform.Event :=
  [scanOnlyTurn .imageValidation "auth-00",
    .change addValidation,
    scanOnlyTurn .ephemeralTenant "eph-auth-00",
    scanOnlyTurn .imageValidation "auth-00",
    .change attestScans,
    scanOnlyTurn .imageValidation "auth-00",
    scanOnlyTurn .imageValidation "auth-00",
    scanOnlyTurn .imageValidation "auth-00",
    scanOnlyTurn .imageValidation "auth-00",
    scanOnlyTurn .imageValidation "auth-01",
    .dispatch scanOnlyCtx 0 "validation" "auth-00",
    scanOnlyTurn .outcomeChain "auth-00",
    .dispatch scanOnlyCtx 0 "validation" "auth-00"]

/- Every event of the run is in scan-only mode. -/
theorem isScanOnly_scanOnlyEvents :
    ∀ e ∈ scanOnlyEvents,
      ∀ s : Platform Unit, s.IsScanOnly e := by
  intro e hMem s
  simp only [scanOnlyEvents, List.mem_cons,
    List.not_mem_nil, or_false] at hMem
  rcases hMem with rfl | rfl | rfl | rfl | rfl | rfl | rfl |
    rfl | rfl | rfl | rfl | rfl | rfl
  case inr.inl => exact status_addValidation s.cluster
  case inr.inr.inr.inr.inl =>
    exact fun o hStays => Or.inr ⟨o, hStays, rfl⟩
  all_goals rfl

end Reference

namespace Platform

/- A scan-only run up to a decision, with its dispatch. -/
theorem callsNoExecutor_run_scanOnlyEvents :
    Run.Allowed (step Reference.executor) CallsNoExecutor
        (start Reference.withValidation ())
        Reference.scanOnlyEvents ∧
      (Run.run (step Reference.executor)
        (start Reference.withValidation ())
        Reference.scanOnlyEvents).ExecutedNothing :=
  callsNoExecutor_run rfl Reference.executor ()
    Reference.withValidation
    (by simp [Reference.withValidation])
    Reference.scanOnlyEvents
    (Run.allowed_of_invariant (fun _ => True)
      (fun _ _ _ _ => trivial) (fun s _ _ hAll => hAll s)
      trivial
      (Run.allowed_of_forall
        Reference.isScanOnly_scanOnlyEvents _))

end Platform

end EngenhoPromessa
