import EngenhoPromessa.Controllers.PipelineFrame
import EngenhoPromessa.Controllers.ScanOnly

/-
  The platform goes on with everything else it does: other
  objects are reconciled by copies of any age, calls fail,
  actions are dispatched, and others change the cluster.

  As long as nobody takes a validation's objects away, none
  of it leads them back, and a turn that finds what it needs
  from outside leads its object on.

  Key definitions include:
    * `Pipeline.OwnTurn`
    * `Pipeline.Undisturbed`
    * `Pipeline.Supplied`
    * `Pipeline.Serves`

  Key theorems include:
    * `Pipeline.step_cases`
    * `Pipeline.sound_step`
    * `Pipeline.sound_run`
    * `Pipeline.rank_of_serves`
    * `Pipeline.ready_of_serves`
    * `Pipeline.scanRank_of_serves`
-/

------------------------------------------------------------
-- Turns Of The Platform
------------------------------------------------------------

namespace EngenhoPromessa

namespace Controller

open Fallible

/-
  A turn on an object that was found is the controller's
  turn.
-/
theorem exec_handleSome_some
    {α β : Type}
    (reconcile : α → Kube β)
    (obj : α)
    (w : World) :
    ((handleSome reconcile (some obj)).exec w).2 =
      ((reconcile obj).exec w).2 := by
  rw [handleSome, exec_bind]
  rcases (reconcile obj).exec w with ⟨_ | _, _⟩
  · rfl
  · rfl

end Controller

namespace Pipeline

open Fallible ImageValidation ScanJobController

/- The object of the turn is one of the validation's. -/
def isOwn
    («namespace» name : String)
    (cluster : Cluster)
    (controller : Controller)
    («namespace'» name' : String) : Bool :=
  match controller with
  | .imageValidation =>
      («namespace'», name') = («namespace», name)
  | .outcomeChain =>
      («namespace'», name') = («namespace», name)
  | .ephemeralTenant =>
      («namespace'», name') =
        («namespace», tenantNameOf name)
  | .scanJob =>
      (scans «namespace» name cluster.scanJobs).any
        (fun o => o.isNamed «namespace'» name')

variable [Chrono] [SerdeJson] [Blake3] [PromessaSerde]
variable {«namespace» name : String}
variable {cluster : Cluster}

/- A turn on one of the validation's objects, as it is. -/
inductive OwnTurn
    (ctx : ReconcileCtx)
    («namespace» name : String)
    (w : World)
    (after : Cluster) : Prop where
  | validation
      (obj : AkeylessImageValidation)
      (hObj :
        w.cluster.validationIn «namespace» name = some obj)
      (hScope :
        ctx.namespace.getD «namespace» = «namespace»)
      (hAfter :
        ((ImageValidation.reconcile ctx obj).exec
          w).2.cluster = after)
  | tenant
      (t : AkeylessEphemeralTenant)
      (hTenant :
        w.cluster.tenantIn «namespace»
          (tenantNameOf name) = some t)
      (hAfter :
        ((EphemeralTenant.reconcile ctx t).exec
          w).2.cluster = after)
  | scanJob
      (sj : ScanJob)
      (o : Stored ScanJobSpec)
      (hOwn : o ∈ scans «namespace» name w.cluster.scanJobs)
      (hScan :
        w.cluster.scanJobIn o.key.1 o.key.2 = some sj)
      (hAfter :
        ((ScanJobController.reconcile ctx sj).exec
          w).2.cluster = after)
  | receipt
      (obj : AkeylessImageValidation)
      (hObj :
        w.cluster.validationIn «namespace» name = some obj)
      (hScope :
        ctx.namespace.getD «namespace» = «namespace»)
      (hAfter :
        ((OutcomeChain.handle ctx obj).exec w).2.cluster =
          after)

omit [Blake3] [PromessaSerde] in
theorem leavesAlone_refl
    («namespace» name : String)
    (cluster : Cluster) :
    LeavesAlone «namespace» name cluster cluster :=
  leavesAlone_of_eq _ _ rfl rfl rfl

variable {controller : Controller}
variable {ctx : ReconcileCtx}
variable {«namespace'» name' : String}
variable {w : World}

/- A turn on an own object, if it is there, is one of these. -/
theorem ownTurn_handle
    (hScope :
      ctx.namespace.getD «namespace'» = «namespace'»)
    (hOwn :
      isOwn «namespace» name w.cluster controller
        «namespace'» name' = true) :
    let after :=
      ((controller.handle ctx w.cluster «namespace'»
        name').exec w).2.cluster
    LeavesAlone «namespace» name w.cluster after ∨
      OwnTurn ctx «namespace» name w after := by
  intro after
  have hSame := leavesAlone_refl «namespace» name w.cluster
  cases controller with
  | imageValidation =>
      obtain ⟨rfl, rfl⟩ :
          «namespace'» = «namespace» ∧ name' = name := by
        simpa [isOwn] using hOwn
      cases hObj :
          w.cluster.validationIn «namespace'» name' with
      | none =>
          simp only [after, Controller.handle, hObj]
          exact .inl hSame
      | some obj =>
          refine .inr (.validation obj hObj hScope ?_)
          simp only [after, Controller.handle, hObj,
            Controller.exec_handleSome_some]
  | outcomeChain =>
      obtain ⟨rfl, rfl⟩ :
          «namespace'» = «namespace» ∧ name' = name := by
        simpa [isOwn] using hOwn
      cases hObj :
          w.cluster.validationIn «namespace'» name' with
      | none =>
          simp only [after, Controller.handle, hObj]
          exact .inl hSame
      | some obj =>
          refine .inr (.receipt obj hObj hScope ?_)
          simp only [after, Controller.handle, hObj,
            Controller.exec_handleSome_some]
  | ephemeralTenant =>
      obtain ⟨rfl, rfl⟩ :
          «namespace'» = «namespace» ∧
            name' = tenantNameOf name := by
        simpa [isOwn] using hOwn
      cases hTenant : w.cluster.tenantIn «namespace'»
          (tenantNameOf name) with
      | none =>
          simp only [after, Controller.handle, hTenant]
          exact .inl hSame
      | some t =>
          refine .inr (.tenant t hTenant ?_)
          simp only [after, Controller.handle, hTenant,
            Controller.exec_handleSome_some]
  | scanJob =>
      rw [isOwn, List.any_eq_true] at hOwn
      rcases hOwn with ⟨o, hMem, hNamed⟩
      have hKey := Stored.isNamed_iff.mp hNamed
      cases hScan :
          w.cluster.scanJobIn «namespace'» name' with
      | none =>
          simp only [after, Controller.handle, hScan]
          exact .inl hSame
      | some sj =>
          refine .inr (.scanJob sj o hMem ?_ ?_)
          · rwa [hKey]
          · simp only [after, Controller.handle, hScan,
              Controller.exec_handleSome_some]

/- A turn on another object, seen as it is or was. -/
theorem leavesAlone_handle
    (hEmpty : PrintsEmptyList)
    (copy : Cluster)
    (hScope :
      ctx.namespace.getD «namespace'» = «namespace'»)
    (hOther :
      isOwn «namespace» name w.cluster controller
        «namespace'» name' = false) :
    LeavesAlone «namespace» name w.cluster
      ((controller.handle ctx copy «namespace'»
        name').exec w).2.cluster := by
  have hSame := leavesAlone_refl «namespace» name w.cluster
  cases controller with
  | imageValidation =>
      unfold Controller.handle
      cases hObj : copy.validationIn «namespace'» name' with
      | none => exact hSame
      | some obj =>
          dsimp only
          rw [Controller.exec_handleSome_some]
          exact leavesAlone_validation_turn hObj hScope
            (by simpa [isOwn] using hOther) rfl rfl
  | outcomeChain =>
      unfold Controller.handle
      cases hObj : copy.validationIn «namespace'» name' with
      | none => exact hSame
      | some obj =>
          dsimp only
          rw [Controller.exec_handleSome_some]
          exact leavesAlone_receipt_turn hObj hScope
            (by simpa [isOwn] using hOther) rfl rfl
  | ephemeralTenant =>
      unfold Controller.handle
      cases hTenant : copy.tenantIn «namespace'» name' with
      | none => exact hSame
      | some t =>
          dsimp only
          rw [Controller.exec_handleSome_some]
          exact leavesAlone_tenant_turn hTenant
            (by simpa [isOwn] using hOther) rfl rfl
  | scanJob =>
      rw [isOwn, List.any_eq_false] at hOther
      unfold Controller.handle
      cases hScan : copy.scanJobIn «namespace'» name' with
      | none => exact hSame
      | some sj =>
          dsimp only
          rw [Controller.exec_handleSome_some]
          exact leavesAlone_scan_turn hEmpty hScan
            (fun o hMem hKey =>
              hOther o hMem (Stored.isNamed_iff.mpr hKey))
            rfl rfl

/- An own turn keeps the cluster sound. -/
theorem sound_of_ownTurn
    (hEmpty : PrintsEmptyList)
    (hSound : Sound «namespace» name w.cluster)
    {after : Cluster}
    (hTurn : OwnTurn ctx «namespace» name w after) :
    Sound «namespace» name after ∧
      Onward «namespace» name w.cluster after := by
  cases hTurn with
  | validation obj hObj hScope hAfter =>
      rw [← hAfter]
      exact validation_turn hSound hObj hScope rfl
  | tenant t hTenant hAfter =>
      exact tenant_turn hSound hTenant rfl hAfter
  | scanJob sj o hOwn hScan hAfter =>
      exact scan_turn hEmpty hSound hScan rfl hAfter
  | receipt obj hObj hScope hAfter =>
      exact receipt_turn hSound hObj hScope rfl hAfter

end Pipeline

end EngenhoPromessa

------------------------------------------------------------
-- Ranks
------------------------------------------------------------

namespace EngenhoPromessa

/- Before its end a phase is known by its rank. -/
theorem AkeylessImageValidationPhase.eq_of_rank_eq
    {phase phase' : AkeylessImageValidationPhase}
    (hRank : phase.rank = phase'.rank)
    (hOpen : 0 < phase.rank) :
    phase = phase' := by
  cases phase <;> cases phase' <;> simp_all [rank]

end EngenhoPromessa

------------------------------------------------------------
-- Runs That Leave A Validation In Peace
------------------------------------------------------------

namespace EngenhoPromessa

namespace Pipeline

open ScanJobController Platform

variable {σ : Type}
variable [Chrono] [SerdeJson]

/-
  The controllers look after the namespaces they are for, see
  the validation's own objects as they are, and nobody else
  changes these.
-/
def Undisturbed
    («namespace» name : String)
    (s : Platform σ) : Event → Prop
| .turn controller ctx age «namespace'» name' _ =>
    ctx.namespace.getD «namespace'» = «namespace'» ∧
      (age = 0 ∨
        isOwn «namespace» name s.cluster controller
          «namespace'» name' = false)
| .dispatch _ _ _ _ => True
| .change f =>
    LeavesAlone «namespace» name s.cluster (f s.cluster)

/- The context that a controller has its turn in. -/
def ctxOf? : Event → Option ReconcileCtx
| .turn _ ctx _ _ _ _ => some ctx
| .dispatch _ _ _ _ => none
| .change _ => none

variable [Blake3] [PromessaSerde] [ErrorText] [OutcomeSerde]
variable {«namespace» name : String}
variable {executor : ActionExecutor (StateM σ)}
variable {s : Platform σ} {e : Event}

omit [SerdeJson] [ErrorText] [OutcomeSerde]
  [PromessaSerde] [Chrono] [Blake3] in
theorem copy_zero (s : Platform σ) :
    s.copy 0 = some s.cluster := rfl

/- What a turn leaves behind is what its controller leaves. -/
theorem cluster_step_turn
    {controller : Controller}
    {ctx : ReconcileCtx}
    {age : Nat}
    {«namespace'» name' : String}
    {faults : List ApiFault}
    {copy : Cluster}
    (hCopy : s.copy age = some copy) :
    (s.step executor (.turn controller ctx age
        «namespace'» name' faults)).cluster =
      ((controller.handle ctx copy «namespace'» name').exec
        { cluster := s.cluster
          faults := faults
          calls := []
          published := [] }).2.cluster := by
  simp only [step, hCopy, replaceCluster]

variable (executor) in
/- A step is an own turn, or leaves the objects alone. -/
theorem step_cases
    (hEmpty : PrintsEmptyList)
    (hUndisturbed : Undisturbed «namespace» name s e) :
    LeavesAlone «namespace» name s.cluster
        (s.step executor e).cluster ∨
      ∃ (ctx : ReconcileCtx) (w : World),
        ctxOf? e = some ctx ∧ w.cluster = s.cluster ∧
          OwnTurn ctx «namespace» name w
            (s.step executor e).cluster := by
  have hSame := leavesAlone_refl «namespace» name s.cluster
  cases e with
  | turn controller ctx age «namespace'» name' faults =>
      cases hCopy : s.copy age with
      | none =>
          simp only [step, hCopy]
          exact .inl hSame
      | some copy =>
          rw [cluster_step_turn hCopy]
          let w : World :=
            { cluster := s.cluster
              faults := faults
              calls := []
              published := [] }
          cases hOwn : isOwn «namespace» name s.cluster
              controller «namespace'» name' with
          | false =>
              exact .inl (leavesAlone_handle (w := w) hEmpty
                copy hUndisturbed.1 hOwn)
          | true =>
              have hAge : age = 0 :=
                hUndisturbed.2.resolve_right (by simp [hOwn])
              rw [hAge] at hCopy
              obtain rfl : s.cluster = copy :=
                Option.some.inj hCopy
              exact (ownTurn_handle (w := w)
                hUndisturbed.1 hOwn).imp_right
                  (fun hTurn => ⟨ctx, w, rfl, rfl, hTurn⟩)
  | dispatch ctx age «namespace'» name' =>
      left
      cases hDelivered :
          s.delivered age «namespace'» name' with
      | none =>
          simp only [step, hDelivered]
          exact hSame
      | some obj =>
          simp only [step, hDelivered]
          rw [(dispatch_clusters executor ctx s obj).1]
          exact hSame
  | change f => exact .inl hUndisturbed

variable (executor) in
/- Every step keeps the cluster sound, and leads nothing back. -/
theorem sound_step
    (hEmpty : PrintsEmptyList)
    (hSound : Sound «namespace» name s.cluster)
    (hUndisturbed : Undisturbed «namespace» name s e) :
    Sound «namespace» name (s.step executor e).cluster ∧
      Onward «namespace» name s.cluster
        (s.step executor e).cluster := by
  rcases step_cases executor hEmpty hUndisturbed with
    hAlone | ⟨ctx, w, _, hCluster, hTurn⟩
  · exact sound_of_leavesAlone hSound hAlone
  · rw [← hCluster] at hSound ⊢
    exact sound_of_ownTurn hEmpty hSound hTurn

omit [Blake3] [PromessaSerde] [ErrorText] [OutcomeSerde] in
/- What lies between two scanning clusters is scanning. -/
theorem phaseOf_between
    {a b c : Cluster}
    (hab : Onward «namespace» name a b)
    (hbc : Onward «namespace» name b c)
    (hBefore : phaseOf «namespace» name a = .scanning)
    (hAfter : phaseOf «namespace» name c = .scanning) :
    phaseOf «namespace» name b = .scanning := by
  have hLe := hab.phase_le
  have hGe := hbc.phase_le
  rw [hBefore] at hLe
  rw [hAfter] at hGe
  refine AkeylessImageValidationPhase.eq_of_rank_eq
    (hLe.antisymm hGe) ?_
  exact Nat.lt_of_lt_of_le (Nat.succ_pos 3) hGe

omit [Blake3] [PromessaSerde] [ErrorText] [OutcomeSerde] in
/- Onward steps compose. -/
theorem onward_trans
    {a b c : Cluster}
    (hab : Onward «namespace» name a b)
    (hbc : Onward «namespace» name b c) :
    Onward «namespace» name a c where
  phase_le := hbc.phase_le.trans hab.phase_le
  decided hEnded := by
    rcases hab.decided hEnded with ⟨hPhase, hGate⟩
    rcases hbc.decided (hPhase ▸ hEnded) with
      ⟨hPhase', hGate'⟩
    exact ⟨hPhase'.trans hPhase, hGate'.trans hGate⟩
  tenant_kept hReady :=
    hbc.tenant_kept (hab.tenant_kept hReady)
  scans_le hBefore hAfter o' hMem := by
    have hBetween := phaseOf_between hab hbc hBefore hAfter
    rcases hbc.scans_le hBetween hAfter o' hMem with
      ⟨o, hThere, hKey, hRank⟩
    rcases hab.scans_le hBefore hBetween o hThere with
      ⟨p, hFirst, hKey', hRank'⟩
    exact ⟨p, hFirst, hKey'.trans hKey,
      hRank.trans hRank'⟩

/-
  An undisturbed run keeps the cluster sound and moves
  onward.
-/
theorem sound_run
    (hEmpty : PrintsEmptyList)
    (executor : ActionExecutor (StateM σ))
    (hSound : Sound «namespace» name s.cluster)
    {events : List Event}
    (hUndisturbed :
      Run.Allowed (step executor)
        (Undisturbed «namespace» name) s events) :
    let t := Run.run (step executor) s events
    Sound «namespace» name t.cluster ∧
      Onward «namespace» name s.cluster t.cluster :=
  ⟨Run.invariant_run
      (fun s => Sound «namespace» name s.cluster)
      (fun _ _ hInv hOk => (sound_step executor hEmpty hInv hOk).1)
      hSound hUndisturbed,
    Run.relates_run
      (fun s => Sound «namespace» name s.cluster)
      (fun s t => Onward «namespace» name s.cluster t.cluster)
      (fun s => onward_refl _ _ s.cluster)
      onward_trans
      (fun _ _ hInv hOk => (sound_step executor hEmpty hInv hOk).1)
      (fun _ _ hInv hOk => (sound_step executor hEmpty hInv hOk).2)
      hSound hUndisturbed⟩

end Pipeline

end EngenhoPromessa

------------------------------------------------------------
-- Turns That Lead On
------------------------------------------------------------

namespace EngenhoPromessa

namespace Pipeline

open ScanJobController Platform

variable {σ : Type}
variable [Chrono] [SerdeJson]

/-
  What a turn needs from outside is there: the service of a
  tenant's target, and the end of a running scan's job.
-/
def Supplied
    (ctx : ReconcileCtx)
    (cluster : Cluster)
    («namespace» name : String) : Controller → Prop
| .imageValidation => True
| .outcomeChain => True
| .ephemeralTenant =>
    EphemeralTenant.readinessIn cluster
        (EphemeralTenant.resolveDastTarget ctx.env) ≠
      .waiting
| .scanJob =>
    (cluster.scanJobIn «namespace» name).all
      (unblocked cluster) = true

instance
    (ctx : ReconcileCtx)
    (cluster : Cluster)
    («namespace» name : String) :
    (controller : Controller) →
      Decidable (Supplied ctx cluster «namespace» name
        controller)
| .imageValidation => .isTrue trivial
| .outcomeChain => .isTrue trivial
| .ephemeralTenant => inferInstanceAs (Decidable (_ ≠ _))
| .scanJob => inferInstanceAs (Decidable (_ = true))

/- A turn on the object of a key whose calls are answered. -/
def Serves
    (controller : Controller)
    (key : String × String)
    (s : Platform σ) : Event → Prop
| .turn controller' ctx age «namespace» name faults =>
    controller' = controller ∧ («namespace», name) = key ∧
      age = 0 ∧ faults = [] ∧
      Supplied ctx s.cluster «namespace» name controller
| .dispatch _ _ _ _ => False
| .change _ => False

instance
    (controller : Controller)
    (key : String × String)
    (s : Platform σ) :
    (e : Event) → Decidable (Serves controller key s e)
| .turn _ _ _ _ _ _ =>
    inferInstanceAs (Decidable (_ ∧ _ ∧ _ ∧ _ ∧ _))
| .dispatch _ _ _ _ => .isFalse id
| .change _ => .isFalse id

variable [Blake3] [PromessaSerde] [ErrorText] [OutcomeSerde]
variable {«namespace» name : String}
variable {executor : ActionExecutor (StateM σ)}
variable {s : Platform σ} {e : Event}

variable (executor) in
/-
  A turn that serves a controller is its turn on the stored
  object, with no fault.
-/
theorem step_of_serves
    {controller : Controller}
    {key : String × String}
    (hUndisturbed : Undisturbed «namespace» name s e)
    (hServes : Serves controller key s e) :
    ∃ (ctx : ReconcileCtx) (w : World),
      ctx.namespace.getD key.1 = key.1 ∧
        w.cluster = s.cluster ∧ w.faults = [] ∧
        Supplied ctx s.cluster key.1 key.2 controller ∧
        (s.step executor e).cluster =
          ((controller.handle ctx s.cluster key.1
            key.2).exec w).2.cluster := by
  cases e with
  | dispatch ctx age «namespace'» name' =>
      exact hServes.elim
  | change f => exact hServes.elim
  | turn controller' ctx age «namespace'» name' faults =>
      rcases hServes with ⟨rfl, rfl, rfl, rfl, hSupplied⟩
      exact ⟨ctx, _, hUndisturbed.1, rfl, rfl, hSupplied,
        cluster_step_turn (copy_zero s)⟩

variable (executor) in
/- The validation goes on if it is not held up. -/
theorem rank_of_serves
    (hSound : Sound «namespace» name s.cluster)
    (hUndisturbed : Undisturbed «namespace» name s e)
    (hServes :
      Serves .imageValidation («namespace», name) s e)
    (hServed : IsServed «namespace» name s.cluster)
    (hOpen : 0 < (phaseOf «namespace» name s.cluster).rank) :
    (phaseOf «namespace» name
        (s.step executor e).cluster).rank =
      (phaseOf «namespace» name s.cluster).rank - 1 := by
  rcases step_of_serves executor hUndisturbed
    hServes with
    ⟨ctx, w, hScope, hCluster, hQuiet, _, hStep⟩
  rcases hSound.validation with ⟨obj, hObj, _⟩
  have hPhase := phaseOf_eq hObj
  have hNotEnded : obj.currentPhase.isTerminal = false := by
    rw [← hPhase, Bool.eq_false_iff]
    intro hEnded
    rw [(AkeylessImageValidationPhase.rank_eq_zero_iff
      _).mpr hEnded] at hOpen
    exact Nat.lt_irrefl 0 hOpen
  rw [hStep, Controller.handle, hObj,
    Controller.exec_handleSome_some]
  exact rank_validation_turn hSound hServed hObj hScope
    hNotEnded hQuiet hCluster

/- A tenant that is there is ready after its turn. -/
theorem ready_of_serves
    (hSound : Sound «namespace» name s.cluster)
    (hUndisturbed : Undisturbed «namespace» name s e)
    (hServes :
      Serves .ephemeralTenant
        («namespace», tenantNameOf name) s e)
    (hThere :
      (tenantFind «namespace» name
        s.cluster.tenants).isSome = true) :
    tenantIsReady «namespace» name
      (s.step executor e).cluster = true := by
  rcases step_of_serves executor hUndisturbed
    hServes with
    ⟨ctx, w, _, hCluster, hQuiet, hSupplied, hStep⟩
  rcases Option.isSome_iff_exists.mp hThere with ⟨o, hFind⟩
  rcases Option.isSome_iff_exists.mp
    (isSome_readTenant (hSound.tenant_form o hFind)) with
    ⟨t, hRead⟩
  have hTenant :
      s.cluster.tenantIn «namespace» (tenantNameOf name) =
        some t :=
    Option.bind_eq_some_iff.mpr ⟨o, hFind, hRead⟩
  refine tenantIsReady_tenant_turn hSound hTenant hSupplied
    hQuiet hCluster ?_
  rw [hStep, Controller.handle, hTenant,
    Controller.exec_handleSome_some]

omit [Blake3] [PromessaSerde] [ErrorText] [OutcomeSerde] in
/- A scan job of the validation is found and can be read. -/
theorem exists_scanJobIn
    {cluster : Cluster}
    (hOrderly : Orderly «namespace» name cluster.scanJobs)
    {o : Stored ScanJobSpec}
    (hMem : o ∈ scans «namespace» name cluster.scanJobs) :
    ∃ sj, cluster.scanJobIn o.key.1 o.key.2 = some sj := by
  rcases List.mem_filter.mp hMem with ⟨hIn, hOwn⟩
  rw [isScan, Bool.and_eq_true, decide_eq_true_eq] at hOwn
  have hSome :
      (cluster.scanJobs.find? (fun q =>
        q.isNamed o.key.1 o.key.2)).isSome = true :=
    List.find?_isSome.mpr
      ⟨o, hIn, Stored.isNamed_iff.mpr rfl⟩
  rcases Option.isSome_iff_exists.mp hSome with ⟨p, hFind⟩
  have hKey : p.key = o.key := Stored.key_of_find? hFind
  obtain rfl : p = o :=
    eq_of_key_eq hOrderly (List.mem_of_find?_eq_some hFind)
      hIn hKey
  rcases Option.isSome_iff_exists.mp
    (hOrderly.readable p hIn hOwn.1) with ⟨sj, hRead⟩
  exact ⟨sj, Option.bind_eq_some_iff.mpr
    ⟨p, hFind, hRead⟩⟩

variable (executor) in
/- A scan job is one phase further after its turn. -/
theorem scanRank_of_serves
    (hEmpty : PrintsEmptyList)
    (hSound : Sound «namespace» name s.cluster)
    (hUndisturbed : Undisturbed «namespace» name s e)
    {o : Stored ScanJobSpec}
    (hThere :
      o ∈ scans «namespace» name s.cluster.scanJobs)
    (hServes : Serves .scanJob o.key s e)
    {o' : Stored ScanJobSpec}
    (hMem :
      o' ∈ scans «namespace» name
        (s.step executor e).cluster.scanJobs)
    (hKey : o'.key = o.key) :
    scanRank o' ≤ scanRank o - 1 := by
  rcases step_of_serves executor hUndisturbed
    hServes with
    ⟨ctx, w, _, hCluster, hQuiet, hSupplied, hStep⟩
  rcases exists_scanJobIn hSound.orderly hThere with
    ⟨sj, hScan⟩
  have hUnblocked : unblocked s.cluster sj = true := by
    rw [Supplied, hScan, Option.all_some] at hSupplied
    exact hSupplied
  rw [Controller.handle, hScan,
    Controller.exec_handleSome_some] at hStep
  rcases scanRank_scan_turn hEmpty hSound hScan
    hUnblocked hQuiet hCluster hStep.symm hMem hKey with
    ⟨p, hOld, hSame, hLess⟩
  obtain rfl : p = o :=
    eq_of_key_eq hSound.orderly
      (List.mem_filter.mp hOld).1
      (List.mem_filter.mp hThere).1 hSame
  exact hLess

end Pipeline

end EngenhoPromessa
