import EngenhoPromessa.Collections.Watched
import EngenhoPromessa.Controllers.GateSafety
import EngenhoPromessa.Controllers.OutcomeChain

/-
  Whether every terminal validation gets its own receipt,
  over the watch events the appender is delivered.

  The appender patches through the API handle it watches
  with. In the cluster-wide scope that handle names no
  namespace, and no receipt is ever stored.

  Key definitions include:
    * `OutcomeChain.issued`
    * `OutcomeChain.Delivery`
    * `OutcomeChain.step`
    * `OutcomeChain.GivesReceipt`

  Key theorems include:
    * `OutcomeChain.handle_eq_issued`
    * `OutcomeChain.givesReceipt_run_iff`
-/

------------------------------------------------------------
-- Issued Patches
------------------------------------------------------------

namespace EngenhoPromessa

namespace OutcomeChain

variable [Chrono] [Blake3]

/- A terminal validation without a receipt. -/
def CallsForReceipt (obj : AkeylessImageValidation) : Prop :=
  ∃ status phase, obj.status = some status ∧
    status.phase = some phase ∧ phase.isTerminal = true ∧
    status.outcomeReceiptRef = none

/- A status patch with the address it is sent to. -/
structure IssuedPatch where
  scope : ApiScope
  name : String
  receipt : OutcomeReceiptRef

namespace IssuedPatch

/- What the receipt writer sends. -/
def body (p : IssuedPatch) : Json :=
  .obj [("status", receiptPatch p.receipt)]

/- It can only be meant for this object. -/
structure IsAddressedTo
    (p : IssuedPatch)
    (obj : AkeylessImageValidation) : Prop where
  same_namespace :
    p.scope = .namespaced obj.metadata.namespaceOrDefault
  same_name : p.name = obj.metadata.nameAny

end IssuedPatch

/- The patch an object of an event leads to. -/
def issued
    (ctx : ReconcileCtx)
    (obj : AkeylessImageValidation) : Option IssuedPatch :=
  match obj.status.bind
      AkeylessImageValidationStatus.phase with
  | none => none
  | some phase =>
      if !phase.isTerminal then
        none
      else if (obj.status.bind
          AkeylessImageValidationStatus.outcomeReceiptRef
          ).isSome then
        none
      else
        some
          { scope := scopeOf ctx
            name := obj.metadata.nameAny
            receipt := buildReceipt ctx obj }

/- An event sends its patch, and nothing else. -/
theorem handle_eq_issued
    (ctx : ReconcileCtx)
    (obj : AkeylessImageValidation) :
    handle ctx obj =
      match issued ctx obj with
      | none => return ()
      | some p =>
          Fallible.unwrapOr ()
            (Api.patchValidationStatus p.scope p.name
              p.body) := by
  unfold handle issued
  rcases obj.status.bind
      AkeylessImageValidationStatus.phase with _ | phase
  · rfl
  · by_cases hTerminal : phase.isTerminal = true
    · by_cases hSigned : (obj.status.bind
          AkeylessImageValidationStatus.outcomeReceiptRef
          ).isSome = true
      · simp [hTerminal, hSigned]
      · simp [hTerminal, hSigned, IssuedPatch.body]
    · simp [hTerminal]

omit [Chrono] in
/- A patch is issued for a terminal, unsigned object only. -/
theorem issued_eq_some_iff
    {ctx : ReconcileCtx}
    {obj : AkeylessImageValidation}
    {p : IssuedPatch} :
    issued ctx obj = some p ↔
      CallsForReceipt obj ∧
        p =
          { scope := scopeOf ctx
            name := obj.metadata.nameAny
            receipt := buildReceipt ctx obj } := by
  unfold issued CallsForReceipt
  cases obj.status with
  | none => simp
  | some status =>
      cases hPhase : status.phase with
      | none => simp [hPhase]
      | some phase =>
          by_cases hTerminal : phase.isTerminal = true
          · cases hReceipt : status.outcomeReceiptRef with
            | none =>
                rw [and_iff_right ⟨status, phase, rfl, hPhase,
                  hTerminal, hReceipt⟩]
                simp only [Option.bind_some, hPhase,
                  hTerminal, hReceipt, Bool.not_true,
                  Option.isSome_none, Bool.false_eq_true,
                  if_false, Option.some.injEq]
                exact eq_comm
            | some receipt =>
                simp [hPhase, hTerminal, hReceipt]
          · simp [hPhase, hTerminal]

end OutcomeChain

end EngenhoPromessa

------------------------------------------------------------
-- Deliveries
------------------------------------------------------------

namespace EngenhoPromessa

namespace OutcomeChain

variable [Chrono] [Blake3]

/-
  What the watch yields next, an event or an error, and the
  cluster, the clock and the API server its handling meets.
  A namespaced watch yields objects of its namespace only.
-/
structure Delivery (ctx : ReconcileCtx) where
  item : Option (Watcher.Event AkeylessImageValidation)
  cluster : Cluster
  clock : ClockRead → DateTime
  fault : ApiFault
  in_scope :
    ∀ e obj ns, item = some e → e.subject = some obj →
      ctx.namespace = some ns →
      obj.metadata.namespace = some ns

namespace Delivery

variable {ctx : ReconcileCtx}

/- `Apply` and `InitApply` are handled, the others are not. -/
def handled
    (d : Delivery ctx) : Option AkeylessImageValidation :=
  d.item.bind Watcher.Event.written

/- The context of one delivery: its own clock. -/
def ctxAt (d : Delivery ctx) : ReconcileCtx :=
  { ctx with clock := d.clock }

omit [Chrono] [Blake3] in
/- Its object is in the namespace of the handle. -/
theorem scopeOf_ctxAt
    {d : Delivery ctx}
    {obj : AkeylessImageValidation}
    (hHandled : d.handled = some obj)
    (hScope : ctx.namespace.isSome = true) :
    scopeOf d.ctxAt =
      .namespaced obj.metadata.namespaceOrDefault := by
  rcases Option.bind_eq_some_iff.mp hHandled with
    ⟨e, hItem, hWritten⟩
  rcases Option.isSome_iff_exists.mp hScope with ⟨ns, hNs⟩
  have hObject :=
    d.in_scope e obj ns hItem
      (Watcher.Event.subject_of_written hWritten) hNs
  simp [scopeOf, ctxAt, hNs, ObjectMeta.namespaceOrDefault,
    hObject]

end Delivery

/- Between two deliveries, others may change the cluster. -/
def step
    (ctx : ReconcileCtx)
    (w : World)
    (d : Delivery ctx) : World :=
  let met :=
    { w with cluster := d.cluster, faults := [d.fault] }
  match d.handled with
  | none => met
  | some obj => ((handle d.ctxAt obj).exec met).2

/- The stored object of that address. -/
def storedFor
    (w : World)
    (obj : AkeylessImageValidation) :
    Option (Stored AkeylessImageValidationSpec) :=
  w.cluster.validations.find? (fun o =>
    o.isNamed obj.metadata.namespaceOrDefault
      obj.metadata.nameAny)

/- The receipt in a stored status. -/
def storedReceipt
    (o : Stored AkeylessImageValidationSpec) :
    Option OutcomeReceiptRef :=
  (outcomeReceiptRefRecord.optional.decode
    ((o.status.getD .null).members.lookup
      "outcomeReceiptRef")).join

/-
  What the receipt chain asks of the handling of a delivery:
  the patch goes to the event's own object, for a terminal
  one without a receipt, and if it was not refused and the
  object is still there, that object then has the receipt of
  its own fields.
-/
structure GivesReceipt
    (ctx : ReconcileCtx)
    (w : World)
    (d : Delivery ctx) : Prop where
  addressed :
    ∀ obj p, d.handled = some obj →
      issued d.ctxAt obj = some p →
      CallsForReceipt obj ∧ p.IsAddressedTo obj
  stored :
    ∀ obj o, d.handled = some obj → CallsForReceipt obj →
      d.fault ≠ .refused →
      d.cluster.validations.find? (fun o =>
        o.isNamed obj.metadata.namespaceOrDefault
          obj.metadata.nameAny) = some o →
      ∃ o', storedFor (step ctx w d) obj = some o' ∧
        storedReceipt o' = some (buildReceipt d.ctxAt obj)

end OutcomeChain

end EngenhoPromessa

------------------------------------------------------------
-- One Delivery
------------------------------------------------------------

namespace EngenhoPromessa

namespace OutcomeChain

variable [Chrono] [Blake3]

/- Handling a delivery sends the patch to the cluster met. -/
theorem cluster_step_of_issued
    {ctx : ReconcileCtx}
    (w : World)
    {d : Delivery ctx}
    {obj : AkeylessImageValidation}
    {p : IssuedPatch}
    (hHandled : d.handled = some obj)
    (hIssued : issued d.ctxAt obj = some p) :
    (step ctx w d).cluster =
      ((Api.patchValidationStatus p.scope p.name p.body).exec
        { w with
          cluster := d.cluster
          faults := [d.fault] }).2.cluster := by
  simp only [step, hHandled, handle_eq_issued, hIssued,
    Fallible.exec_unwrapOr_snd]

/- An unrefused patch is on the object it is addressed to. -/
theorem storedFor_step
    {ctx : ReconcileCtx}
    (w : World)
    {d : Delivery ctx}
    {obj : AkeylessImageValidation}
    {p : IssuedPatch}
    (hHandled : d.handled = some obj)
    (hIssued : issued d.ctxAt obj = some p)
    (hAddressed : p.IsAddressedTo obj)
    (hReached : d.fault ≠ .refused)
    {o : Stored AkeylessImageValidationSpec}
    (hStored :
      d.cluster.validations.find? (fun o =>
        o.isNamed obj.metadata.namespaceOrDefault
          obj.metadata.nameAny) = some o) :
    storedFor (step ctx w d) obj =
      some (o.patchStatus p.body) := by
  rcases Stored.find?_patchNamed p.body hStored with
    ⟨patched, hPatch, hFind⟩
  have hFault :
      ({ w with
        cluster := d.cluster
        faults := [d.fault] } : World).fault 0 ≠
          .refused := hReached
  rw [storedFor, cluster_step_of_issued w hHandled hIssued,
    hAddressed.same_namespace, hAddressed.same_name,
    Api.patchValidationStatus, Kube.cluster_exec_call,
    if_neg hFault]
  simp only [hPatch]
  exact hFind

omit [Blake3] in
/- A stored patch is read back as its receipt. -/
theorem storedReceipt_patchStatus
    (o : Stored AkeylessImageValidationSpec)
    (p : IssuedPatch) :
    storedReceipt (o.patchStatus p.body) =
      some p.receipt := by
  have hRead :=
    AkeylessImageValidationStatus.decode_receipt_of_merge
      o.status p.receipt
  have hStatus :
      (o.patchStatus p.body).status =
        Json.mergeMember o.status
          (some (receiptPatch p.receipt)) := rfl
  rw [storedReceipt, hStatus, hRead]
  rfl

/- In the scope of one namespace, every delivery is fine. -/
theorem givesReceipt_of_namespaced
    {ctx : ReconcileCtx}
    (hScope : ctx.namespace.isSome = true)
    (w : World)
    (d : Delivery ctx) :
    GivesReceipt ctx w d := by
  have hAddressed :
      ∀ obj p, d.handled = some obj →
        issued d.ctxAt obj = some p →
        CallsForReceipt obj ∧ p.IsAddressedTo obj := by
    intro obj p hHandled hIssued
    rcases issued_eq_some_iff.mp hIssued with ⟨hCalls, rfl⟩
    exact ⟨hCalls, d.scopeOf_ctxAt hHandled hScope, rfl⟩
  refine ⟨hAddressed, ?_⟩
  intro obj o hHandled hCalls hReached hStored
  have hIssued := issued_eq_some_iff.mpr
    ⟨hCalls, (rfl : (⟨scopeOf d.ctxAt, _, _⟩ : IssuedPatch) =
      _)⟩
  refine ⟨_, storedFor_step w hHandled hIssued
    (hAddressed obj _ hHandled hIssued).2 hReached hStored,
    ?_⟩
  rw [storedReceipt_patchStatus]

/- Where nothing calls for a receipt, none is missing. -/
theorem givesReceipt_of_not_callsForReceipt
    {ctx : ReconcileCtx}
    (w : World)
    {d : Delivery ctx}
    (hNone :
      ∀ obj, d.handled = some obj → ¬ CallsForReceipt obj) :
    GivesReceipt ctx w d where
  addressed obj _ hHandled hIssued :=
    absurd (issued_eq_some_iff.mp hIssued).1
      (hNone obj hHandled)
  stored obj _ hHandled hCalls :=
    absurd hCalls (hNone obj hHandled)

/- A cluster-wide handle addresses a patch to no object. -/
theorem not_givesReceipt_of_all
    {ctx : ReconcileCtx}
    (hScope : ctx.namespace = none)
    (w : World)
    {d : Delivery ctx}
    {obj : AkeylessImageValidation}
    (hHandled : d.handled = some obj)
    (hCalls : CallsForReceipt obj) :
    ¬ GivesReceipt ctx w d := by
  intro hGives
  have hTo := (hGives.addressed obj _ hHandled
    (issued_eq_some_iff.mpr ⟨hCalls, rfl⟩)).2.same_namespace
  simp [scopeOf, Delivery.ctxAt, hScope] at hTo

/- And it stores no receipt at all. -/
theorem validations_step_of_all
    {ctx : ReconcileCtx}
    (hScope : ctx.namespace = none)
    (w : World)
    (d : Delivery ctx) :
    (step ctx w d).cluster.validations =
      d.cluster.validations := by
  cases hHandled : d.handled with
  | none => simp [step, hHandled]
  | some obj =>
      simp only [step, hHandled]
      rcases exec_handle_validations d.ctxAt obj
        { w with
          cluster := d.cluster
          faults := [d.fault] } with
        hSame | ⟨_, ns, hNs, _⟩
      · exact hSame
      · simp [Delivery.ctxAt, hScope] at hNs

end OutcomeChain

end EngenhoPromessa

------------------------------------------------------------
-- Runs
------------------------------------------------------------

namespace EngenhoPromessa

namespace OutcomeChain

variable [Chrono] [Blake3]

/-
  All deliveries of a run are handled as they should exactly
  if the appender watches one namespace, or nothing it is
  delivered calls for a receipt.
-/
theorem givesReceipt_run_iff
    (ctx : ReconcileCtx)
    (w : World)
    (deliveries : List (Delivery ctx)) :
    Run.Allowed (step ctx) (GivesReceipt ctx) w deliveries ↔
      ctx.namespace.isSome = true ∨
        ∀ d ∈ deliveries, ∀ obj, d.handled = some obj →
          ¬ CallsForReceipt obj := by
  by_cases hScope : ctx.namespace.isSome = true
  · have hAll :=
      Run.allowed_of_invariant (fun _ => True)
        (fun _ _ _ _ => trivial)
        (fun v d _ _ =>
          givesReceipt_of_namespaced hScope v d)
        trivial
        (Run.allowed_true (step ctx) w deliveries)
    exact iff_of_true hAll (Or.inl hScope)
  · have hNone : ctx.namespace = none := by
      simpa using hScope
    rw [or_iff_right hScope,
      ← Run.allowed_iff_forall (step ctx) w]
    refine Run.allowed_congr (fun _ => True)
      (fun _ _ _ => trivial) ?_ trivial deliveries
    intro v d _
    constructor
    · intro hGives obj hHandled hCalls
      exact not_givesReceipt_of_all hNone v hHandled hCalls
        hGives
    · exact givesReceipt_of_not_callsForReceipt v

end OutcomeChain

namespace Reference

/- A controller of the whole cluster. -/
def clusterCtx : ReconcileCtx :=
  { ctx with «namespace» := none }

/- A passed validation, as it is stored. -/
def storedPassed : Stored AkeylessImageValidationSpec where
  metadata := metadata "auth-00"
  spec := validationSpec
  status := some (.obj [("phase", .str "Passed")])

/- It is reported by the cluster-wide watch. -/
def passedDelivery :
    OutcomeChain.Delivery clusterCtx where
  item := some (.apply (validationAt .passed))
  cluster := { emptyCluster with
    validations := [storedPassed] }
  clock := fun _ => second 0
  fault := .none
  in_scope := by simp [clusterCtx]

/- A world where nothing has happened. -/
def freshWorld : World where
  cluster := emptyCluster
  faults := []
  calls := []
  published := []

end Reference

namespace OutcomeChain

/- Its receipt is sent to no namespace, and is not stored. -/
theorem not_givesReceipt_passedDelivery :
    ¬ Run.Allowed (step Reference.clusterCtx)
        (GivesReceipt Reference.clusterCtx)
        Reference.freshWorld [Reference.passedDelivery] ∧
      (step Reference.clusterCtx Reference.freshWorld
        Reference.passedDelivery).cluster.validations =
          [Reference.storedPassed] := by
  constructor
  · rintro ⟨hGives, _⟩
    have hCalls :
        CallsForReceipt (Reference.validationAt .passed) :=
      ⟨_, _, rfl, rfl, rfl, rfl⟩
    exact not_givesReceipt_of_all rfl Reference.freshWorld
      rfl hCalls hGives
  · exact validations_step_of_all rfl Reference.freshWorld
      Reference.passedDelivery

end OutcomeChain

end EngenhoPromessa
