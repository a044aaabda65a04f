import EngenhoPromessa.Controllers.ActionDispatcher
import EngenhoPromessa.Controllers.OutcomeChain
import EngenhoPromessa.Controllers.PhaseStep
import EngenhoPromessa.Effect.Run

/-
  Runs of the controllers around one validation.

  Every version of its status that was ever stored is kept:
  a step may act on a copy of any age. What is around the
  validation in the cluster, and what becomes of the calls,
  is given anew with every step.

  Key definitions include:
    * `RunState`
    * `RunState.Event`
    * `RunState.step`
    * `RunState.Steps`
    * `RunState.Writes`

  Key theorems include:
    * `RunState.step_stored`
    * `RunState.isReadable_step`
-/

------------------------------------------------------------
-- States And Steps
------------------------------------------------------------

namespace EngenhoPromessa

/-
  One validation as stored, its older statuses, and what the
  dispatcher did for it.
-/
structure RunState where
  metadata : ObjectMeta
  spec : AkeylessImageValidationSpec
  stored : Option Json
  earlier : List (Option Json)
  dedupe : ActionDispatcher.DedupeSet
  executed : List TypedAction

namespace RunState

/- A validation as it is created, without a status. -/
def created
    (metadata : ObjectMeta)
    (spec : AkeylessImageValidationSpec) : RunState where
  metadata := metadata
  spec := spec
  stored := none
  earlier := []
  dedupe := .empty
  executed := []

/- All versions of the status, the newest first. -/
def versions (s : RunState) : List (Option Json) :=
  s.stored :: s.earlier

/- The validation with one of its statuses. -/
def objectAt
    (s : RunState)
    (status : Option Json) :
    Stored AkeylessImageValidationSpec where
  metadata := s.metadata
  spec := s.spec
  status := status

/- The cluster with the validation as it is stored now. -/
def clusterIn
    (s : RunState)
    (surroundings : Cluster) : Cluster :=
  { surroundings with validations := [s.objectAt s.stored] }

/-
  The world of a turn: the validation alone in what
  surrounds it.
-/
def world
    (s : RunState)
    (surroundings : Cluster)
    (faults : List ApiFault) : World where
  cluster := s.clusterIn surroundings
  faults := faults
  calls := []
  published := []

/- Take the stored status from what a step left behind. -/
def write (s : RunState) (w : World) : RunState :=
  match w.cluster.validations with
  | [] => s
  | o :: _ =>
      { s with
        stored := o.status
        earlier := s.stored :: s.earlier }

/-
  A turn of the controller or of the receipt writer on a
  copy of some age, or a dispatch.
-/
inductive Event where
  | reconcile
      (ctx : ReconcileCtx)
      (age : Nat)
      (surroundings : Cluster)
      (faults : List ApiFault)
  | outcomeChain
      (ctx : ReconcileCtx)
      (age : Nat)
      (surroundings : Cluster)
      (faults : List ApiFault)
  | dispatch (age : Nat)

variable [Chrono]

/- The copy a controller holds that is this many versions old. -/
def copy
    (s : RunState)
    (age : Nat) : Option AkeylessImageValidation :=
  s.versions[age]?.bind (fun status =>
    Api.readValidation (s.objectAt status))

/- The status stored now, or the default if there is none. -/
def status
    (s : RunState) : AkeylessImageValidationStatus :=
  (AkeylessImageValidationStatus.ofStored
    s.stored).join.getD .default

/- The phase of the validation; none counts as pending. -/
def phase
    (s : RunState) : AkeylessImageValidationPhase :=
  s.status.phase.getD .pending

@[simp] theorem phase_created
    (metadata : ObjectMeta)
    (spec : AkeylessImageValidationSpec) :
    (created metadata spec).phase = .pending := rfl

variable [SerdeJson] [Blake3] [PromessaSerde]

/- A turn decides on its copy and patches the stored object. -/
def step (s : RunState) (e : Event) : RunState :=
  match e with
  | .reconcile ctx age surroundings faults =>
      match s.copy age with
      | none => s
      | some obj =>
          s.write ((ImageValidation.reconcile ctx obj).exec
            (s.world surroundings faults)).2
  | .outcomeChain ctx age surroundings faults =>
      match s.copy age with
      | none => s
      | some obj =>
          s.write ((OutcomeChain.handle ctx obj).exec
            (s.world surroundings faults)).2
  | .dispatch age =>
      match s.copy age with
      | none => s
      | some obj =>
          let (dedupe, action) :=
            ActionDispatcher.handle s.dedupe obj
          { s with
            dedupe := dedupe
            executed := s.executed ++ action.toList }

/- The ways a step can go, with the copy it acts on. -/
inductive Steps (s : RunState) : Event → RunState → Prop where
  | skip (e : Event) : Steps s e s
  | reconcile
      {ctx : ReconcileCtx}
      {age : Nat}
      {surroundings : Cluster}
      {faults : List ApiFault}
      {obj : AkeylessImageValidation}
      (hCopy : s.copy age = some obj) :
      Steps s (.reconcile ctx age surroundings faults)
        (s.write ((ImageValidation.reconcile ctx obj).exec
          (s.world surroundings faults)).2)
  | outcomeChain
      {ctx : ReconcileCtx}
      {age : Nat}
      {surroundings : Cluster}
      {faults : List ApiFault}
      {obj : AkeylessImageValidation}
      (hCopy : s.copy age = some obj) :
      Steps s (.outcomeChain ctx age surroundings faults)
        (s.write ((OutcomeChain.handle ctx obj).exec
          (s.world surroundings faults)).2)
  | dispatch
      {age : Nat}
      {obj : AkeylessImageValidation}
      (hCopy : s.copy age = some obj) :
      Steps s (.dispatch age)
        { s with
          dedupe := (ActionDispatcher.handle s.dedupe obj).1
          executed :=
            s.executed ++
              (ActionDispatcher.handle s.dedupe
                obj).2.toList }

/- A step does what `Steps` says. -/
theorem steps_step (s : RunState) (e : Event) :
    Steps s e (s.step e) := by
  cases e with
  | reconcile ctx age surroundings faults =>
      simp only [step]
      cases hCopy : s.copy age with
      | none => exact .skip _
      | some obj => exact .reconcile hCopy
  | outcomeChain ctx age surroundings faults =>
      simp only [step]
      cases hCopy : s.copy age with
      | none => exact .skip _
      | some obj => exact .outcomeChain hCopy
  | dispatch age =>
      simp only [step]
      cases hCopy : s.copy age with
      | none => exact .skip _
      | some obj => exact .dispatch hCopy

end RunState

end EngenhoPromessa

------------------------------------------------------------
-- Readable Versions
------------------------------------------------------------

namespace EngenhoPromessa

namespace RunState

variable [Chrono]

/-
  The status decodes, and what it decodes to can be written
  back by a merge patch.
-/
def IsReadableStatus (stored : Option Json) : Prop :=
  ∃ old, AkeylessImageValidationStatus.ofStored stored =
      some old ∧
    (old.getD .default).Writable

/- Every version of the status reads. -/
def IsReadable (s : RunState) : Prop :=
  ∀ stored ∈ s.versions, IsReadableStatus stored

/- A created validation reads. -/
theorem isReadable_created
    (metadata : ObjectMeta)
    (spec : AkeylessImageValidationSpec) :
    (created metadata spec).IsReadable := by
  intro stored hStored
  obtain rfl : stored = none := by
    simpa [created, versions] using hStored
  refine ⟨none, rfl, ?_⟩
  intro g hGate
  simp [AkeylessImageValidationStatus.default] at hGate

/- The stored status reads as the run's status. -/
theorem ofStored_stored
    {s : RunState}
    (hReadable : s.IsReadable) :
    ∃ old, AkeylessImageValidationStatus.ofStored s.stored =
        some old ∧
      old.getD .default = s.status ∧
      s.status.Writable := by
  rcases hReadable s.stored (List.Mem.head _) with
    ⟨old, hOld, hWritable⟩
  have hStatus : old.getD .default = s.status := by
    rw [status, hOld, Option.join_some]
  refine ⟨old, hOld, hStatus, ?_⟩
  rwa [← hStatus]

/- What is known of a copy: some version decoded to it. -/
theorem copy_eq_some
    {s : RunState}
    {age : Nat}
    {obj : AkeylessImageValidation}
    (hCopy : s.copy age = some obj) :
    obj.metadata = s.metadata ∧ obj.spec = s.spec ∧
      ∃ stored ∈ s.versions,
        AkeylessImageValidationStatus.ofStored stored =
          some obj.status := by
  rcases Option.bind_eq_some_iff.mp hCopy with
    ⟨stored, hStored, hRead⟩
  rcases Option.map_eq_some_iff.mp hRead with
    ⟨old, hOld, rfl⟩
  exact ⟨rfl, rfl, stored, List.mem_of_getElem? hStored,
    hOld⟩

/- A copy's status can be written. -/
theorem writable_copy
    {s : RunState}
    (hReadable : s.IsReadable)
    {age : Nat}
    {obj : AkeylessImageValidation}
    (hCopy : s.copy age = some obj) :
    obj.statusOrDefault.Writable := by
  rcases copy_eq_some hCopy with
    ⟨_, _, stored, hMem, hStored⟩
  rcases hReadable stored hMem with ⟨old, hOld, hWritable⟩
  obtain rfl : old = obj.status :=
    Option.some.inj (hOld.symm.trans hStored)
  exact hWritable

/- The freshest copy shows the status stored now. -/
theorem copy_zero_eq_some
    {s : RunState}
    {obj : AkeylessImageValidation}
    (hCopy : s.copy 0 = some obj) :
    obj.statusOrDefault = s.status ∧
      obj.currentPhase = s.phase := by
  rcases Option.map_eq_some_iff.mp hCopy with
    ⟨old, hOld, rfl⟩
  have hStatus : s.status = old.getD .default := by
    rw [status]
    exact congrArg (fun o => o.join.getD .default) hOld
  refine ⟨hStatus.symm, ?_⟩
  rw [phase, hStatus]
  cases old with
  | none => rfl
  | some st => rfl

end RunState

end EngenhoPromessa

------------------------------------------------------------
-- What A Step Writes
------------------------------------------------------------

namespace EngenhoPromessa

namespace RunState

open AkeylessImageValidationStatus

variable [Chrono] [SerdeJson] [Blake3] [PromessaSerde]

/-
  What a step may store: the answer of a phase handler for
  its copy, merged over the stored status, or a receipt for
  a copy in a terminal phase, added to it.
-/
inductive Writes
    (s : RunState) :
    Event → AkeylessImageValidationStatus → Prop where
  | advance
      {ctx : ReconcileCtx}
      {age : Nat}
      {surroundings : Cluster}
      {faults : List ApiFault}
      {obj : AkeylessImageValidation}
      {new : AkeylessImageValidationStatus}
      (hCopy : s.copy age = some obj)
      (hAdvance :
        ImageValidation.Advance ctx
          (s.clusterIn surroundings) obj new) :
      Writes s (.reconcile ctx age surroundings faults)
        (s.status.mergeOver new)
  | receipt
      {ctx : ReconcileCtx}
      {age : Nat}
      {surroundings : Cluster}
      {faults : List ApiFault}
      {obj : AkeylessImageValidation}
      (hCopy : s.copy age = some obj)
      (hTerminal : obj.currentPhase.isTerminal = true)
      (receipt : OutcomeReceiptRef) :
      Writes s (.outcomeChain ctx age surroundings faults)
        { s.status with outcomeReceiptRef := some receipt }

omit [Chrono] [SerdeJson] [Blake3] [PromessaSerde] in
theorem stored_write_of_eq
    (s : RunState)
    {w : World}
    (hSame : w.cluster.validations = [s.objectAt s.stored]) :
    (s.write w).stored = s.stored := by
  rw [write, hSame]
  rfl

omit [Chrono] [SerdeJson] [Blake3] [PromessaSerde] in
/- A turn that patched the validation merges the patch in. -/
theorem stored_write_of_patchNamed
    (s : RunState)
    {w : World}
    {«namespace» name : String}
    {patch : Json}
    (hPatch :
      Stored.patchNamed «namespace» name patch
          [s.objectAt s.stored] =
        some w.cluster.validations) :
    (s.write w).stored =
      Json.mergeMember s.stored (patch.get? "status") := by
  rw [Stored.patchNamed] at hPatch
  split at hPatch
  · rw [write, ← Option.some.inj hPatch]
    rfl
  · simp [Stored.patchNamed] at hPatch

/- A handler only answers with what can be written back. -/
theorem writable_of_advance
    {ctx : ReconcileCtx}
    {cluster : Cluster}
    {obj : AkeylessImageValidation}
    {new : AkeylessImageValidationStatus}
    (hAdvance : ImageValidation.Advance ctx cluster obj new)
    (hObj : obj.statusOrDefault.Writable) :
    new.Writable := by
  cases hAdvance with
  | provisionFirst hPhase => exact hObj
  | provisionAgain hPhase hTenant => exact hObj
  | scan summaries tenant hPhase hTenant hReady hSome =>
      exact hObj
  | watch children hPhase hChildren hSome => exact hObj
  | aggregate children hPhase hChildren => exact hObj
  | attest hPhase => exact hObj
  | gate children hPhase hChildren =>
      intro g hGate
      rw [← Option.some.inj hGate]
      exact action_gateDecisionOf_ne_null ctx _ obj children

/- A step keeps the stored status or writes a listed one. -/
theorem step_stored
    {s : RunState}
    (hReadable : s.IsReadable)
    (e : Event) :
    (s.step e).stored = s.stored ∨
      ∃ st, Writes s e st ∧
        ofStored (s.step e).stored = some (some st) := by
  rcases ofStored_stored hReadable with
    ⟨old, hOld, hStatus, _⟩
  have hSteps := steps_step s e
  generalize s.step e = s' at hSteps ⊢
  cases hSteps with
  | skip => exact Or.inl rfl
  | @reconcile ctx age surroundings faults obj hCopy =>
      rcases ImageValidation.exec_reconcile_validations
        ctx obj (s.world surroundings faults) with
        hSame | ⟨new, hAdvance, hPatch⟩
      · exact Or.inl (stored_write_of_eq s hSame)
      · right
        refine ⟨_, .advance hCopy hAdvance, ?_⟩
        rw [stored_write_of_patchNamed s hPatch, ← hStatus]
        exact ofStored_merge
          (writable_of_advance hAdvance
            (writable_copy hReadable hCopy)) hOld
  | @outcomeChain ctx age surroundings faults obj hCopy =>
      rcases OutcomeChain.exec_handle_validations ctx obj
        (s.world surroundings faults) with
        hSame | ⟨hTerminal, ns, _, hPatch⟩
      · exact Or.inl (stored_write_of_eq s hSame)
      · right
        refine ⟨_, .receipt hCopy hTerminal
          (OutcomeChain.buildReceipt ctx obj), ?_⟩
        rw [stored_write_of_patchNamed s hPatch, ← hStatus]
        exact ofStored_merge_receipt _ hOld
  | dispatch hCopy => exact Or.inl rfl

end RunState

end EngenhoPromessa

------------------------------------------------------------
-- What A Run Keeps
------------------------------------------------------------

namespace EngenhoPromessa

namespace AkeylessImageValidationStatus

/- A merge of two statuses can be written back again. -/
theorem writable_mergeOver
    {old new : AkeylessImageValidationStatus}
    (hOld : old.Writable)
    (hNew : new.Writable) :
    (old.mergeOver new).Writable := by
  intro g hGate
  cases hNewGate : new.gateDecision with
  | none =>
      apply hOld g
      simpa [mergeOver, hNewGate] using hGate
  | some new' =>
      obtain rfl : new'.mergeOver old.gateDecision = g := by
        simpa [mergeOver, hNewGate] using hGate
      exact Json.mergePatch_ne_null (hNew new' hNewGate) _

end AkeylessImageValidationStatus

namespace RunState

open AkeylessImageValidationStatus

variable [Chrono]

omit [Chrono] in
/- A write keeps metadata, records and older versions, -/
theorem write_frame (s : RunState) (w : World) :
    (s.write w).metadata = s.metadata ∧
      (s.write w).dedupe = s.dedupe ∧
      (s.write w).executed = s.executed ∧
      ∀ stored ∈ (s.write w).versions,
        stored = (s.write w).stored ∨
          stored ∈ s.versions := by
  unfold write
  cases w.cluster.validations with
  | nil => exact ⟨rfl, rfl, rfl, fun _ hMem => Or.inr hMem⟩
  | cons o os =>
      refine ⟨rfl, rfl, rfl, ?_⟩
      intro stored hMem
      exact List.mem_cons.mp hMem

variable [SerdeJson] [Blake3] [PromessaSerde]

/- A step adds at most one version and keeps the object. -/
theorem step_frame (s : RunState) (e : Event) :
    (s.step e).metadata = s.metadata ∧
      ∀ stored ∈ (s.step e).versions,
        stored = (s.step e).stored ∨
          stored ∈ s.versions := by
  have hSteps := steps_step s e
  generalize s.step e = s' at hSteps ⊢
  cases hSteps with
  | skip => exact ⟨rfl, fun _ hMem => Or.inr hMem⟩
  | reconcile hCopy =>
      rcases write_frame s _ with
        ⟨hMetadata, _, _, hVersions⟩
      exact ⟨hMetadata, hVersions⟩
  | outcomeChain hCopy =>
      rcases write_frame s _ with
        ⟨hMetadata, _, _, hVersions⟩
      exact ⟨hMetadata, hVersions⟩
  | dispatch hCopy => exact ⟨rfl, fun _ hMem => Or.inr hMem⟩

omit [Chrono] [SerdeJson] [Blake3] [PromessaSerde] in
/- and the spec. -/
theorem spec_write (s : RunState) (w : World) :
    (s.write w).spec = s.spec := by
  unfold write
  cases w.cluster.validations with
  | nil => rfl
  | cons o os => rfl

/- A step keeps the spec. -/
theorem spec_step (s : RunState) (e : Event) :
    (s.step e).spec = s.spec := by
  have hSteps := steps_step s e
  generalize s.step e = s' at hSteps ⊢
  cases hSteps with
  | skip => rfl
  | reconcile hCopy => exact spec_write s _
  | outcomeChain hCopy => exact spec_write s _
  | dispatch hCopy => rfl

/-
  A step leaves the dispatcher alone, or it delivers a gate
  decision the dispatcher has not seen.
-/
theorem step_dedupe (s : RunState) (e : Event) :
    (s.step e).dedupe = s.dedupe ∧
        (s.step e).executed = s.executed ∨
      ∃ age obj uid g,
        e = .dispatch age ∧ s.copy age = some obj ∧
        obj.metadata.uid = some uid ∧
        obj.status.bind gateDecision = some g ∧
        ActionDispatcher.keyOf uid g ∉ s.dedupe.seen ∧
        (s.step e).dedupe =
          ⟨s.dedupe.seen ++
            [ActionDispatcher.keyOf uid g]⟩ ∧
        (s.step e).executed = s.executed ++
          (PromessaSerde.actionFromValue g.action).toList := by
  have hSteps := steps_step s e
  generalize s.step e = s' at hSteps ⊢
  cases hSteps with
  | skip => exact Or.inl ⟨rfl, rfl⟩
  | reconcile hCopy =>
      rcases write_frame s _ with
        ⟨_, hDedupe, hExecuted, _⟩
      exact Or.inl ⟨hDedupe, hExecuted⟩
  | outcomeChain hCopy =>
      rcases write_frame s _ with
        ⟨_, hDedupe, hExecuted, _⟩
      exact Or.inl ⟨hDedupe, hExecuted⟩
  | @dispatch age obj hCopy =>
      rcases ActionDispatcher.handle_eq_or s.dedupe obj
        with hSkip | ⟨uid, g, hGate, hNew, hRun, hUid⟩
      · left
        simp [hSkip]
      · right
        refine ⟨age, obj, uid, g, rfl, hCopy, hUid, hGate,
          hNew, ?_, ?_⟩
        · simp [hRun]
        · simp [hRun]

/- What a step writes can be written. -/
theorem writable_of_writes
    {s : RunState}
    (hReadable : s.IsReadable)
    {e : Event}
    {st : AkeylessImageValidationStatus}
    (hWrites : Writes s e st) :
    st.Writable := by
  rcases ofStored_stored hReadable with ⟨_, _, _, hStatus⟩
  cases hWrites with
  | advance hCopy hAdvance =>
      exact writable_mergeOver hStatus
        (writable_of_advance hAdvance
          (writable_copy hReadable hCopy))
  | receipt hCopy hTerminal receipt => exact hStatus

/- A step keeps every version readable. -/
theorem isReadable_step
    {s : RunState}
    (hReadable : s.IsReadable)
    (e : Event) :
    (s.step e).IsReadable := by
  intro stored hMem
  rcases (step_frame s e).2 stored hMem with hNew | hOld
  · rcases step_stored hReadable e with
      hSame | ⟨st, hWrites, hStored⟩
    · rw [hNew, hSame]
      exact hReadable s.stored (List.Mem.head _)
    · rw [hNew]
      exact ⟨some st, hStored,
        writable_of_writes hReadable hWrites⟩
  · exact hReadable stored hOld

/- A step keeps the status or writes a listed one. -/
theorem step_status
    {s : RunState}
    (hReadable : s.IsReadable)
    (e : Event) :
    (s.step e).status = s.status ∨
      ∃ st, Writes s e st ∧ (s.step e).status = st := by
  rcases step_stored hReadable e with
    hSame | ⟨st, hWrites, hStored⟩
  · left
    rw [status, hSame, status]
  · have hStatus : (s.step e).status = st := by
      rw [status, hStored]
      rfl
    exact Or.inr ⟨st, hWrites, hStatus⟩

/- In a run every version reads. -/
theorem isReadable_run
    (metadata : ObjectMeta)
    (spec : AkeylessImageValidationSpec)
    (events : List Event) :
    (Run.run step (created metadata spec)
      events).IsReadable :=
  Run.invariant_run IsReadable
    (fun _ e hReadable _ => isReadable_step hReadable e)
    (isReadable_created metadata spec)
    (Run.allowed_true step _ events)

end RunState

end EngenhoPromessa
