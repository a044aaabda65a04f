import EngenhoPromessa.Controllers.AnsweredCalls
import EngenhoPromessa.Controllers.StaleReads

/-
  A validation comes to its end.

  What a phase waits for is stated phase by phase. A turn
  that finds it, and whose calls are answered, leads one
  phase further; the other turns, whatever becomes of them,
  lead back only if scans and tenant are taken away. Six
  such turns are enough.

  Key definitions include:
    * `ImageValidation.unblocked`
    * `AkeylessImageValidationPhase.rank`
    * `RunState.Favourable`
    * `RunState.KeepsGround`

  Key theorems include:
    * `ImageValidation.achieves_nextStatus`
    * `RunState.rank_step_of_favourable`
    * `RunState.terminal_of_favourable`
-/

------------------------------------------------------------
-- What A Phase Waits For
------------------------------------------------------------

namespace EngenhoPromessa

theorem all_eq_true_iff
    {α : Type}
    {p : α → Bool}
    {o : Option α} :
    o.all p = true ↔ ∀ a ∈ o, p a = true := by
  cases o <;> simp

theorem any_eq_true_iff
    {α : Type}
    {p : α → Bool}
    {o : Option α} :
    o.any p = true ↔ ∃ a, o = some a ∧ p a = true := by
  cases o <;> simp

namespace ImageValidation

open RunState

variable [Chrono] [SerdeJson]

/- Every scan job of the namespace can be read. -/
def scansReadable
    («namespace» : String)
    (cluster : Cluster) : Bool :=
  cluster.scanJobs.all (fun o =>
    o.metadata.namespaceOrDefault ≠ «namespace» ||
      (Api.readScanJob o).isSome)

/- A list of scan jobs reads when each of them does. -/
theorem scansReadable_iff
    {«namespace» : String}
    {cluster : Cluster} :
    scansReadable «namespace» cluster = true ↔
      ∀ o ∈ cluster.scanJobs,
        o.metadata.namespaceOrDefault = «namespace» →
          (Api.readScanJob o).isSome = true := by
  simp [scansReadable, ← imp_iff_not_or]

/- There is a tenant to scan against, and it can be read. -/
def tenantReady
    (cluster : Cluster)
    (obj : AkeylessImageValidation) : Bool :=
  ((tenantIn cluster obj).bind Api.readTenant).any isReady

/- There are child scan jobs, and all have come to an end. -/
def childrenFinished
    (cluster : Cluster)
    (obj : AkeylessImageValidation) : Bool :=
  (childrenIn cluster obj).any (fun children =>
    !children.isEmpty && children.all isFinished)

/- The cluster has what the phase of the object waits for. -/
def unblocked
    (cluster : Cluster)
    (obj : AkeylessImageValidation) : Bool :=
  let ns := obj.metadata.namespaceOrDefault
  match obj.currentPhase with
  | .pending =>
      (cluster.tenants.find? (fun o =>
        o.isNamed ns (tenantName obj))).all
          (fun o => (Api.readTenant o).isSome)
  | .provisioning =>
      tenantReady cluster obj && scansReadable ns cluster
  | .scanning => childrenFinished cluster obj
  | .aggregating => (childrenIn cluster obj).isSome
  | .gating => (childrenIn cluster obj).isSome
  | .attesting => true
  | .passed => true
  | .failed => true
  | .quarantined => true

/- A scan job that is looked up by name is of its namespace. -/
theorem isSome_readScanJob_of_find
    {cluster : Cluster}
    {«namespace» name : String}
    (hReadable : scansReadable «namespace» cluster = true) :
    ∀ o ∈ cluster.scanJobs.find?
        (fun o => o.isNamed «namespace» name),
      (Api.readScanJob o).isSome = true := by
  intro o hFind
  have hNamed :
      o.isNamed «namespace» name = true := by
    simpa using List.find?_some hFind
  refine scansReadable_iff.mp hReadable o
    (List.mem_of_find?_eq_some hFind) ?_
  simp only [Stored.isNamed, Bool.and_eq_true,
    decide_eq_true_eq] at hNamed
  exact hNamed.1

/- A scan job without a status can be read. -/
theorem scansReadable_append
    {cluster : Cluster}
    {«namespace» : String}
    (hReadable : scansReadable «namespace» cluster = true)
    (sj : ScanJob) :
    scansReadable «namespace»
      { cluster with
        scanJobs := cluster.scanJobs ++
          [{ metadata := sj.metadata
             spec := sj.spec
             status := none }] } = true := by
  rw [scansReadable_iff] at hReadable ⊢
  intro o hMem hNamespace
  rcases List.mem_append.mp hMem with hOld | hNew
  · exact hReadable o hOld hNamespace
  · rw [List.mem_singleton.mp hNew]
    rfl

end ImageValidation

end EngenhoPromessa

------------------------------------------------------------
-- The Handlers Succeed
------------------------------------------------------------

namespace EngenhoPromessa

namespace ImageValidation

open Fallible World Kube RunState

variable [Chrono] [SerdeJson]
variable {ctx : ReconcileCtx} {obj : AkeylessImageValidation}
variable {stored : List (Stored AkeylessImageValidationSpec)}

/- The handler answers and leaves the validations alone. -/
abbrev AnswersFrom
    (stored : List (Stored AkeylessImageValidationSpec))
    (P : Cluster → Prop)
    (handler : Kube (Option AkeylessImageValidationStatus)) :
    Prop :=
  Achieves
    (Quietly (fun cluster =>
      cluster.validations = stored ∧ P cluster))
    handler
    (fun answer w => answer.isSome = true ∧
      w.Quietly (fun cluster =>
        cluster.validations = stored))

omit [SerdeJson] in
/-
  In a quiet world the pending phase answers when the
  tenant, if any, reads.
-/
theorem achieves_handlePending :
    AnswersFrom stored
      (fun cluster =>
        (cluster.tenants.find? (fun o =>
          o.isNamed obj.metadata.namespaceOrDefault
            (tenantName obj))).all
              (fun o => (Api.readTenant o).isSome) = true)
      (handlePending ctx obj) := by
  refine achieves_bind
    (Api.achieves_getTenant (fun cluster hP =>
      all_eq_true_iff.mp hP.2))
    (fun existing => ?_)
  cases existing with
  | some tenant =>
      exact achieves_pure (fun w hQuiet =>
        ⟨rfl, hQuiet.imp (fun _ h => h.1.1)⟩)
  | none =>
      refine achieves_bind
        (Api.achieves_createTenant
          (Q := fun cluster =>
            cluster.validations = stored)
          (fun cluster hP => hP.2.1 rfl)
          (fun cluster hP _ => hP.1.1))
        (fun _ => ?_)
      exact achieves_pure (fun w hQuiet => ⟨rfl, hQuiet⟩)

/- One more scanner, found or created. -/
theorem achieves_provisionScanJob
    (tenant : AkeylessEphemeralTenant)
    (scanner : RequiredScanner) :
    Achieves
      (Quietly (fun cluster =>
        cluster.validations = stored ∧
          scansReadable obj.metadata.namespaceOrDefault
            cluster = true))
      (provisionScanJob ctx obj tenant scanner)
      (fun _ => Quietly (fun cluster =>
        cluster.validations = stored ∧
          scansReadable obj.metadata.namespaceOrDefault
            cluster = true)) := by
  refine achieves_bind
    (Api.achieves_getScanJob (fun cluster hP =>
      isSome_readScanJob_of_find hP.2))
    (fun existing => ?_)
  cases existing with
  | some sj =>
      exact achieves_pure (fun w hQuiet =>
        hQuiet.imp (fun _ h => h.1))
  | none =>
      refine achieves_bind
        (Api.achieves_createScanJob
          (Q := fun cluster =>
            cluster.validations = stored ∧
              scansReadable obj.metadata.namespaceOrDefault
                cluster = true)
          (fun cluster hP => hP.2 rfl)
          (fun cluster hP => ⟨hP.1.1,
            scansReadable_append hP.1.2 _⟩))
        (fun _ => ?_)
      exact achieves_pure (fun w hQuiet => hQuiet)

/-
  In a quiet world the provisioning phase answers when the
  tenant is ready and the scan jobs read.
-/
theorem achieves_handleProvisioning :
    AnswersFrom stored
      (fun cluster =>
        tenantReady cluster obj = true ∧
          scansReadable obj.metadata.namespaceOrDefault
            cluster = true)
      (handleProvisioning ctx obj) := by
  refine achieves_bind
    (Api.achieves_getTenant (fun cluster hP o hFind => ?_))
    (fun existing => ?_)
  · rcases any_eq_true_iff.mp hP.2.1 with
      ⟨tenant, hTenant, _⟩
    rcases Option.bind_eq_some_iff.mp hTenant with
      ⟨o', hFind', hRead⟩
    obtain rfl : o' = o :=
      Option.some.inj (hFind'.symm.trans hFind)
    rw [hRead]
    rfl
  · -- what was found is the tenant that is ready
    intro w hQuiet
    rcases any_eq_true_iff.mp hQuiet.2.1.2.1 with
      ⟨tenant, hTenant, hReady⟩
    obtain rfl : some tenant = existing :=
      hTenant.symm.trans hQuiet.2.2.2
    simp only [hReady, Bool.not_true, Bool.false_eq_true,
      if_false]
    refine achieves_bind
      (achieves_mapM
        (fun scanner => achieves_provisionScanJob tenant
          scanner) _)
      (fun summaries => ?_) w
      (hQuiet.imp (fun _ h => ⟨h.1.1, h.1.2.2⟩))
    exact achieves_pure (fun w' hAfter =>
      ⟨rfl, hAfter.imp (fun _ h => h.1)⟩)

/- The children are listed if they can all be read. -/
theorem achieves_childScanJobs
    {P : Cluster → Prop}
    (hReadable : ∀ cluster, P cluster →
      (childrenIn cluster obj).isSome = true) :
    Achieves (Quietly P) (childScanJobs obj)
      (fun children => Quietly (fun cluster =>
        P cluster ∧
          childrenIn cluster obj = some children)) := by
  refine achieves_bind
    (Api.achieves_listScanJobs (fun cluster hP => ?_))
    (fun items => ?_)
  · simpa [childrenIn] using hReadable cluster hP
  · refine achieves_pure (fun w hQuiet =>
      hQuiet.imp (fun cluster h => ⟨h.1, ?_⟩))
    rw [childrenIn, h.2]
    rfl

variable [Blake3] [PromessaSerde]

variable (ctx) in
/- In a phase that has what it waits for there is an answer. -/
theorem achieves_nextStatus
    (hOpen : obj.currentPhase.isTerminal = false) :
    AnswersFrom stored
      (fun cluster => unblocked cluster obj = true)
      (nextStatus ctx obj) := by
  unfold nextStatus
  cases hPhase : obj.currentPhase with
  | pending =>
      simpa only [unblocked, hPhase] using
        achieves_handlePending
  | provisioning =>
      simpa only [unblocked, hPhase, Bool.and_eq_true] using
        achieves_handleProvisioning
  | scanning =>
      simp only [unblocked, hPhase]
      refine achieves_bind
        (achieves_childScanJobs (fun cluster hP => ?_))
        (fun children w hQuiet => ?_)
      · rcases any_eq_true_iff.mp hP.2 with
          ⟨children, hChildren, _⟩
        rw [hChildren]
        rfl
      · rcases any_eq_true_iff.mp hQuiet.2.1.2 with
          ⟨found, hFound, hFinished⟩
        obtain rfl : found = children :=
          Option.some.inj (hFound.symm.trans hQuiet.2.2)
        rw [Bool.and_eq_true, Bool.not_eq_true'] at hFinished
        simp only [hFinished.1, Bool.false_eq_true, if_false]
        exact achieves_pure (fun w' hAfter =>
          ⟨rfl, hAfter.imp (fun _ h => h.1.1)⟩) w hQuiet
  | aggregating =>
      simp only [unblocked, hPhase]
      refine achieves_bind
        (achieves_childScanJobs (fun cluster hP => hP.2))
        (fun children => ?_)
      exact achieves_pure (fun w hQuiet =>
        ⟨rfl, hQuiet.imp (fun _ h => h.1.1)⟩)
  | attesting =>
      exact achieves_pure (fun w hQuiet =>
        ⟨rfl, hQuiet.imp (fun _ h => h.1)⟩)
  | gating =>
      simp only [unblocked, hPhase]
      refine achieves_bind
        (achieves_childScanJobs (fun cluster hP => hP.2))
        (fun children => ?_)
      exact achieves_pure (fun w hQuiet =>
        ⟨rfl, hQuiet.imp (fun _ h => h.1.1)⟩)
  | passed => simp [hPhase,
      AkeylessImageValidationPhase.isTerminal] at hOpen
  | failed => simp [hPhase,
      AkeylessImageValidationPhase.isTerminal] at hOpen
  | quarantined => simp [hPhase,
      AkeylessImageValidationPhase.isTerminal] at hOpen

variable (ctx) in
/-
  The step of an object that has what it waits for patches
  its answer in.
-/
theorem exec_reconcile_of_unblocked
    {w : World}
    (hQuiet : w.faults = [])
    (hOpen : obj.currentPhase.isTerminal = false)
    (hUnblocked : unblocked w.cluster obj = true)
    (hFound : ∀ patch, ∃ patched,
      Stored.patchNamed
          (ctx.namespace.getD
            obj.metadata.namespaceOrDefault)
          obj.metadata.nameAny patch (validations w) =
        some patched) :
    ∃ new, Advance ctx w.cluster obj new ∧
      Stored.patchNamed
          (ctx.namespace.getD
            obj.metadata.namespaceOrDefault)
          obj.metadata.nameAny
          (.obj [("status", new.toValue)])
          (validations w) =
        some (validations
          ((reconcile ctx obj).exec w).2) := by
  rcases achieves_nextStatus ctx hOpen w
    ⟨hQuiet, rfl, hUnblocked⟩ with
    ⟨answer, w₁, hNext, hSome, hBefore⟩
  rcases Option.isSome_iff_exists.mp hSome with ⟨new, rfl⟩
  rcases hFound (.obj [("status", new.toValue)]) with
    ⟨patched, hPatched⟩
  rcases Api.achieves_patchValidationStatus
    (Q := fun cluster => cluster.validations = patched)
    (fun cluster hSame =>
      ⟨patched, (congrArg _ hSame).trans hPatched, rfl⟩)
    w₁ hBefore with
    ⟨_, w₂, hPatch, hAfter⟩
  have hEmit :
      Keeps validations
        (do emitPostPatch ctx obj obj.currentPhase new
            return 15 : Kube Nat) :=
    keeps_bind
      (keeps_emitPostPatch Cluster.validations ctx obj
        obj.currentPhase new)
      (fun _ => keeps_pure _ _)
  have hRun :
      (reconcile ctx obj).exec w =
        (do emitPostPatch ctx obj obj.currentPhase new
            return 15 : Kube Nat).exec w₂ := by
    unfold reconcile
    simp only [hOpen, Bool.false_eq_true, if_false]
    rw [exec_bind_ok hNext]
    exact exec_bind_ok hPatch _
  refine ⟨new, advance_of_exec_nextStatus hNext, ?_⟩
  rw [hRun, hEmit w₂, hPatched]
  exact congrArg some hAfter.2.symm

end ImageValidation

end EngenhoPromessa

------------------------------------------------------------
-- One Phase Further
------------------------------------------------------------

namespace EngenhoPromessa

namespace AkeylessImageValidationPhase

/- How many phases there are still to go. -/
def rank : AkeylessImageValidationPhase → Nat
| .pending => 6
| .provisioning => 5
| .scanning => 4
| .aggregating => 3
| .attesting => 2
| .gating => 1
| .passed => 0
| .failed => 0
| .quarantined => 0

theorem rank_eq_zero_iff
    (phase : AkeylessImageValidationPhase) :
    phase.rank = 0 ↔ phase.isTerminal = true := by
  cases phase <;> simp [rank, isTerminal]

theorem rank_of_isFollowedBy
    {before after : AkeylessImageValidationPhase}
    (hFollows : before.isFollowedBy after = true) :
    after.rank = before.rank - 1 := by
  cases before <;> cases after <;>
    simp_all [isFollowedBy, rank, isTerminal]

end AkeylessImageValidationPhase

namespace RunState

open ImageValidation AkeylessImageValidationStatus

variable [Chrono] [SerdeJson] [Blake3] [PromessaSerde]

/- An answer for an object that has what it waits for. -/
theorem rank_of_advance
    {ctx : ReconcileCtx}
    {cluster : Cluster}
    {obj : AkeylessImageValidation}
    {new : AkeylessImageValidationStatus}
    (hAdvance : Advance ctx cluster obj new)
    (hUnblocked : unblocked cluster obj = true) :
    ((obj.statusOrDefault.mergeOver new).phase.getD
        .pending).rank =
      obj.currentPhase.rank - 1 := by
  have hChildless :
      obj.currentPhase = .scanning ∧
          childrenIn cluster obj = some [] → False := by
    rintro ⟨hPhase, hNone⟩
    simp [unblocked, childrenFinished, hPhase, hNone]
      at hUnblocked
  cases hAdvance with
  | provisionFirst hPhase => rw [hPhase]; rfl
  | provisionAgain hPhase hTenant =>
      rcases hPhase with hPhase | hPhase
      · simp [unblocked, tenantReady, hPhase, hTenant]
          at hUnblocked
      · exact (hChildless hPhase).elim
  | scan summaries tenant hPhase hTenant hReady hSome =>
      rcases hPhase with hPhase | hPhase
      · rw [hPhase]; rfl
      · exact (hChildless hPhase).elim
  | watch children hPhase hChildren hSome =>
      simp only [unblocked, childrenFinished, hPhase,
        hChildren, Option.any_some, Bool.and_eq_true]
        at hUnblocked
      rw [phase_mergeOver_scannedStatus, hUnblocked.2,
        hPhase]
      rfl
  | aggregate children hPhase hChildren => rw [hPhase]; rfl
  | attest hPhase => rw [hPhase]; rfl
  | gate children hPhase hChildren =>
      rw [hPhase]
      exact (AkeylessImageValidationPhase.rank_eq_zero_iff
        _).mpr (GateVerdict.isTerminal_phase _)

/-
  A reconcile step on the stored object whose calls are all
  answered, in a cluster that has what the phase waits for.
-/
def Favourable (s : RunState) : Event → Prop
| .reconcile ctx age surroundings faults =>
    age = 0 ∧ faults = [] ∧
      ctx.namespace.getD s.metadata.namespaceOrDefault =
        s.metadata.namespaceOrDefault ∧
      (s.copy 0).all
        (unblocked (s.clusterIn surroundings)) = true
| .outcomeChain _ _ _ _ => False
| .dispatch _ => False

instance decidableIsFresh : (e : Event) → Decidable e.IsFresh
| .reconcile _ age _ _ =>
    inferInstanceAs (Decidable (age = 0))
| .outcomeChain _ _ _ _ => .isTrue trivial
| .dispatch _ => .isTrue trivial

instance (s : RunState) (e : Event) :
    Decidable (s.Favourable e) :=
  match e with
  | .reconcile _ _ _ _ =>
      inferInstanceAs (Decidable (_ ∧ _ ∧ _ ∧ _))
  | .outcomeChain _ _ _ _ => .isFalse id
  | .dispatch _ => .isFalse id

/- Neither scan jobs nor the tenant are there. -/
def losesGround
    (cluster : Cluster)
    (obj : AkeylessImageValidation) : Bool :=
  (childrenIn cluster obj).any List.isEmpty &&
    (tenantIn cluster obj).isNone

/-
  A step on the stored object that finds, while the scans are
  running, at least a scan job or the tenant.
-/
def KeepsGround (s : RunState) (e : Event) : Prop :=
  e.IsFresh ∧
    match e with
    | .reconcile _ _ surroundings _ =>
        s.phase = .scanning →
          (s.copy 0).any
            (losesGround (s.clusterIn surroundings)) = false
    | .outcomeChain _ _ _ _ => True
    | .dispatch _ => True

instance (s : RunState) (e : Event) :
    Decidable (s.KeepsGround e) :=
  match e with
  | .reconcile _ _ _ _ =>
      inferInstanceAs (Decidable (_ ∧ (_ → _)))
  | .outcomeChain _ _ _ _ =>
      inferInstanceAs (Decidable (_ ∧ True))
  | .dispatch _ =>
      inferInstanceAs (Decidable (_ ∧ True))

/- Such a step never leads back. -/
theorem rank_step_le
    {s : RunState}
    {e : Event}
    (hInv : FreshInvariant s)
    (hGround : s.KeepsGround e) :
    (s.step e).phase.rank ≤ s.phase.rank := by
  rcases (freshStep_of_fresh hInv hGround.1).phase_moves
    with hSame | ⟨ctx, surroundings, faults, obj, rfl,
      hCopy, hMoves⟩
  · rw [hSame]
  · have hPhase := (copy_zero_eq_some hCopy).2
    generalize (s.step (.reconcile ctx 0 surroundings
      faults)).phase = after at hMoves ⊢
    rw [← hPhase] at hMoves ⊢
    generalize hBefore : obj.currentPhase = before
      at hMoves ⊢
    cases hMoves with
    | stay => exact le_rfl
    | advance hFollows hChildren =>
        rw [AkeylessImageValidationPhase.rank_of_isFollowedBy
          hFollows]
        exact Nat.sub_le _ 1
    | reprovision hChildren hTenant =>
        have hThere :=
          hGround.2 (hPhase.symm.trans hBefore)
        simp [hCopy, losesGround, hChildren, hTenant]
          at hThere

omit [SerdeJson] [Blake3] [PromessaSerde] in
/- A readable validation has a fresh copy. -/
theorem copy_zero_of_isReadable
    {s : RunState}
    (hReadable : s.IsReadable) :
    ∃ obj, s.copy 0 = some obj := by
  rcases hReadable s.stored (List.Mem.head _) with
    ⟨old, hOld, _⟩
  refine ⟨_, Option.map_eq_some_iff.mpr
    ⟨old, hOld, rfl⟩⟩

/- A favourable step leads one phase further. -/
theorem rank_step_of_favourable
    {s : RunState}
    {e : Event}
    (hInv : FreshInvariant s)
    (hFavourable : s.Favourable e) :
    (s.step e).phase.rank ≤ s.phase.rank - 1 := by
  cases e with
  | outcomeChain ctx age surroundings faults =>
      exact hFavourable.elim
  | dispatch age => exact hFavourable.elim
  | reconcile ctx age surroundings faults =>
      rcases hFavourable with
        ⟨rfl, rfl, hScope, hUnblocked⟩
      rcases copy_zero_of_isReadable hInv.is_readable with
        ⟨obj, hCopy⟩
      rcases copy_zero_eq_some hCopy with ⟨hObj, hPhase⟩
      have hMeta := (copy_eq_some hCopy).1
      rw [hCopy, Option.all_some] at hUnblocked
      cases hTerminal : s.phase.isTerminal with
      | true =>
          rw [(freshStep_of_fresh hInv
            (e := .reconcile ctx 0 surroundings [])
            rfl).terminal_kept hTerminal,
            (AkeylessImageValidationPhase.rank_eq_zero_iff
              _).mpr hTerminal]
      | false =>
          rw [← hPhase] at hTerminal
          rcases ImageValidation.exec_reconcile_of_unblocked ctx
            (w := s.world surroundings []) rfl hTerminal
            hUnblocked (fun patch => by
              rw [hMeta, hScope]
              simp [validations, world, clusterIn,
                Stored.patchNamed, Stored.isNamed,
                objectAt]) with
            ⟨new, hAdvance, hPatch⟩
          have hStep :
              s.step (.reconcile ctx 0 surroundings []) =
                s.write ((ImageValidation.reconcile ctx
                  obj).exec (s.world surroundings [])).2 := by
            simp only [step, hCopy]
          rcases ofStored_stored hInv.is_readable with
            ⟨old, hOld, hStatus, _⟩
          have hAfter :
              (s.step (.reconcile ctx 0 surroundings
                  [])).status =
                s.status.mergeOver new := by
            rw [hStep, status,
              stored_write_of_patchNamed s hPatch]
            rw [← hStatus]
            exact congrArg (fun o => o.join.getD .default)
              (ofStored_merge
                (writable_of_advance hAdvance
                  (writable_copy hInv.is_readable hCopy))
                hOld)
          have hRank :=
            rank_of_advance hAdvance hUnblocked
          rw [hObj, ← hAfter, hPhase] at hRank
          exact hRank.le

/-
  Wherever a run on stored objects has come to, as many
  favourable turns as there are phases to go bring it to its
  end, whatever happens between them, and there it stays.
-/
theorem terminal_of_favourable
    (metadata : ObjectMeta)
    (spec : AkeylessImageValidationSpec)
    (earlier later : List Event)
    (hFresh : ∀ e ∈ earlier, e.IsFresh)
    (hGround :
      Run.Allowed step KeepsGround
        (Run.run step (created metadata spec) earlier)
        later)
    (hEnough :
      let s := Run.run step (created metadata spec) earlier
      Run.AtLeast step Favourable s.phase.rank s later) :
    let s := Run.run step (created metadata spec)
      (earlier ++ later)
    s.phase.isTerminal = true ∧
      s.status.gateDecision.isSome = true ∧
      s.status.evidenceBundleHash.isSome = true ∧
      ∀ more, (∀ e ∈ more, e.IsFresh) →
        (Run.run step s more).phase = s.phase := by
  intro s
  have hBefore :
      FreshInvariant
        (Run.run step (created metadata spec) earlier) :=
    Run.invariant_run FreshInvariant
      (fun _ _ hInv hOk => freshInvariant_step hInv hOk)
      (freshInvariant_created metadata spec)
      (Run.allowed_of_forall hFresh _)
  have hSplit : s = Run.run step
      (Run.run step (created metadata spec) earlier)
      later := Run.run_append _ _ _ _
  have hInv : FreshInvariant s := by
    rw [hSplit]
    exact Run.invariant_run FreshInvariant
      (fun _ _ hInv hOk => freshInvariant_step hInv hOk.1)
      hBefore hGround
  have hRank :=
    Run.rank_run_le FreshInvariant (fun s => s.phase.rank)
      (fun _ _ hInv hOk =>
        ⟨freshInvariant_step hInv hOk.1,
          rank_step_le hInv hOk⟩)
      (fun _ _ hInv _ hGood =>
        rank_step_of_favourable hInv hGood)
      hBefore hGround hEnough
  rw [← hSplit, Nat.sub_self] at hRank
  have hTerminal : s.phase.isTerminal = true :=
    (AkeylessImageValidationPhase.rank_eq_zero_iff _).mp
      (Nat.le_zero.mp hRank)
  refine ⟨hTerminal,
    hInv.phase_invariant.gate_present.mpr hTerminal,
    hInv.phase_invariant.evidence_present
      (Or.inr (Or.inr hTerminal)), ?_⟩
  intro more hMore
  have hBoth :=
    Run.invariant_run
      (fun t => FreshInvariant t ∧ t.phase = s.phase)
      (fun t e hGood hOk =>
        ⟨freshInvariant_step hGood.1 hOk,
          ((freshStep_of_fresh hGood.1 hOk).terminal_kept
            (hGood.2 ▸ hTerminal)).trans hGood.2⟩)
      ⟨hInv, rfl⟩ (Run.allowed_of_forall hMore s)
  exact hBoth.2

end RunState

namespace RunState

/- A run whose turns are all favourable but the last. -/
theorem terminal_of_favourable_reference :
    let s := Run.run step
      (created (Reference.metadata "auth-00")
        Reference.validationSpec)
      ([] ++ Reference.untilDispatch)
    s.phase.isTerminal = true ∧
      s.status.gateDecision.isSome = true ∧
      s.status.evidenceBundleHash.isSome = true ∧
      ∀ more, (∀ e ∈ more, e.IsFresh) →
        (Run.run step s more).phase = s.phase :=
  terminal_of_favourable (Reference.metadata "auth-00")
    Reference.validationSpec [] Reference.untilDispatch
    (by simp) (by decide +kernel)
    (.good (by decide +kernel)
      (.good (by decide +kernel)
        (.good (by decide +kernel)
          (.good (by decide +kernel)
            (.good (by decide +kernel)
              (.good (by decide +kernel)
                (.enough _ _)))))))

end RunState

end EngenhoPromessa
