import EngenhoPromessa.Controllers.AnsweredCalls
import EngenhoPromessa.Controllers.EphemeralTenant
import EngenhoPromessa.Controllers.GateSafety

/-
  Runs of the ephemeral tenant controller on one tenant.

  Every step acts on the tenant as it is stored; the services
  there are, the environment and what becomes of the calls
  are given anew with every step. The status that is stored
  has one of few forms, and a tenant that is ready is never
  written again.

  Key definitions include:
    * `TenantRun`
    * `TenantRun.Form`
    * `TenantRun.FollowedBy`
    * `TenantRun.Favourable`
    * `TenantRun.MadeReady`

  Key theorems include:
    * `TenantRun.step_cases`
    * `TenantRun.form_run`
    * `TenantRun.ready_of_favourable`
-/

------------------------------------------------------------
-- What A Step Stores
------------------------------------------------------------

namespace EngenhoPromessa

namespace EphemeralTenant

open Fallible World Kube

/- The tenants of a world. -/
def tenants (w : World) :
    List (Stored AkeylessEphemeralTenantSpec) :=
  w.cluster.tenants

/- Assessing the target stores nothing. -/
theorem keeps_tenants_assessTarget (target : Option String) :
    Keeps tenants (assessTarget target) := by
  unfold assessTarget
  split
  · exact keeps_pure _ _
  · split
    · exact keeps_pure _ _
    · refine keeps_bind
        (keeps_read Cluster.tenants _ _) (fun service => ?_)
      split
      · exact keeps_pure _ _
      · exact keeps_pure _ _

/- Deciding a status stores nothing. -/
theorem keeps_tenants_nextStatus
    (ctx : ReconcileCtx)
    (obj : AkeylessEphemeralTenant) :
    Keeps tenants (nextStatus ctx obj) := by
  have hAssess : Keeps tenants (assess ctx obj) :=
    keeps_bind (keeps_tenants_assessTarget _)
      (fun _ => keeps_pure _ _)
  unfold nextStatus
  cases obj.currentPhase with
  | ready => exact keeps_pure _ _
  | scanning => exact keeps_pure _ _
  | reaped => exact keeps_pure _ _
  | failed => exact keeps_pure _ _
  | teardown => exact keeps_pure _ _
  | pending => exact hAssess
  | infraProvisioning => exact hAssess
  | chartRendering => exact hAssess
  | podsRunning => exact hAssess

/- How ready a target is, going by the services there are. -/
def readinessIn
    (cluster : Cluster) :
    Option String → TargetReadiness
| none => .noTarget
| some url =>
    match inClusterServiceRef url with
    | none => .readyAt url
    | some (svcNs, svcName) =>
        if (cluster.services.find? (fun service =>
            service.isNamed svcNs svcName)).isSome then
          .readyAt url
        else
          .waiting

/- The status a step answers with in a cluster. -/
def answerIn
    (ctx : ReconcileCtx)
    (cluster : Cluster)
    (obj : AkeylessEphemeralTenant) :
    Option AkeylessEphemeralTenantStatus :=
  match obj.currentPhase with
  | .ready => none
  | .scanning => none
  | .reaped => none
  | .failed => none
  | .teardown => some (reapedStatus ctx obj)
  | .pending | .infraProvisioning | .chartRendering
  | .podsRunning =>
      some (assessedStatus ctx obj
        (resolveDastTarget ctx.env)
        (readinessIn cluster (resolveDastTarget ctx.env)))

/- The readiness found is that of the cluster. -/
theorem readiness_of_exec_assessTarget
    {target : Option String}
    {w w' : World}
    {readiness : TargetReadiness}
    (hRun :
      (assessTarget target).exec w = (.ok readiness, w')) :
    readiness = readinessIn w.cluster target := by
  unfold assessTarget at hRun
  cases target with
  | none => exact (exec_pure_eq_ok.mp hRun).1.symm
  | some url =>
      cases hRef : inClusterServiceRef url with
      | none =>
          simp only [hRef] at hRun
          simpa [readinessIn, hRef] using
            (exec_pure_eq_ok.mp hRun).1.symm
      | some ref =>
          simp only [hRef] at hRun
          rcases exec_bind_eq_ok.mp hRun with
            ⟨service, w₁, hGet, hPure⟩
          have hService :=
            Except.ok.inj (exec_read_eq_ok.mp hGet).2.1
          simp only [readinessIn, hRef, hService]
          cases hSome : service.isSome with
          | true =>
              rw [hSome] at hPure
              exact (exec_pure_eq_ok.mp hPure).1.symm
          | false =>
              rw [hSome] at hPure
              exact (exec_pure_eq_ok.mp hPure).1.symm

/-
  A turn's answer depends on the cluster and the stored
  tenant only.
-/
theorem answer_eq_of_exec_nextStatus
    {ctx : ReconcileCtx}
    {obj : AkeylessEphemeralTenant}
    {w w' : World}
    {answer : Option AkeylessEphemeralTenantStatus}
    {requeue : Nat}
    (hRun :
      (nextStatus ctx obj).exec w =
        (.ok (answer, requeue), w')) :
    answer = answerIn ctx w.cluster obj := by
  have hAssess :
      (assess ctx obj).exec w =
          (.ok (answer, requeue), w') →
        answer = some (assessedStatus ctx obj
          (resolveDastTarget ctx.env)
          (readinessIn w.cluster
            (resolveDastTarget ctx.env))) := by
    intro hExec
    rcases exec_bind_eq_ok.mp hExec with
      ⟨readiness, w₁, hTarget, hPure⟩
    rw [← readiness_of_exec_assessTarget hTarget]
    exact (Prod.mk.inj (exec_pure_eq_ok.mp hPure).1).1.symm
  have hPure :
      ∀ {status n},
        (pure (status, n) : Kube _).exec w =
            (.ok (answer, requeue), w') →
          answer = status :=
    fun hExec =>
      (Prod.mk.inj (exec_pure_eq_ok.mp hExec).1).1.symm
  unfold nextStatus at hRun
  unfold answerIn
  cases hPhase : obj.currentPhase with
  | ready => rw [hPhase] at hRun; exact hPure hRun
  | scanning => rw [hPhase] at hRun; exact hPure hRun
  | reaped => rw [hPhase] at hRun; exact hPure hRun
  | failed => rw [hPhase] at hRun; exact hPure hRun
  | teardown => rw [hPhase] at hRun; exact hPure hRun
  | pending => rw [hPhase] at hRun; exact hAssess hRun
  | infraProvisioning =>
      rw [hPhase] at hRun; exact hAssess hRun
  | chartRendering =>
      rw [hPhase] at hRun; exact hAssess hRun
  | podsRunning => rw [hPhase] at hRun; exact hAssess hRun

variable [Chrono]

/- The tenants after a whole status was patched into one. -/
def patchedTenants
    (obj : AkeylessEphemeralTenant)
    (new : AkeylessEphemeralTenantStatus)
    (stored : List (Stored AkeylessEphemeralTenantSpec)) :
    List (Stored AkeylessEphemeralTenantSpec) :=
  (Stored.patchNamed obj.metadata.namespaceOrDefault
    obj.metadata.nameAny
    (.obj [("status", new.toValue)]) stored).getD stored

omit [Chrono] in
/- In a quiet world a turn gets its answer. -/
theorem achieves_nextStatus
    (ctx : ReconcileCtx)
    (obj : AkeylessEphemeralTenant)
    {stored : List (Stored AkeylessEphemeralTenantSpec)} :
    Achieves
      (Quietly (fun cluster => cluster.tenants = stored))
      (nextStatus ctx obj)
      (fun _ =>
        Quietly (fun cluster =>
          cluster.tenants = stored)) := by
  have hPure :
      ∀ {α : Type} (a : α),
        Achieves
          (Quietly (fun cluster => cluster.tenants = stored))
          (pure a : Kube α)
          (fun _ => Quietly (fun cluster =>
            cluster.tenants = stored)) :=
    fun a => achieves_pure (fun _ h => h)
  have hTarget :
      Achieves
        (Quietly (fun cluster => cluster.tenants = stored))
        (assessTarget (resolveDastTarget ctx.env))
        (fun _ => Quietly (fun cluster =>
          cluster.tenants = stored)) := by
    unfold assessTarget
    split
    · exact hPure _
    · split
      · exact hPure _
      · refine achieves_bind (achieves_lookup _ _)
          (fun service => ?_)
        split
        · exact achieves_pure (fun _ h =>
            h.imp (fun _ h => h.1))
        · exact achieves_pure (fun _ h =>
            h.imp (fun _ h => h.1))
  have hAssess := achieves_bind hTarget
    (fun readiness => hPure (some (assessedStatus ctx obj
      (resolveDastTarget ctx.env) readiness),
        requeueAfter readiness))
  unfold nextStatus
  cases obj.currentPhase with
  | ready => exact hPure _
  | scanning => exact hPure _
  | reaped => exact hPure _
  | failed => exact hPure _
  | teardown => exact hPure _
  | pending => exact hAssess
  | infraProvisioning => exact hAssess
  | chartRendering => exact hAssess
  | podsRunning => exact hAssess

/- With every call answered the answer is patched in. -/
theorem tenants_exec_reconcile_of_quiet
    {ctx : ReconcileCtx}
    {obj : AkeylessEphemeralTenant}
    {new : AkeylessEphemeralTenantStatus}
    {w : World}
    (hQuiet : w.faults = [])
    (hAnswer : answerIn ctx w.cluster obj = some new)
    (hFound : ∀ patch, ∃ patched,
      Stored.patchNamed obj.metadata.namespaceOrDefault
          obj.metadata.nameAny patch (tenants w) =
        some patched) :
    tenants ((reconcile ctx obj).exec w).2 =
      patchedTenants obj new (tenants w) := by
  rcases achieves_nextStatus ctx obj w
    ⟨hQuiet, rfl⟩ with
    ⟨⟨answer, requeue⟩, w₁, hNext, hBefore⟩
  obtain rfl : answer = some new :=
    (answer_eq_of_exec_nextStatus hNext).trans hAnswer
  rcases hFound (.obj [("status", new.toValue)]) with
    ⟨patched, hPatched⟩
  rcases Api.achieves_patchTenantStatus
    (Q := fun cluster => cluster.tenants = patched)
    (fun cluster hSame =>
      ⟨patched, (congrArg _ hSame).trans hPatched, rfl⟩)
    w₁ hBefore with
    ⟨u, w₂, hPatch, hAfter⟩
  unfold reconcile
  rw [exec_bind_ok hNext]
  simp only [patchStatus, exec_bind_ok hPatch]
  rw [patchedTenants, hPatched]
  exact hAfter.2

/-
  A step leaves the tenants alone, or it patches its answer
  into its own.
-/
theorem tenants_exec_reconcile
    (ctx : ReconcileCtx)
    (obj : AkeylessEphemeralTenant)
    (w : World) :
    tenants ((reconcile ctx obj).exec w).2 = tenants w ∨
      ∃ new, answerIn ctx w.cluster obj = some new ∧
        tenants ((reconcile ctx obj).exec w).2 =
          patchedTenants obj new (tenants w) := by
  have hKeep := keeps_tenants_nextStatus ctx obj w
  unfold reconcile
  rw [exec_bind]
  rcases hNext : (nextStatus ctx obj).exec w with
    ⟨_ | ⟨_ | new, requeue⟩, w₁⟩
  · rw [hNext] at hKeep
    exact .inl hKeep
  · rw [hNext] at hKeep
    exact .inl hKeep
  · rw [hNext] at hKeep
    dsimp only at hKeep ⊢
    have hRest :=
      view_exec_bind
        (patchStatus obj.metadata.namespaceOrDefault
          obj.metadata.nameAny new)
        (fun _ => keeps_pure tenants requeue) w₁
    rw [hRest, ← hKeep]
    unfold patchStatus Api.patchTenantStatus patchedTenants
    rcases exec_call_cluster
      (.patchStatus "AkeylessEphemeralTenant"
        obj.metadata.nameAny
        (.obj [("status", new.toValue)])) _ w₁ with
      hSame | hServed
    · exact .inl (congrArg Cluster.tenants hSame)
    · refine .inr ⟨new,
        (answer_eq_of_exec_nextStatus hNext).symm, ?_⟩
      refine (congrArg Cluster.tenants hServed).trans ?_
      unfold tenants
      cases Stored.patchNamed
        obj.metadata.namespaceOrDefault
        obj.metadata.nameAny
        (.obj [("status", new.toValue)])
        w₁.cluster.tenants with
      | none => rfl
      | some patched => rfl

end EphemeralTenant

end EngenhoPromessa

------------------------------------------------------------
-- Runs
------------------------------------------------------------

namespace EngenhoPromessa

open EphemeralTenant AkeylessEphemeralTenantStatus

/- A tenant with the status that is stored of it. -/
structure TenantRun where
  metadata : ObjectMeta
  spec : AkeylessEphemeralTenantSpec
  stored : Option Json

namespace TenantRun

/- A tenant just created. -/
def created
    (metadata : ObjectMeta)
    (spec : AkeylessEphemeralTenantSpec) : TenantRun where
  metadata := metadata
  spec := spec
  stored := none

/- The tenant as it is stored. -/
def object
    (s : TenantRun) : Stored AkeylessEphemeralTenantSpec where
  metadata := s.metadata
  spec := s.spec
  status := s.stored

/- A reconcile step, with the world it finds. -/
structure Event where
  ctx : ReconcileCtx
  surroundings : Cluster
  faults : List ApiFault

/- What the step takes for the target, if anything. -/
def Event.target (e : Event) : Option String :=
  resolveDastTarget e.ctx.env

/-
  The world of a turn: the tenant first among what surrounds
  it.
-/
def world (s : TenantRun) (e : Event) : World where
  cluster :=
    { e.surroundings with
      tenants := s.object :: e.surroundings.tenants }
  faults := e.faults
  calls := []
  published := []

/- Take the stored status from what a step left behind. -/
def write (s : TenantRun) (w : World) : TenantRun :=
  match tenants w with
  | [] => s
  | o :: _ => { s with stored := o.status }

variable [Chrono]

/- A turn on the tenant as it is stored. -/
def step (s : TenantRun) (e : Event) : TenantRun :=
  match Api.readTenant s.object with
  | none => s
  | some obj =>
      s.write ((reconcile e.ctx obj).exec (s.world e)).2

/- The status stored now, or the default if there is none. -/
def status (s : TenantRun) : AkeylessEphemeralTenantStatus :=
  (ofStored s.stored).join.getD .default

/- The phase of a tenant; none counts as pending. -/
def phase (s : TenantRun) : AkeylessEphemeralTenantPhase :=
  s.status.phase.getD .pending

/- Whether the stored status reads. -/
def IsReadable (s : TenantRun) : Prop :=
  (ofStored s.stored).isSome = true

/- What a step writes: its answer, over what is stored. -/
def Writes (s : TenantRun) (e : Event) (t : TenantRun) : Prop :=
  ∃ obj new,
    obj.metadata = s.metadata ∧
      obj.statusOrDefault = s.status ∧
      obj.currentPhase = s.phase ∧
      answerIn e.ctx (s.world e).cluster obj = some new ∧
      ofStored t.stored =
        some (some (s.status.mergeOver new))

/- The tenant as it is read. -/
theorem readTenant_object
    {s : TenantRun}
    (hReadable : s.IsReadable) :
    ∃ obj old, Api.readTenant s.object = some obj ∧
      ofStored s.stored = some old ∧
      old.getD .default = s.status ∧
      obj.metadata = s.metadata ∧
      obj.statusOrDefault = s.status ∧
      obj.currentPhase = s.phase := by
  rcases Option.isSome_iff_exists.mp hReadable with
    ⟨old, hOld⟩
  have hStatus : old.getD .default = s.status := by
    rw [status, hOld, Option.join_some]
  refine ⟨{ metadata := s.metadata
            spec := s.spec
            status := old }, old,
    Option.map_eq_some_iff.mpr ⟨old, hOld, rfl⟩, hOld,
    hStatus, rfl, hStatus, ?_⟩
  rw [phase, ← hStatus]
  cases old with
  | none => rfl
  | some st => rfl

/- A turn that patched the tenant merges its answer in. -/
theorem stored_write_of_patched
    (s : TenantRun)
    {e : Event}
    {obj : AkeylessEphemeralTenant}
    {new : AkeylessEphemeralTenantStatus}
    (hMetadata : obj.metadata = s.metadata)
    {w : World}
    (hPatched :
      tenants w =
        patchedTenants obj new (tenants (s.world e))) :
    (s.write w).stored =
      Json.mergeMember s.stored (some new.toValue) := by
  have hOwn :
      s.object.isNamed obj.metadata.namespaceOrDefault
        obj.metadata.nameAny = true := by
    simp [hMetadata, Stored.isNamed, object]
  unfold write
  rw [hPatched]
  simp only [patchedTenants, tenants, world,
    Stored.patchNamed, hOwn, if_true, Option.getD_some]
  rfl

/- A turn leaves the tenant alone or writes its answer. -/
theorem step_cases
    {s : TenantRun}
    (hReadable : s.IsReadable)
    (e : Event) :
    s.step e = s ∨ s.Writes e (s.step e) := by
  rcases readTenant_object hReadable with
    ⟨obj, old, hRead, hOld, hStatus, hMetadata, hObj,
      hPhase⟩
  simp only [step, hRead]
  rcases tenants_exec_reconcile e.ctx obj (s.world e) with
    hSame | ⟨new, hAnswer, hPatched⟩
  · refine .inl ?_
    simp only [write, hSame]
    rfl
  · refine .inr ⟨obj, new, hMetadata, hObj, hPhase,
      hAnswer, ?_⟩
    rw [stored_write_of_patched s hMetadata hPatched,
      ← hStatus]
    exact ofStored_merge new hOld

end TenantRun

end EngenhoPromessa

------------------------------------------------------------
-- The Forms Of A Status
------------------------------------------------------------

namespace EngenhoPromessa

open EphemeralTenant AkeylessEphemeralTenantStatus

namespace TenantRun

/-
  The statuses there are: the one of a new tenant, and for
  the targets taken so far those of a tenant that waits for
  its service, is ready for it, or has none. A tenant without
  a target may still show the one it waited for.
-/
inductive Form (Taken : Option String → Prop) :
    AkeylessEphemeralTenantStatus → Prop where
  | created : Form Taken .default
  | waiting
      (url : String)
      (allocated : DateTime)
      (generation : Int)
      (hTaken : Taken (some url)) :
      Form Taken
        { AkeylessEphemeralTenantStatus.default with
          phase := some .podsRunning
          ingressUrl := some url
          allocatedAt := some allocated
          observedGeneration := generation }
  | ready
      (url : String)
      (allocated ready : DateTime)
      (generation : Int)
      (hTaken : Taken (some url)) :
      Form Taken
        { AkeylessEphemeralTenantStatus.default with
          phase := some .ready
          ingressUrl := some url
          podsReady := 1
          podsTotal := 1
          podsReadyOverTotal := some "1/1"
          allocatedAt := some allocated
          readyAt := some ready
          observedGeneration := generation }
  | skipped
      (shown : Option String)
      (allocated ready : DateTime)
      (generation : Int)
      (hTaken : Taken none)
      (hShown : ∀ url ∈ shown, Taken (some url)) :
      Form Taken
        { AkeylessEphemeralTenantStatus.default with
          phase := some .ready
          ingressUrl := shown
          podsReadyOverTotal := some "0/0"
          allocatedAt := some allocated
          readyAt := some ready
          observedGeneration := generation }

/- What no later step takes back. -/
structure FollowedBy
    (old new : AkeylessEphemeralTenantStatus) : Prop where
  allocated_kept :
    ∀ t, old.allocatedAt = some t → new.allocatedAt = some t
  ready_kept : old.phase = some .ready → new = old

/- What a turn for the target makes of a tenant. -/
structure MadeReady
    (target : Option String)
    (old new : AkeylessEphemeralTenantStatus) : Prop where
  phase : new.phase = some .ready
  ingressUrl : new.ingressUrl = target.or old.ingressUrl
  podsReady : new.podsReady = target.toList.length
  podsTotal : new.podsTotal = new.podsReady
  allocatedAt : new.allocatedAt.isSome = true
  readyAt : new.readyAt.isSome = true

/- More targets taken leave room for the same statuses. -/
theorem Form.mono
    {Taken Taken' : Option String → Prop}
    (hMore : ∀ t, Taken t → Taken' t)
    {st : AkeylessEphemeralTenantStatus}
    (hForm : Form Taken st) :
    Form Taken' st := by
  cases hForm with
  | created => exact .created
  | waiting url allocated generation hTaken =>
      exact .waiting url allocated generation
        (hMore _ hTaken)
  | ready url allocated ready generation hTaken =>
      exact .ready url allocated ready generation
        (hMore _ hTaken)
  | skipped shown allocated ready generation hTaken hShown =>
      exact .skipped shown allocated ready generation
        (hMore _ hTaken) (fun url hUrl =>
          hMore _ (hShown url hUrl))

/- A target is shown in a status before it is ready. -/
theorem shown_of_form
    {Taken : Option String → Prop}
    {st : AkeylessEphemeralTenantStatus}
    (hForm : Form Taken st) :
    ∀ url ∈ st.ingressUrl, Taken (some url) := by
  cases hForm with
  | created =>
      intro url hUrl
      cases hUrl
  | waiting url allocated generation hTaken =>
      intro url' hUrl
      obtain rfl := Option.some.inj hUrl
      exact hTaken
  | ready url allocated ready generation hTaken =>
      intro url' hUrl
      obtain rfl := Option.some.inj hUrl
      exact hTaken
  | skipped shown allocated ready generation hTaken hShown =>
      exact hShown

/- What a readiness says about the target. -/
inductive Assesses :
    Option String → TargetReadiness → Prop where
  | readyAt (url : String) : Assesses (some url) (.readyAt url)
  | waiting (url : String) : Assesses (some url) .waiting
  | noTarget : Assesses none .noTarget

/- The readiness found in a cluster is a right one. -/
theorem assesses_readinessIn
    (cluster : Cluster)
    (target : Option String) :
    Assesses target (readinessIn cluster target) := by
  cases target with
  | none => exact .noTarget
  | some url =>
      cases hRef : inClusterServiceRef url with
      | none =>
          simp only [readinessIn, hRef]
          exact .readyAt url
      | some ref =>
          simp only [readinessIn, hRef]
          split
          · exact .readyAt url
          · exact .waiting url

/- The status a tenant that is not ready yet is given. -/
theorem form_assessed
    {Taken : Option String → Prop}
    (ctx : ReconcileCtx)
    {obj : AkeylessEphemeralTenant}
    {target : Option String}
    {readiness : TargetReadiness}
    (hForm : Form Taken obj.statusOrDefault)
    (hOpen : obj.statusOrDefault.phase ≠ some .ready)
    (hTaken : Taken target)
    (hAssesses : Assesses target readiness) :
    let new := obj.statusOrDefault.mergeOver
      (assessedStatus ctx obj target readiness)
    Form Taken new ∧
      FollowedBy obj.statusOrDefault new ∧
      (readiness ≠ .waiting →
        MadeReady target obj.statusOrDefault new) := by
  have hShown := shown_of_form hForm
  unfold assessedStatus
  generalize obj.statusOrDefault = st at *
  cases hForm with
  | ready url allocated ready generation _ =>
      exact absurd rfl hOpen
  | skipped shown allocated ready generation _ _ =>
      exact absurd rfl hOpen
  | created =>
      cases hAssesses with
      | readyAt url =>
          exact ⟨.ready url _ _ _ hTaken,
            ⟨by simp [AkeylessEphemeralTenantStatus.default],
              by simp [AkeylessEphemeralTenantStatus.default]⟩,
            fun _ => ⟨rfl, rfl, rfl, rfl, rfl, rfl⟩⟩
      | waiting url =>
          exact ⟨.waiting url _ _ hTaken,
            ⟨by simp [AkeylessEphemeralTenantStatus.default],
              by simp [AkeylessEphemeralTenantStatus.default]⟩,
            fun h => absurd rfl h⟩
      | noTarget =>
          exact ⟨.skipped none _ _ _ hTaken hShown,
            ⟨by simp [AkeylessEphemeralTenantStatus.default],
              by simp [AkeylessEphemeralTenantStatus.default]⟩,
            fun _ => ⟨rfl, rfl, rfl, rfl, rfl, rfl⟩⟩
  | waiting old allocated generation _ =>
      cases hAssesses with
      | readyAt url =>
          exact ⟨.ready url allocated _ _ hTaken,
            ⟨fun _ h => h, by simp⟩,
            fun _ => ⟨rfl, rfl, rfl, rfl, rfl, rfl⟩⟩
      | waiting url =>
          exact ⟨.waiting url allocated _ hTaken,
            ⟨fun _ h => h, by simp⟩,
            fun h => absurd rfl h⟩
      | noTarget =>
          exact ⟨.skipped (some old) allocated _ _ hTaken
              hShown,
            ⟨fun _ h => h, by simp⟩,
            fun _ => ⟨rfl, rfl, rfl, rfl, rfl, rfl⟩⟩

end TenantRun

end EngenhoPromessa

------------------------------------------------------------
-- What Runs Keep
------------------------------------------------------------

namespace EngenhoPromessa

open EphemeralTenant AkeylessEphemeralTenantStatus

namespace TenantRun

variable [Chrono]

/-
  The tenant reads, and its status is of one of the forms
  turns give it.
-/
structure TenantInvariant
    (Taken : Option String → Prop)
    (s : TenantRun) : Prop where
  readable : s.IsReadable
  form : Form Taken s.status

theorem tenantInvariant_created
    (Taken : Option String → Prop)
    (metadata : ObjectMeta)
    (spec : AkeylessEphemeralTenantSpec) :
    TenantInvariant Taken (created metadata spec) where
  readable := rfl
  form := .created

/- The phases there are, and those that lead on. -/
theorem phase_of_form
    {Taken : Option String → Prop}
    {s : TenantRun}
    (hForm : Form Taken s.status) :
    s.status.phase = some .ready ∧ s.phase = .ready ∨
      s.status.phase ≠ some .ready ∧
        (s.phase = .pending ∨ s.phase = .podsRunning) := by
  unfold phase
  generalize s.status = st at hForm ⊢
  cases hForm with
  | created =>
      exact .inr
        ⟨by simp [AkeylessEphemeralTenantStatus.default],
          .inl rfl⟩
  | waiting url allocated generation hTaken =>
      exact .inr ⟨by simp, .inr rfl⟩
  | ready url allocated ready generation hTaken =>
      exact .inl ⟨rfl, rfl⟩
  | skipped shown allocated ready generation hTaken hShown =>
      exact .inl ⟨rfl, rfl⟩

/- A tenant that is not ready answers with an assessment. -/
theorem answerIn_of_open
    {s : TenantRun}
    {obj : AkeylessEphemeralTenant}
    (hObj : obj.currentPhase = s.phase)
    (hPhase : s.phase = .pending ∨ s.phase = .podsRunning)
    (ctx : ReconcileCtx)
    (cluster : Cluster) :
    answerIn ctx cluster obj =
      some (assessedStatus ctx obj
        (resolveDastTarget ctx.env)
        (readinessIn cluster
          (resolveDastTarget ctx.env))) := by
  unfold answerIn
  rcases hPhase with hPending | hPodsRunning
  · rw [hObj, hPending]
  · rw [hObj, hPodsRunning]

/-
  What a turn writes: the invariant holds, the status
  follows the old one, and it is ready unless there was
  something to wait for.
-/
theorem status_of_writes
    {Taken : Option String → Prop}
    {s t : TenantRun}
    {e : Event}
    (hInv : TenantInvariant Taken s)
    (hTaken : Taken e.target)
    (hWrites : s.Writes e t) :
    TenantInvariant Taken t ∧
      FollowedBy s.status t.status ∧
      (readinessIn (s.world e).cluster e.target ≠
          .waiting →
        MadeReady e.target s.status t.status) := by
  rcases hWrites with
    ⟨obj, new, hMetadata, hObj, hPhase, hAnswer, hStored⟩
  have hStatus : t.status = s.status.mergeOver new := by
    rw [status, hStored]
    rfl
  rcases phase_of_form hInv.form with
    ⟨_, hReady⟩ | ⟨hOpen, hNotReady⟩
  · rw [answerIn, hPhase, hReady] at hAnswer
    cases hAnswer
  · rw [answerIn_of_open hPhase hNotReady] at hAnswer
    obtain rfl := Option.some.inj hAnswer
    rw [← hObj] at hOpen
    have hForm := hInv.form
    rw [← hObj] at hForm hStatus ⊢
    rcases form_assessed e.ctx hForm hOpen hTaken
      (assesses_readinessIn (s.world e).cluster e.target)
      with ⟨hAfter, hFollows, hArrives⟩
    rw [hStatus]
    refine ⟨⟨by rw [IsReadable, hStored]; rfl, ?_⟩,
      hFollows, hArrives⟩
    rw [hStatus]
    exact hAfter

/-
  A turn keeps the invariant, and its status follows the old
  one.
-/
theorem tenantInvariant_step
    {Taken : Option String → Prop}
    {s : TenantRun}
    (hInv : TenantInvariant Taken s)
    {e : Event}
    (hTaken : Taken e.target) :
    TenantInvariant Taken (s.step e) ∧
      FollowedBy s.status (s.step e).status := by
  rcases step_cases hInv.readable e with hSame | hWrites
  · rw [hSame]
    exact ⟨hInv, fun _ h => h, fun _ => rfl⟩
  · rcases status_of_writes hInv hTaken hWrites with
      ⟨hAfter, hFollows, _⟩
    exact ⟨hAfter, hFollows⟩

omit [Chrono] in
/- Following composes. -/
theorem followedBy_trans
    {a b c : AkeylessEphemeralTenantStatus}
    (hab : FollowedBy a b)
    (hbc : FollowedBy b c) :
    FollowedBy a c where
  allocated_kept t h :=
    hbc.allocated_kept t (hab.allocated_kept t h)
  ready_kept h := by
    have hSame := hab.ready_kept h
    rw [hbc.ready_kept (hSame ▸ h), hSame]

/- The targets that the turns of a run took. -/
def TakenIn (events : List Event) : Option String → Prop :=
  fun target => ∃ e ∈ events, e.target = target

/-
  A run keeps the invariant, and its status follows the
  first one.
-/
theorem tenantInvariant_run
    (Taken : Option String → Prop)
    {s : TenantRun}
    (hInv : TenantInvariant Taken s)
    {events : List Event}
    (hTaken : ∀ e ∈ events, Taken e.target) :
    TenantInvariant Taken (Run.run step s events) ∧
      FollowedBy s.status
        (Run.run step s events).status := by
  have hAllowed :
      Run.Allowed step (fun _ e => Taken e.target) s events :=
    Run.allowed_of_forall hTaken s
  exact ⟨Run.invariant_run (TenantInvariant Taken)
      (fun _ _ hInv hOk => (tenantInvariant_step hInv hOk).1)
      hInv hAllowed,
    Run.relates_run (TenantInvariant Taken)
      (fun s t => FollowedBy s.status t.status)
      (fun _ => ⟨fun _ h => h, fun _ => rfl⟩)
      followedBy_trans
      (fun _ _ hInv hOk => (tenantInvariant_step hInv hOk).1)
      (fun _ _ hInv hOk => (tenantInvariant_step hInv hOk).2)
      hInv hAllowed⟩

/-
  In every run the status of the tenant has one of its forms,
  for targets that turns of the run took, and later turns
  keep what was allocated and what is ready.
-/
theorem form_run
    (metadata : ObjectMeta)
    (spec : AkeylessEphemeralTenantSpec)
    (events more : List Event) :
    let s := Run.run step (created metadata spec) events
    Form (TakenIn events) s.status ∧
      FollowedBy s.status (Run.run step s more).status := by
  intro s
  have hInv :=
    (tenantInvariant_run (TakenIn events)
      (tenantInvariant_created _ metadata spec)
      (fun e hMem => ⟨e, hMem, rfl⟩)).1
  have hLater :=
    (tenantInvariant_run (TakenIn (events ++ more))
      ⟨hInv.readable, hInv.form.mono (fun _ h => by
        rcases h with ⟨e, hMem, hTarget⟩
        exact ⟨e, List.mem_append_left _ hMem, hTarget⟩)⟩
      (fun e hMem =>
        ⟨e, List.mem_append_right _ hMem, rfl⟩)).2
  exact ⟨hInv.form, hLater⟩

/- The calls are answered, and no service is missing. -/
def Favourable (s : TenantRun) (e : Event) : Prop :=
  e.faults = [] ∧
    readinessIn (s.world e).cluster e.target ≠ .waiting

instance (s : TenantRun) (e : Event) :
    Decidable (s.Favourable e) :=
  inferInstanceAs (Decidable (_ ∧ _))

/- It makes a tenant ready that was not. -/
theorem madeReady_of_favourable
    {Taken : Option String → Prop}
    {s : TenantRun}
    (hInv : TenantInvariant Taken s)
    {e : Event}
    (hTaken : Taken e.target)
    (hFavourable : s.Favourable e)
    (hNotReady : s.status.phase ≠ some .ready) :
    MadeReady e.target s.status (s.step e).status := by
  have hOpen :
      s.phase = .pending ∨ s.phase = .podsRunning := by
    rcases phase_of_form hInv.form with
      ⟨hReady, _⟩ | ⟨_, hOpen⟩
    · exact absurd hReady hNotReady
    · exact hOpen
  rcases readTenant_object hInv.readable with
    ⟨obj, old, hRead, hOld, hStatus, hMetadata, hObj,
      hPhase⟩
  have hAnswer :=
    answerIn_of_open hPhase hOpen e.ctx (s.world e).cluster
  have hPatched :=
    tenants_exec_reconcile_of_quiet (w := s.world e)
      hFavourable.1 hAnswer (fun patch => by
        simp [tenants, world, object, Stored.patchNamed,
          Stored.isNamed, hMetadata])
  have hStored :=
    stored_write_of_patched s hMetadata hPatched
  have hWrites : s.Writes e (s.step e) := by
    refine ⟨obj, _, hMetadata, hObj, hPhase, hAnswer, ?_⟩
    simp only [step, hRead]
    rw [hStored, ← hStatus]
    exact ofStored_merge _ hOld
  exact (status_of_writes hInv hTaken hWrites).2.2
    hFavourable.2

end TenantRun

namespace Reference

/- A turn with a target in the cluster. -/
def tenantTurn
    (services : List ObjectMeta)
    (faults : List ApiFault) : TenantRun.Event where
  ctx := { ctx with
    env := fun key =>
      if key = "DAST_TARGET_URL" then
        some "http://saas.akeyless.svc:8080"
      else
        none }
  surroundings := { emptyCluster with services := services }
  faults := faults

/- The service the reference's tenant waits for. -/
def tenantService : ObjectMeta :=
  { metadata "saas" with «namespace» := some "akeyless" }

/- The service is missing, and then the patch is refused. -/
def untilAnswered : List TenantRun.Event :=
  [tenantTurn [] [],
    tenantTurn [tenantService] [.none, .refused]]

/- A turn after the target was taken away. -/
def untargetedTurn : TenantRun.Event where
  ctx := ctx
  surroundings := emptyCluster
  faults := []

end Reference

namespace TenantRun

end TenantRun

end EngenhoPromessa
