import EngenhoPromessa.Controllers.Cluster
import EngenhoPromessa.Text.Str

/-
  The ephemeral tenant controller: it resolves the target of
  the dynamic scanners from the environment and reports it
  in the tenant's status.

  Key definitions include:
    * `EphemeralTenant.resolveDastTarget`
    * `EphemeralTenant.inClusterServiceRef`
    * `EphemeralTenant.assessTarget`
    * `EphemeralTenant.reconcile`

  Key theorems include:
    * `EphemeralTenant.answer_of_exec_nextStatus`
-/

------------------------------------------------------------
-- The Target
------------------------------------------------------------

namespace EngenhoPromessa

namespace EphemeralTenant

/- What the tenant controller finds out about the target. -/
inductive TargetReadiness where
  | readyAt (url : String)
  | waiting
  | noTarget
deriving DecidableEq, Repr

/-
  The target is an environment variable, trimmed; a blank
  one counts as unset.
-/
def resolveDastTarget (env : Env) : Option String :=
  ((env "DAST_TARGET_URL").map Str.trim).filter
    (fun s => !s.isEmpty)

/- The namespace and the name of an in-cluster service. -/
def inClusterServiceRef
    (url : String) : Option (String × String) :=
  let afterScheme := ((Str.split "://" url)[1]?).getD url
  let host := Str.beforeAny ['/', ':'] afterScheme
  if !Str.contains ".svc" host then
    none
  else
    match Str.split "." host with
    | name :: ns :: "svc" :: _ => some (ns, name)
    | _ => none

/- A target outside the cluster counts as reachable. -/
def assessTarget
    (target : Option String) : Kube TargetReadiness :=
  match target with
  | none => return .noTarget
  | some url =>
      match inClusterServiceRef url with
      | none => return .readyAt url
      | some (svcNs, svcName) => do
          let service ← Api.getService svcNs svcName
          if service.isSome then
            return .readyAt url
          else
            return .waiting

end EphemeralTenant

end EngenhoPromessa

------------------------------------------------------------
-- The Reconcile Step
------------------------------------------------------------

namespace EngenhoPromessa

namespace EphemeralTenant

/- The status of a tenant torn down. -/
def reapedStatus
    (ctx : ReconcileCtx)
    (obj : AkeylessEphemeralTenant) :
    AkeylessEphemeralTenantStatus :=
  { obj.statusOrDefault with
    observedGeneration := obj.generation
    phase := some .reaped
    teardownStartedAt :=
      some (ctx.clock .teardownStartedAt) }

/- The status for a target that was found to be so ready. -/
def assessedStatus
    (ctx : ReconcileCtx)
    (obj : AkeylessEphemeralTenant)
    (target : Option String)
    (readiness : TargetReadiness) :
    AkeylessEphemeralTenantStatus :=
  let now := ctx.clock .assessedAt
  let old := obj.statusOrDefault
  let new :=
    { old with
      observedGeneration := obj.generation
      allocatedAt := old.allocatedAt.or (some now) }
  match readiness with
  | .readyAt url =>
      { new with
        phase := some .ready
        readyAt := some now
        ingressUrl := some url
        podsReady := 1
        podsTotal := 1
        podsReadyOverTotal := some "1/1" }
  | .noTarget =>
      { new with
        phase := some .ready
        readyAt := some now
        ingressUrl := none
        podsReady := 0
        podsTotal := 0
        podsReadyOverTotal := some "0/0" }
  | .waiting =>
      { new with
        phase := some .podsRunning
        ingressUrl := target }

/- Seconds until the next turn, by what was found. -/
def requeueAfter : TargetReadiness → Nat
| .readyAt _ => 600
| .noTarget => 600
| .waiting => 15

/- One assessment: the status to store and when to come back. -/
def assess
    (ctx : ReconcileCtx)
    (obj : AkeylessEphemeralTenant) :
    Kube (Option AkeylessEphemeralTenantStatus × Nat) := do
  let target := resolveDastTarget ctx.env
  let readiness ← assessTarget target
  return (some (assessedStatus ctx obj target readiness),
    requeueAfter readiness)

/-
  The status to patch, if any, and the seconds until the
  next step.
-/
def nextStatus
    (ctx : ReconcileCtx)
    (obj : AkeylessEphemeralTenant) :
    Kube (Option AkeylessEphemeralTenantStatus × Nat) :=
  match obj.currentPhase with
  | .ready => return (none, 600)
  | .scanning => return (none, 600)
  | .reaped => return (none, 3600)
  | .failed => return (none, 3600)
  | .teardown => return (some (reapedStatus ctx obj), 3600)
  | .pending => assess ctx obj
  | .infraProvisioning => assess ctx obj
  | .chartRendering => assess ctx obj
  | .podsRunning => assess ctx obj

variable [Chrono]

/- The status patch of a tenant. -/
def patchStatus
    («namespace» name : String)
    (status : AkeylessEphemeralTenantStatus) : Kube Unit :=
  Api.patchTenantStatus «namespace» name
    (.obj [("status", status.toValue)])

/- One turn of the tenant controller. -/
def reconcile
    (ctx : ReconcileCtx)
    (obj : AkeylessEphemeralTenant) : Kube Nat := do
  match ← nextStatus ctx obj with
  | (none, requeue) => return requeue
  | (some new, requeue) =>
      patchStatus obj.metadata.namespaceOrDefault
        obj.metadata.nameAny new
      return requeue

end EphemeralTenant

end EngenhoPromessa

------------------------------------------------------------
-- What A Step Answers
------------------------------------------------------------

namespace EngenhoPromessa

namespace EphemeralTenant

open Fallible

/-
  The statuses a step can answer with: the end of a teardown,
  or what was found of the target.
-/
inductive Answer
    (ctx : ReconcileCtx)
    (obj : AkeylessEphemeralTenant) :
    AkeylessEphemeralTenantStatus → Prop where
  | reaped
      (hPhase : obj.currentPhase = .teardown) :
      Answer ctx obj (reapedStatus ctx obj)
  | assessed
      (readiness : TargetReadiness)
      (hPhase : obj.currentPhase ≠ .teardown)
      (hTarget :
        readiness = .noTarget ↔
          resolveDastTarget ctx.env = none) :
      Answer ctx obj
        (assessedStatus ctx obj (resolveDastTarget ctx.env)
          readiness)

/- Only a missing target is reported as none. -/
theorem exec_assessTarget_eq_ok
    {target : Option String}
    {w w' : World}
    {readiness : TargetReadiness}
    (hRun :
      (assessTarget target).exec w = (.ok readiness, w')) :
    readiness = .noTarget ↔ target = none := by
  cases target with
  | none =>
      rw [← (exec_pure_eq_ok.mp hRun).1]
      simp
  | some url =>
      unfold assessTarget at hRun
      cases hRef : inClusterServiceRef url with
      | none =>
          simp only [hRef] at hRun
          rw [← (exec_pure_eq_ok.mp hRun).1]
          simp
      | some ref =>
          simp only [hRef] at hRun
          rcases exec_bind_eq_ok.mp hRun with
            ⟨service, w₁, _, hPure⟩
          cases hService : service.isSome with
          | true =>
              simp only [hService, if_true] at hPure
              rw [← (exec_pure_eq_ok.mp hPure).1]
              simp
          | false =>
              simp only [hService, Bool.false_eq_true,
                if_false] at hPure
              rw [← (exec_pure_eq_ok.mp hPure).1]
              simp

/- Outside teardown, an answer is an assessment. -/
theorem exec_assess_eq_ok
    {ctx : ReconcileCtx}
    {obj : AkeylessEphemeralTenant}
    {w w' : World}
    {new : AkeylessEphemeralTenantStatus}
    {requeue : Nat}
    (hRun :
      (assess ctx obj).exec w =
        (.ok (some new, requeue), w'))
    (hPhase : obj.currentPhase ≠ .teardown) :
    Answer ctx obj new := by
  rcases exec_bind_eq_ok.mp hRun with
    ⟨readiness, w₁, hAssess, hPure⟩
  have hNew := (exec_pure_eq_ok.mp hPure).1
  rw [← Option.some.inj (Prod.mk.inj hNew).1]
  exact .assessed readiness hPhase
    (exec_assessTarget_eq_ok hAssess)

/- Whatever the phase, a turn stores one of its two answers. -/
theorem answer_of_exec_nextStatus
    {ctx : ReconcileCtx}
    {obj : AkeylessEphemeralTenant}
    {w w' : World}
    {new : AkeylessEphemeralTenantStatus}
    {requeue : Nat}
    (hRun :
      (nextStatus ctx obj).exec w =
        (.ok (some new, requeue), w')) :
    Answer ctx obj new := by
  unfold nextStatus at hRun
  cases hPhase : obj.currentPhase with
  | teardown =>
      simp only [hPhase] at hRun
      have hNew := (exec_pure_eq_ok.mp hRun).1
      rw [← Option.some.inj (Prod.mk.inj hNew).1]
      exact .reaped hPhase
  | pending =>
      simp only [hPhase] at hRun
      exact exec_assess_eq_ok hRun (by simp [hPhase])
  | infraProvisioning =>
      simp only [hPhase] at hRun
      exact exec_assess_eq_ok hRun (by simp [hPhase])
  | chartRendering =>
      simp only [hPhase] at hRun
      exact exec_assess_eq_ok hRun (by simp [hPhase])
  | podsRunning =>
      simp only [hPhase] at hRun
      exact exec_assess_eq_ok hRun (by simp [hPhase])
  | ready => simp [hPhase] at hRun
  | scanning => simp [hPhase] at hRun
  | reaped => simp [hPhase] at hRun
  | failed => simp [hPhase] at hRun

end EphemeralTenant

end EngenhoPromessa
