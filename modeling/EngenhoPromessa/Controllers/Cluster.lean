import EngenhoPromessa.Crds.EphemeralTenantSerde
import EngenhoPromessa.Crds.ImageValidationSerde
import EngenhoPromessa.ValidationEvents.Events
import EngenhoPromessa.Effect.Fallible

/-
  The cluster the controllers work on, and their calls to
  its API server.

  A call may be refused before it takes effect, or its
  answer may be lost after it did; the faults a step meets
  are given with its world, one per call. The calls made,
  each with what became of it, and the events published are
  kept in order.

  Key definitions include:
    * `Stored`
    * `Cluster`
    * `World`
    * `Kube`
    * `Kube.call`
    * `ReconcileCtx`
-/

------------------------------------------------------------
-- Resources
------------------------------------------------------------

namespace EngenhoPromessa

/- A stored custom resource; its status is still JSON. -/
structure Stored (S : Type) where
  metadata : ObjectMeta
  spec : S
  status : Option Json

namespace Stored

variable {S : Type}

/- Whether an object is the one a call names. -/
def isNamed
    (o : Stored S)
    («namespace» name : String) : Bool :=
  o.metadata.namespaceOrDefault = «namespace» &&
    o.metadata.nameAny = name

/- A merge patch of the status subresource. -/
def patchStatus
    (o : Stored S)
    (patch : Json) : Stored S :=
  { o with
    status := Json.mergeMember o.status (patch.get? "status") }

/- Patch the first resource of a name, if there is one. -/
def patchNamed
    («namespace» name : String)
    (patch : Json) : List (Stored S) → Option (List (Stored S))
| [] => none
| o :: os =>
    if o.isNamed «namespace» name then
      some (o.patchStatus patch :: os)
    else
      (patchNamed «namespace» name patch os).map (o :: ·)

/- A patch is found again where it was put. -/
theorem find?_patchNamed
    {«namespace» name : String}
    (patch : Json)
    {os : List (Stored S)}
    {o : Stored S}
    (hFind :
      os.find? (fun o => o.isNamed «namespace» name) =
        some o) :
    ∃ os', patchNamed «namespace» name patch os = some os' ∧
      os'.find? (fun o => o.isNamed «namespace» name) =
        some (o.patchStatus patch) := by
  induction os with
  | nil => simp at hFind
  | cons p os ih =>
      by_cases hNamed : p.isNamed «namespace» name = true
      · obtain rfl : p = o := by
          simpa [List.find?_cons, hNamed] using hFind
        have hStill :
            (p.patchStatus patch).isNamed «namespace» name =
              true := hNamed
        exact ⟨p.patchStatus patch :: os,
          by simp [patchNamed, hNamed],
          by simp [hStill]⟩
      · rcases ih (by
          simpa [List.find?_cons, hNamed] using hFind) with
          ⟨os', hPatch, hFind'⟩
        exact ⟨p :: os',
          by simp [patchNamed, hNamed, hPatch],
          by simpa [List.find?_cons, hNamed] using hFind'⟩

/- Every resource was there before, or was one patched. -/
theorem mem_of_patchNamed
    {«namespace» name : String}
    {patch : Json}
    {os os' : List (Stored S)}
    (hPatch :
      patchNamed «namespace» name patch os = some os')
    {o' : Stored S}
    (hMem : o' ∈ os') :
    o' ∈ os ∨ ∃ o ∈ os, o' = o.patchStatus patch := by
  induction os generalizing os' with
  | nil => simp [patchNamed] at hPatch
  | cons o os ih =>
      by_cases hNamed : o.isNamed «namespace» name = true
      · rw [patchNamed, if_pos hNamed] at hPatch
        rw [← Option.some.inj hPatch] at hMem
        rcases List.mem_cons.mp hMem with rfl | hRest
        · exact Or.inr ⟨o, List.mem_cons_self, rfl⟩
        · exact Or.inl (List.mem_cons_of_mem _ hRest)
      · rw [patchNamed, if_neg hNamed] at hPatch
        rcases Option.map_eq_some_iff.mp hPatch with
          ⟨rest, hRest, rfl⟩
        rcases List.mem_cons.mp hMem with rfl | hTail
        · exact Or.inl List.mem_cons_self
        · rcases ih hRest hTail with
            hOld | ⟨p, hp, hPatched⟩
          · exact Or.inl (List.mem_cons_of_mem _ hOld)
          · exact Or.inr
              ⟨p, List.mem_cons_of_mem _ hp, hPatched⟩

end Stored

/- What the controllers read and write of a `Job`'s spec. -/
structure JobSpec where
  backoffLimit : Option Int
  ttlSecondsAfterFinished : Option Int
  podLabels : List (String × String)
  restartPolicy : Option String
  priorityClassName : Option String
  image : String
  args : List String
deriving DecidableEq, Repr

/- The counters of a `Job`'s status. -/
structure JobStatus where
  succeeded : Option Int
  failed : Option Int
deriving DecidableEq, Repr

/- A `Job` as the API server stores it. -/
structure Job where
  metadata : ObjectMeta
  spec : JobSpec
  status : Option JobStatus
deriving DecidableEq, Repr

/- The phases of a pod. -/
inductive PodPhase where
  | pending
  | running
  | succeeded
  | failed
  | unknown
deriving DecidableEq, Repr

/- A pod with what its log endpoint returns. -/
structure Pod where
  metadata : ObjectMeta
  phase : Option PodPhase
  log : String
deriving DecidableEq, Repr

/- A config map as the API server stores it. -/
structure ConfigMap where
  metadata : ObjectMeta
  data : List (String × String)
deriving DecidableEq, Repr

/- The resource has this namespace and name. -/
def ObjectMeta.isNamed
    (m : ObjectMeta)
    («namespace» name : String) : Bool :=
  m.namespaceOrDefault = «namespace» && m.nameAny = name

end EngenhoPromessa

------------------------------------------------------------
-- The World Of A Step
------------------------------------------------------------

namespace EngenhoPromessa

/- Everything the API server stores that the controllers use. -/
structure Cluster where
  validations : List (Stored AkeylessImageValidationSpec)
  tenants : List (Stored AkeylessEphemeralTenantSpec)
  scanJobs : List (Stored ScanJobSpec)
  jobs : List Job
  pods : List Pod
  configMaps : List ConfigMap
  services : List ObjectMeta

/-
  What can go wrong with one call: it is refused, or it is
  served and its answer lost.
-/
inductive ApiFault where
  | none
  | refused
  | lost
deriving DecidableEq, Repr

/- The ways a call can fail. -/
inductive KubeError where
  | transport
  | notFound
  | conflict
  | decode
deriving DecidableEq, Repr

/- A call of the controllers, by what it is about. -/
inductive ApiCall where
  | get (kind «namespace» name : String)
  | list
      (kind «namespace» : String)
      (label : Option (String × String))
  | create (kind «namespace» name : String)
  | patchStatus (kind name : String) (patch : Json)
  | podLogs («namespace» : String) (pod : Pod)

namespace ApiCall

/- Whether a call reads a pod's log. -/
def isPodLogs : ApiCall → Bool
| .podLogs _ _ => true
| _ => false

end ApiCall

/-
  A cluster, the faults to come, the calls made and the
  events published.
-/
structure World where
  cluster : Cluster
  faults : List ApiFault
  calls : List (ApiCall × ApiFault)
  published : List ValidationEvent

namespace World

/- What becomes of the `i`-th call from here on. -/
def fault (w : World) (i : Nat) : ApiFault :=
  (w.faults[i]?).getD .none

/- The world after a call was made, its service aside. -/
def called (w : World) (c : ApiCall) : World :=
  { w with
    faults := w.faults.tail
    calls := w.calls ++ [(c, w.fault 0)] }

@[simp] theorem fault_called
    (w : World)
    (c : ApiCall)
    (i : Nat) :
    (w.called c).fault i = w.fault (i + 1) := by
  simp [fault, called]

@[simp] theorem cluster_called (w : World) (c : ApiCall) :
    (w.called c).cluster = w.cluster := rfl

@[simp] theorem calls_called (w : World) (c : ApiCall) :
    (w.called c).calls = w.calls ++ [(c, w.fault 0)] := rfl

end World

/-
  A computation that calls the API server and publishes
  events.
-/
abbrev Kube (α : Type) := Fallible World KubeError α

end EngenhoPromessa

------------------------------------------------------------
-- Calls
------------------------------------------------------------

namespace EngenhoPromessa

namespace Kube

/-
  A call: the next fault decides whether it is served and
  whether the caller gets the answer.
-/
def call
    {α : Type}
    (c : ApiCall)
    (serve : Cluster → Except KubeError α × Cluster) :
    Kube α :=
  Fallible.ofExec (fun w =>
    let answer := serve w.cluster
    match w.fault 0 with
    | .none =>
        (answer.1, { w.called c with cluster := answer.2 })
    | .refused => (.error .transport, w.called c)
    | .lost =>
        (.error .transport,
          { w.called c with cluster := answer.2 }))

/- A call that stores nothing. -/
def read
    {α : Type}
    (c : ApiCall)
    (serve : Cluster → Except KubeError α) : Kube α :=
  call c (fun cluster => (serve cluster, cluster))

/- Publishing an event, which never fails. -/
def publish (event : ValidationEvent) : Kube Unit :=
  Fallible.ofExec (fun w =>
    (.ok (), { w with published := w.published ++ [event] }))

end Kube

/-
  The namespace scope of an API handle. A status patch has no
  route in the cluster-wide one.
-/
inductive ApiScope where
  | all
  | namespaced («namespace» : String)
deriving DecidableEq, Repr

namespace Api

open Kube

variable [Chrono] [SerdeJson]

/- A stored tenant, when its status reads. -/
def readTenant
    (o : Stored AkeylessEphemeralTenantSpec) :
    Option AkeylessEphemeralTenant :=
  (AkeylessEphemeralTenantStatus.ofStored o.status).map
    (fun status =>
      { metadata := o.metadata
        spec := o.spec
        status := status })

/- `Api::get_opt` of a tenant. -/
def getTenant
    («namespace» name : String) :
    Kube (Option AkeylessEphemeralTenant) :=
  read (.get "AkeylessEphemeralTenant" «namespace» name)
    (fun cluster =>
      match cluster.tenants.find?
          (fun o => o.isNamed «namespace» name) with
      | none => .ok none
      | some o =>
          match readTenant o with
          | some tenant => .ok (some tenant)
          | none => .error .decode)

/-
  `Api::create` of a tenant: a taken name is a conflict, and
  a status sent along is dropped.
-/
def createTenant
    («namespace» : String)
    (tenant : AkeylessEphemeralTenant) : Kube Unit :=
  call
    (.create "AkeylessEphemeralTenant" «namespace»
      tenant.metadata.nameAny)
    (fun cluster =>
      if cluster.tenants.any (fun o =>
          o.isNamed «namespace»
            tenant.metadata.nameAny) then
        (.error .conflict, cluster)
      else
        (.ok (), { cluster with
          tenants := cluster.tenants ++
            [{ metadata := tenant.metadata
               spec := tenant.spec
               status := none }] }))

/- `Api::patch_status` of a tenant, a merge patch. -/
def patchTenantStatus
    («namespace» name : String)
    (patch : Json) : Kube Unit :=
  call (.patchStatus "AkeylessEphemeralTenant" name patch)
    (fun cluster =>
      match Stored.patchNamed «namespace» name patch
          cluster.tenants with
      | some tenants =>
          (.ok (), { cluster with tenants := tenants })
      | none => (.error .notFound, cluster))

/- A stored scan job, when its status reads. -/
def readScanJob (o : Stored ScanJobSpec) : Option ScanJob :=
  (ScanJobStatus.ofStored o.status).map (fun status =>
    { metadata := o.metadata
      spec := o.spec
      status := status })

/-
  `Api::list` of the scan jobs of a namespace: one that does
  not read fails the whole list.
-/
def listScanJobs
    («namespace» : String) : Kube (List ScanJob) :=
  read (.list "ScanJob" «namespace» none) (fun cluster =>
    let items := cluster.scanJobs.filter (fun o =>
      o.metadata.namespaceOrDefault = «namespace»)
    match items.mapM readScanJob with
    | some scanJobs => .ok scanJobs
    | none => .error .decode)

/- `Api::get_opt` of a scan job. -/
def getScanJob
    («namespace» name : String) : Kube (Option ScanJob) :=
  read (.get "ScanJob" «namespace» name) (fun cluster =>
    match cluster.scanJobs.find?
        (fun o => o.isNamed «namespace» name) with
    | none => .ok none
    | some o =>
        match readScanJob o with
        | some scanJob => .ok (some scanJob)
        | none => .error .decode)

/- `Api::create` of a scan job. -/
def createScanJob
    («namespace» : String)
    (scanJob : ScanJob) : Kube Unit :=
  call
    (.create "ScanJob" «namespace» scanJob.metadata.nameAny)
    (fun cluster =>
      if cluster.scanJobs.any (fun o =>
          o.isNamed «namespace»
            scanJob.metadata.nameAny) then
        (.error .conflict, cluster)
      else
        (.ok (), { cluster with
          scanJobs := cluster.scanJobs ++
            [{ metadata := scanJob.metadata
               spec := scanJob.spec
               status := none }] }))

/- `Api::patch_status` of a scan job, a merge patch. -/
def patchScanJobStatus
    («namespace» name : String)
    (patch : Json) : Kube Unit :=
  call (.patchStatus "ScanJob" name patch) (fun cluster =>
    match Stored.patchNamed «namespace» name patch
        cluster.scanJobs with
    | some scanJobs =>
        (.ok (), { cluster with scanJobs := scanJobs })
    | none => (.error .notFound, cluster))

/- A stored validation, when its status reads. -/
def readValidation
    (o : Stored AkeylessImageValidationSpec) :
    Option AkeylessImageValidation :=
  (AkeylessImageValidationStatus.ofStored o.status).map
    (fun status =>
      { metadata := o.metadata
        spec := o.spec
        status := status })

/- `Api::get_opt` of a validation. -/
def getValidation
    («namespace» name : String) :
    Kube (Option AkeylessImageValidation) :=
  read (.get "AkeylessImageValidation" «namespace» name)
    (fun cluster =>
      match cluster.validations.find?
          (fun o => o.isNamed «namespace» name) with
      | none => .ok none
      | some o =>
          match readValidation o with
          | some validation => .ok (some validation)
          | none => .error .decode)

/-
  `Api::patch_status` of a validation; without a namespace
  no object is found.
-/
def patchValidationStatus
    (scope : ApiScope)
    (name : String)
    (patch : Json) : Kube Unit :=
  call (.patchStatus "AkeylessImageValidation" name patch)
    (fun cluster =>
      match scope with
      | .all => (.error .notFound, cluster)
      | .namespaced «namespace» =>
          match Stored.patchNamed «namespace» name patch
              cluster.validations with
          | some validations =>
              (.ok (), { cluster with
                validations := validations })
          | none => (.error .notFound, cluster))

/- `Api::get_opt` of a `Job`. -/
def getJob
    («namespace» name : String) : Kube (Option Job) :=
  read (.get "Job" «namespace» name) (fun cluster =>
    .ok (cluster.jobs.find?
      (fun job => job.metadata.isNamed «namespace» name)))

/- `Api::create` of a `Job`. -/
def createJob
    («namespace» : String)
    (job : Job) : Kube Unit :=
  call (.create "Job" «namespace» job.metadata.nameAny)
    (fun cluster =>
      if cluster.jobs.any (fun j =>
          j.metadata.isNamed «namespace»
            job.metadata.nameAny) then
        (.error .conflict, cluster)
      else
        (.ok (), { cluster with
          jobs := cluster.jobs ++ [job] }))

/- The pods of a namespace that carry a label. -/
def listPods
    («namespace» : String)
    (label : String × String) : Kube (List Pod) :=
  read (.list "Pod" «namespace» (some label))
    (fun cluster =>
      .ok (cluster.pods.filter (fun pod =>
        pod.metadata.namespaceOrDefault = «namespace» &&
          pod.metadata.labels.lookup label.1 =
            some label.2)))

/- `Api::logs` of a pod. -/
def podLogs
    («namespace» : String)
    (pod : Pod) : Kube String :=
  read (.podLogs «namespace» pod) (fun _ => .ok pod.log)

/- `Api::get_opt` of a config map. -/
def getConfigMap
    («namespace» name : String) :
    Kube (Option ConfigMap) :=
  read (.get "ConfigMap" «namespace» name) (fun cluster =>
    .ok (cluster.configMaps.find?
      (fun cm => cm.metadata.isNamed «namespace» name)))

/- `Api::create` of a config map. -/
def createConfigMap
    («namespace» : String)
    (cm : ConfigMap) : Kube Unit :=
  call (.create "ConfigMap" «namespace» cm.metadata.nameAny)
    (fun cluster =>
      if cluster.configMaps.any (fun c =>
          c.metadata.isNamed «namespace»
            cm.metadata.nameAny) then
        (.error .conflict, cluster)
      else
        (.ok (), { cluster with
          configMaps := cluster.configMaps ++ [cm] }))

/- A service is looked up for its existence only. -/
def getService
    («namespace» name : String) :
    Kube (Option ObjectMeta) :=
  read (.get "Service" «namespace» name) (fun cluster =>
    .ok (cluster.services.find?
      (fun service => service.isNamed «namespace» name)))

end Api

end EngenhoPromessa

------------------------------------------------------------
-- What A Call Does
------------------------------------------------------------

namespace EngenhoPromessa

namespace Kube

/- Only a refused call is not served. -/
theorem cluster_exec_call
    {α : Type}
    (c : ApiCall)
    (serve : Cluster → Except KubeError α × Cluster)
    (w : World) :
    ((call c serve).exec w).2.cluster =
      if w.fault 0 = .refused then w.cluster
      else (serve w.cluster).2 := by
  simp only [call, Fallible.exec_ofExec]
  cases w.fault 0 with
  | none => rfl
  | refused => rfl
  | lost => rfl

/- Whatever becomes of a call, its service may be done. -/
theorem exec_call_cluster
    {α : Type}
    (c : ApiCall)
    (serve : Cluster → Except KubeError α × Cluster)
    (w : World) :
    ((call c serve).exec w).2.cluster = w.cluster ∨
      ((call c serve).exec w).2.cluster =
        (serve w.cluster).2 := by
  rw [cluster_exec_call]
  split
  · exact Or.inl rfl
  · exact Or.inr rfl

/- Every call is recorded and uses up one fault. -/
theorem calls_exec_call
    {α : Type}
    (c : ApiCall)
    (serve : Cluster → Except KubeError α × Cluster)
    (w : World) :
    ((call c serve).exec w).2.calls =
      w.calls ++ [(c, w.fault 0)] := by
  simp only [call, Fallible.exec_ofExec]
  cases hFault : w.fault 0 with
  | none => simp [hFault]
  | refused => simp [hFault]
  | lost => simp [hFault]

/- A call moves on to the next fault. -/
theorem fault_exec_call
    {α : Type}
    (c : ApiCall)
    (serve : Cluster → Except KubeError α × Cluster)
    (w : World)
    (i : Nat) :
    ((call c serve).exec w).2.fault i = w.fault (i + 1) := by
  rw [← World.fault_called w c]
  simp only [call, Fallible.exec_ofExec]
  cases w.fault 0 with
  | none => rfl
  | refused => rfl
  | lost => rfl

/-
  A call keeps a view that its service keeps, lost answers
  included.
-/
theorem keeps_call
    {α γ : Type}
    (view : Cluster → γ)
    (c : ApiCall)
    {serve : Cluster → Except KubeError α × Cluster}
    (hServe :
      ∀ cluster, view (serve cluster).2 = view cluster) :
    Fallible.Keeps (fun w => view w.cluster)
      (call c serve) := by
  intro w
  rcases exec_call_cluster c serve w with hSame | hServed
  · exact congrArg view hSame
  · exact (congrArg view hServed).trans (hServe w.cluster)

/- A call preserves what its service preserves. -/
theorem preserves_call
    {α : Type}
    {P : Cluster → Prop}
    (c : ApiCall)
    {serve : Cluster → Except KubeError α × Cluster}
    (hServe :
      ∀ cluster, P cluster → P (serve cluster).2) :
    Fallible.Preserves (fun w => P w.cluster)
      (call c serve) := by
  intro w hw
  rcases exec_call_cluster c serve w with hSame | hServed
  · rwa [hSame]
  · rw [hServed]
    exact hServe w.cluster hw

/- A read keeps every view of the cluster. -/
theorem keeps_read
    {α γ : Type}
    (view : Cluster → γ)
    (c : ApiCall)
    (serve : Cluster → Except KubeError α) :
    Fallible.Keeps (fun w => view w.cluster)
      (read c serve) :=
  keeps_call view c (fun _ => rfl)

/- A read leaves nothing behind but its record. -/
theorem exec_read
    {α : Type}
    (c : ApiCall)
    (serve : Cluster → Except KubeError α)
    (w : World) :
    (read c serve).exec w =
      (if w.fault 0 = .none then serve w.cluster
        else .error .transport,
        w.called c) := by
  simp only [read, call, Fallible.exec_ofExec]
  cases w.fault 0 with
  | none => rfl
  | refused => rfl
  | lost => rfl

/-
  A read succeeds when no fault meets it and the server
  answers.
-/
theorem exec_read_eq_ok
    {α : Type}
    {c : ApiCall}
    {serve : Cluster → Except KubeError α}
    {w w' : World}
    {a : α} :
    (read c serve).exec w = (.ok a, w') ↔
      w.fault 0 = .none ∧ serve w.cluster = .ok a ∧
        w' = w.called c := by
  rw [exec_read]
  by_cases hFault : w.fault 0 = .none
  · simp [hFault, eq_comm]
  · simp [hFault]

theorem keeps_publish
    {γ : Type}
    (view : Cluster → γ)
    (event : ValidationEvent) :
    Fallible.Keeps (fun w => view w.cluster)
      (publish event) :=
  fun _ => rfl

end Kube

namespace Api

/- A tenant is answered when it exists and can be read. -/
theorem exec_getTenant_eq_ok
    [Chrono]
    {«namespace» name : String}
    {w w' : World}
    {existing : Option AkeylessEphemeralTenant}
    (hRun :
      (getTenant «namespace» name).exec w =
        (.ok existing, w')) :
    let found := w.cluster.tenants.find?
      (fun o => o.isNamed «namespace» name)
    (existing = none → found = none) ∧
      found.bind readTenant = existing := by
  intro found
  have hServe := (Kube.exec_read_eq_ok.mp hRun).2.1
  cases hFound : found with
  | none =>
      simp only [found] at hFound
      rw [hFound] at hServe
      rw [← Except.ok.inj hServe]
      exact ⟨fun _ => rfl, rfl⟩
  | some o =>
      simp only [found] at hFound
      rw [hFound] at hServe
      dsimp only at hServe
      cases hRead : readTenant o with
      | none => simp [hRead] at hServe
      | some tenant =>
          rw [hRead] at hServe
          rw [← Except.ok.inj hServe]
          exact ⟨fun hNone => by simp at hNone, hRead⟩

/- Creating a tenant leaves validations alone. -/
theorem keeps_validations_createTenant
    («namespace» : String)
    (tenant : AkeylessEphemeralTenant) :
    Fallible.Keeps (fun w => w.cluster.validations)
      (createTenant «namespace» tenant) := by
  apply Kube.keeps_call
  intro cluster
  split
  · rfl
  · rfl

/- Creating a scan job leaves validations alone. -/
theorem keeps_validations_createScanJob
    («namespace» : String)
    (scanJob : ScanJob) :
    Fallible.Keeps (fun w => w.cluster.validations)
      (createScanJob «namespace» scanJob) := by
  apply Kube.keeps_call
  intro cluster
  split
  · rfl
  · rfl

/- A status patch that is not refused is stored. -/
theorem scanJobs_exec_patchScanJobStatus
    («namespace» name : String)
    (patch : Json)
    (w : World) :
    ((patchScanJobStatus «namespace» name patch).exec
        w).2.cluster.scanJobs =
      if w.fault 0 = .refused then w.cluster.scanJobs
      else
        (Stored.patchNamed «namespace» name patch
          w.cluster.scanJobs).getD w.cluster.scanJobs := by
  rw [patchScanJobStatus, Kube.cluster_exec_call]
  split
  · rfl
  · cases Stored.patchNamed «namespace» name patch
        w.cluster.scanJobs with
    | none => rfl
    | some patched => rfl

/- The cluster-wide scope has no status patch route. -/
theorem keeps_validations_patchAll
    (name : String)
    (patch : Json) :
    Fallible.Keeps (fun w => w.cluster.validations)
      (patchValidationStatus .all name patch) :=
  Kube.keeps_call Cluster.validations _ (fun _ => rfl)

/-
  A status patch is stored or it is not, whatever the caller
  learns.
-/
theorem exec_patchValidationStatus
    («namespace» name : String)
    (patch : Json)
    (w : World) :
    let w' := ((patchValidationStatus
      (.namespaced «namespace») name patch).exec w).2
    w'.cluster.validations = w.cluster.validations ∨
      Stored.patchNamed «namespace» name patch
          w.cluster.validations =
        some w'.cluster.validations := by
  intro w'
  have hCluster :
      w'.cluster = w.cluster ∨ w'.cluster = _ :=
    Kube.exec_call_cluster _ _ w
  rcases hCluster with hSame | hServed
  · exact Or.inl (by rw [hSame])
  · cases hPatch : Stored.patchNamed «namespace» name patch
        w.cluster.validations with
    | none =>
        left
        rw [hServed]
        simp [hPatch]
    | some patched =>
        right
        rw [hServed]
        simp [hPatch]

end Api

end EngenhoPromessa

------------------------------------------------------------
-- The Context Of A Reconcile Call
------------------------------------------------------------

namespace EngenhoPromessa

/- The places where a controller reads the clock. -/
inductive ClockRead where
  | startedAt
  | observedAt
  | decidedAt
  | terminalAt
  | publishedAt
  | signedAt
  | firstSeen (i : Nat)
  | recordedAt (i : Nat)
  | assessedAt
  | teardownStartedAt
  | appendedAt (i : Nat)
  | emittedAt (i : Nat)
deriving DecidableEq, Repr

/-
  What a controller is given: its namespace, its environment
  and its clock.
-/
structure ReconcileCtx where
  «namespace» : Option String
  env : Env
  clock : ClockRead → DateTime

end EngenhoPromessa
