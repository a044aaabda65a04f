import EngenhoPromessa.Controllers.Cluster
import EngenhoPromessa.Effect.Progress

/-
  Calls in a quiet world, where each is answered.

  What a call then does to the cluster, and when the server
  has a good answer for it: a resource that exists must be
  readable, and one that is created must be new.

  Key definitions include:
    * `World.Quietly`

  Key theorems include:
    * `Kube.achieves_call`
    * `Api.achieves_getTenant`
    * `Api.achieves_createScanJob`
    * `Api.achieves_patchValidationStatus`
-/

------------------------------------------------------------
-- Quiet Worlds
------------------------------------------------------------

namespace EngenhoPromessa

namespace World

/- No call from here on fails, and the cluster is such. -/
def Quietly (P : Cluster → Prop) (w : World) : Prop :=
  w.faults = [] ∧ P w.cluster

theorem Quietly.fault
    {P : Cluster → Prop}
    {w : World}
    (hQuiet : w.Quietly P)
    (i : Nat) :
    w.fault i = .none := by
  simp [World.fault, hQuiet.1]

theorem Quietly.imp
    {P Q : Cluster → Prop}
    {w : World}
    (hImp : ∀ cluster, P cluster → Q cluster)
    (hQuiet : w.Quietly P) :
    w.Quietly Q :=
  ⟨hQuiet.1, hImp _ hQuiet.2⟩

end World

namespace Kube

open Fallible World

/- A call the server accepts succeeds in a quiet world. -/
theorem achieves_call
    {α : Type}
    {P : Cluster → Prop}
    {Q : α → Cluster → Prop}
    (c : ApiCall)
    {serve : Cluster → Except KubeError α × Cluster}
    (hServe : ∀ cluster, P cluster →
      ∃ a, (serve cluster).1 = .ok a ∧
        Q a (serve cluster).2) :
    Achieves (Quietly P) (call c serve)
      (fun a => Quietly (Q a)) := by
  intro w hQuiet
  rcases hServe w.cluster hQuiet.2 with ⟨a, hOk, hQ⟩
  refine ⟨a, { w.called c with
    cluster := (serve w.cluster).2 }, ?_, ?_, hQ⟩
  · simp only [call, exec_ofExec, hQuiet.fault, hOk]
  · simp [called, hQuiet.1]

/- A read the server answers succeeds in a quiet world. -/
theorem achieves_read
    {α : Type}
    {P : Cluster → Prop}
    {Q : α → Cluster → Prop}
    (c : ApiCall)
    {serve : Cluster → Except KubeError α}
    (hServe : ∀ cluster, P cluster →
      ∃ a, serve cluster = .ok a ∧ Q a cluster) :
    Achieves (Quietly P) (read c serve)
      (fun a => Quietly (Q a)) :=
  achieves_call c hServe

/- A read of what the cluster has for sure. -/
theorem achieves_lookup
    {α : Type}
    {P : Cluster → Prop}
    (c : ApiCall)
    (look : Cluster → α) :
    Achieves (Quietly P)
      (read c (fun cluster => .ok (look cluster)))
      (fun a => Quietly (fun cluster =>
        P cluster ∧ look cluster = a)) :=
  achieves_read c (fun cluster hP =>
    ⟨look cluster, rfl, hP, rfl⟩)

end Kube

end EngenhoPromessa

------------------------------------------------------------
-- The Answers Of The Server
------------------------------------------------------------

namespace EngenhoPromessa

namespace Api

open Fallible World Kube

variable [Chrono] [SerdeJson] {P Q : Cluster → Prop}

omit [SerdeJson] in
/-
  Getting a readable tenant succeeds and gives the stored
  one.
-/
theorem achieves_getTenant
    {«namespace» name : String}
    (hReadable : ∀ cluster, P cluster →
      ∀ o ∈ cluster.tenants.find?
          (fun o => o.isNamed «namespace» name),
        (readTenant o).isSome = true) :
    Achieves (Quietly P) (getTenant «namespace» name)
      (fun existing => Quietly (fun cluster =>
        P cluster ∧
          (existing = none →
            cluster.tenants.find?
              (fun o => o.isNamed «namespace» name) =
                none) ∧
          (cluster.tenants.find?
              (fun o => o.isNamed «namespace» name)).bind
                readTenant =
            existing)) := by
  apply achieves_read
  intro cluster hP
  cases hFind : cluster.tenants.find?
      (fun o => o.isNamed «namespace» name) with
  | none => exact ⟨none, rfl, hP, fun _ => rfl, rfl⟩
  | some o =>
      rcases Option.isSome_iff_exists.mp
        (hReadable cluster hP o hFind) with ⟨tenant, hRead⟩
      refine ⟨some tenant, ?_, hP, by simp, by simpa⟩
      simp only [hRead]

omit [Chrono] [SerdeJson] in
/- Creating a tenant of a new name succeeds. -/
theorem achieves_createTenant
    {«namespace» : String}
    {tenant : AkeylessEphemeralTenant}
    (hNew : ∀ cluster, P cluster →
      cluster.tenants.find? (fun o =>
        o.isNamed «namespace»
          tenant.metadata.nameAny) = none)
    (hAfter : ∀ cluster, P cluster → ∀ tenants,
      Q { cluster with tenants := tenants }) :
    Achieves (Quietly P) (createTenant «namespace» tenant)
      (fun _ => Quietly Q) := by
  apply achieves_call
  intro cluster hP
  have hFree :
      cluster.tenants.any (fun o =>
        o.isNamed «namespace»
          tenant.metadata.nameAny) = false := by
    rw [← List.isSome_find?, hNew cluster hP]
    rfl
  refine ⟨(), ?_, ?_⟩
  · simp [hFree]
  · simpa [hFree] using hAfter cluster hP _

/- Getting a readable scan job succeeds. -/
theorem achieves_getScanJob
    {«namespace» name : String}
    (hReadable : ∀ cluster, P cluster →
      ∀ o ∈ cluster.scanJobs.find?
          (fun o => o.isNamed «namespace» name),
        (readScanJob o).isSome = true) :
    Achieves (Quietly P) (getScanJob «namespace» name)
      (fun existing => Quietly (fun cluster =>
        P cluster ∧
          (existing = none →
            cluster.scanJobs.find?
              (fun o => o.isNamed «namespace» name) =
                none))) := by
  apply achieves_read
  intro cluster hP
  cases hFind : cluster.scanJobs.find?
      (fun o => o.isNamed «namespace» name) with
  | none => exact ⟨none, rfl, hP, fun _ => rfl⟩
  | some o =>
      rcases Option.isSome_iff_exists.mp
        (hReadable cluster hP o hFind) with ⟨sj, hRead⟩
      refine ⟨some sj, ?_, hP, by simp⟩
      simp only [hRead]

omit [Chrono] [SerdeJson] in
/- Creating a scan job of a new name succeeds. -/
theorem achieves_createScanJob
    {«namespace» : String}
    {sj : ScanJob}
    (hNew : ∀ cluster, P cluster →
      cluster.scanJobs.find? (fun o =>
        o.isNamed «namespace» sj.metadata.nameAny) = none)
    (hAfter : ∀ cluster, P cluster →
      Q { cluster with
        scanJobs := cluster.scanJobs ++
          [{ metadata := sj.metadata
             spec := sj.spec
             status := none }] }) :
    Achieves (Quietly P) (createScanJob «namespace» sj)
      (fun _ => Quietly Q) := by
  apply achieves_call
  intro cluster hP
  have hFree :
      cluster.scanJobs.any (fun o =>
        o.isNamed «namespace» sj.metadata.nameAny) =
          false := by
    rw [← List.isSome_find?, hNew cluster hP]
    rfl
  refine ⟨(), ?_, ?_⟩
  · simp [hFree]
  · simpa [hFree] using hAfter cluster hP

/-
  Listing scan jobs that all read succeeds and gives them
  all.
-/
theorem achieves_listScanJobs
    {«namespace» : String}
    (hReadable : ∀ cluster, P cluster →
      ((cluster.scanJobs.filter (fun o =>
          o.metadata.namespaceOrDefault =
            «namespace»)).mapM readScanJob).isSome =
        true) :
    Achieves (Quietly P) (listScanJobs «namespace»)
      (fun items => Quietly (fun cluster =>
        P cluster ∧
          (cluster.scanJobs.filter (fun o =>
              o.metadata.namespaceOrDefault =
                «namespace»)).mapM readScanJob =
            some items)) := by
  apply achieves_read
  intro cluster hP
  rcases Option.isSome_iff_exists.mp
    (hReadable cluster hP) with ⟨items, hItems⟩
  exact ⟨items, by simp only [hItems], hP, hItems⟩

omit [Chrono] [SerdeJson] in
/- Creating a job of a new name succeeds. -/
theorem achieves_createJob
    {«namespace» : String}
    {job : Job}
    (hNew : ∀ cluster, P cluster →
      cluster.jobs.find? (fun j =>
        j.metadata.isNamed «namespace»
          job.metadata.nameAny) = none)
    (hAfter : ∀ cluster, P cluster → ∀ jobs,
      Q { cluster with jobs := jobs }) :
    Achieves (Quietly P) (createJob «namespace» job)
      (fun _ => Quietly Q) := by
  apply achieves_call
  intro cluster hP
  have hFree :
      cluster.jobs.any (fun j =>
        j.metadata.isNamed «namespace»
          job.metadata.nameAny) = false := by
    rw [← List.isSome_find?, hNew cluster hP]
    rfl
  refine ⟨(), ?_, ?_⟩
  · simp [hFree]
  · simpa [hFree] using hAfter cluster hP _

omit [Chrono] [SerdeJson] in
/- Patching a scan job that is there succeeds. -/
theorem achieves_patchScanJobStatus
    {«namespace» name : String}
    {patch : Json}
    (hFound : ∀ cluster, P cluster →
      ∃ patched,
        Stored.patchNamed «namespace» name patch
            cluster.scanJobs =
          some patched ∧
        Q { cluster with scanJobs := patched }) :
    Achieves (Quietly P)
      (patchScanJobStatus «namespace» name patch)
      (fun _ => Quietly Q) := by
  apply achieves_call
  intro cluster hP
  rcases hFound cluster hP with ⟨patched, hPatch, hQ⟩
  refine ⟨(), ?_, ?_⟩
  · simp only [hPatch]
  · simpa only [hPatch] using hQ

omit [Chrono] [SerdeJson] in
/- Patching a tenant that is there succeeds. -/
theorem achieves_patchTenantStatus
    {«namespace» name : String}
    {patch : Json}
    (hFound : ∀ cluster, P cluster →
      ∃ patched,
        Stored.patchNamed «namespace» name patch
            cluster.tenants =
          some patched ∧
        Q { cluster with tenants := patched }) :
    Achieves (Quietly P)
      (patchTenantStatus «namespace» name patch)
      (fun _ => Quietly Q) := by
  apply achieves_call
  intro cluster hP
  rcases hFound cluster hP with ⟨patched, hPatch, hQ⟩
  refine ⟨(), ?_, ?_⟩
  · simp only [hPatch]
  · simpa only [hPatch] using hQ

omit [Chrono] [SerdeJson] in
/- Patching a validation that is there succeeds. -/
theorem achieves_patchValidationStatus
    {«namespace» name : String}
    {patch : Json}
    (hFound : ∀ cluster, P cluster →
      ∃ patched,
        Stored.patchNamed «namespace» name patch
            cluster.validations =
          some patched ∧
        Q { cluster with validations := patched }) :
    Achieves (Quietly P)
      (patchValidationStatus (.namespaced «namespace») name
        patch)
      (fun _ => Quietly Q) := by
  apply achieves_call
  intro cluster hP
  rcases hFound cluster hP with ⟨patched, hPatch, hQ⟩
  refine ⟨(), ?_, ?_⟩
  · simp only [hPatch]
  · simpa only [hPatch] using hQ

end Api

end EngenhoPromessa
