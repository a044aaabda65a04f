import EngenhoPromessa.Controllers.GateSafety
import EngenhoPromessa.Controllers.ScanJob

/-
  Where a scan job's findings come from, and what becomes of
  output that cannot be read.

  Key definitions include:
    * `ScanJobController.TakesSuccessfulAttempt`
    * `ScanJobController.RefusesUnreadable`

  Key theorems include:
    * `ScanJobController.exec_collectResults_eq_ok_some_iff`
    * `ScanJobController.takesSuccessfulAttempt_iff`
    * `ScanJobController.refusesUnreadable_iff`
-/

------------------------------------------------------------
-- Reference Worlds
------------------------------------------------------------

namespace EngenhoPromessa

namespace Reference

/- A trivy scan of the reference validation. -/
def runningScan : ScanJob :=
  { childOf .trivy .running [] with
    status := some { ScanJobStatus.default with
      phase := some .running } }

/- Its job, with this many pods that succeeded and failed. -/
def jobAfter (succeeded failed : Int) : Job :=
  { ScanJobController.renderJob ctx.env
      (ScanJobController.jobName runningScan) runningScan with
    status := some ⟨some succeeded, some failed⟩ }

/- A pod of the running scan. -/
def podWith
    (name : String)
    (phase : PodPhase)
    (log : String) : Pod where
  metadata := { metadata name with
    labels := [ScanJobController.podLabel runningScan] }
  phase := some phase
  log := log

/- A world with the scan stored and every call answered. -/
def scanWorld (job : Job) (pods : List Pod) : World where
  cluster :=
    { emptyCluster with
      scanJobs :=
        [{ metadata := runningScan.metadata
           spec := runningScan.spec
           status := some (.obj
            [("phase", .str "Running")]) }]
      jobs := [job]
      pods := pods }
  faults := []
  calls := []
  published := []

end Reference

end EngenhoPromessa

------------------------------------------------------------
-- What The Controller Sees
------------------------------------------------------------

namespace EngenhoPromessa

namespace ScanJobController

open Fallible

/- The `Job` a scan job's turn finds. -/
def jobIn (cluster : Cluster) (sj : ScanJob) : Option Job :=
  cluster.jobs.find? (fun job =>
    job.metadata.isNamed sj.metadata.namespaceOrDefault
      (jobName sj))

/- The pods of the job, in the order they are listed. -/
def podsIn (cluster : Cluster) (sj : ScanJob) : List Pod :=
  cluster.pods.filter (fun pod =>
    pod.metadata.namespaceOrDefault =
        sj.metadata.namespaceOrDefault &&
      pod.metadata.labels.lookup (podLabel sj).1 =
        some (podLabel sj).2)

/- What a log request answers, a failed one with nothing. -/
def logText (fault : ApiFault) (pod : Pod) : String :=
  if fault = .none then pod.log else ""

/- The world after the job and its pods were asked for. -/
def afterListing (w : World) (sj : ScanJob) : World :=
  (w.called
    (.get "Job" sj.metadata.namespaceOrDefault
      (jobName sj))).called
    (.list "Pod" sj.metadata.namespaceOrDefault
      (some (podLabel sj)))

/- The world after a pod's log was asked for, too. -/
def afterLog
    (w : World)
    (sj : ScanJob)
    (pod : Pod) : World :=
  (afterListing w sj).called
    (.podLogs sj.metadata.namespaceOrDefault pod)

/- The calls that list the pods. -/
def listingCalls
    (w : World)
    (sj : ScanJob) : List (ApiCall × ApiFault) :=
  [(.get "Job" sj.metadata.namespaceOrDefault (jobName sj),
      w.fault 0),
    (.list "Pod" sj.metadata.namespaceOrDefault
      (some (podLabel sj)), w.fault 1)]

/- Listing the pods notes those two calls, -/
theorem calls_afterListing (w : World) (sj : ScanJob) :
    (afterListing w sj).calls =
      w.calls ++ listingCalls w sj := by
  simp [afterListing, listingCalls]

/- uses two faults, -/
@[simp] theorem fault_afterListing
    (w : World)
    (sj : ScanJob)
    (i : Nat) :
    (afterListing w sj).fault i = w.fault (i + 2) := by
  simp [afterListing]

/- and reading a log a third. -/
@[simp] theorem fault_afterLog
    (w : World)
    (sj : ScanJob)
    (pod : Pod)
    (i : Nat) :
    (afterLog w sj pod).fault i = w.fault (i + 3) := by
  simp [afterLog]

/-
  Reading a log never fails: an error reads as an empty
  text.
-/
theorem exec_podLogs
    («namespace» : String)
    (pod : Pod)
    (w : World) :
    (unwrapOr "" (Api.podLogs «namespace» pod)).exec w =
      (.ok (logText (w.fault 0) pod),
        w.called (.podLogs «namespace» pod)) := by
  rw [exec_unwrapOr, Api.podLogs, Kube.exec_read, logText]
  by_cases hFault : w.fault 0 = .none
  · simp [hFault, Except.toOption]
  · simp [hFault, Except.toOption]

end ScanJobController

end EngenhoPromessa

------------------------------------------------------------
-- The Snapshot Of A Result
------------------------------------------------------------

namespace EngenhoPromessa

namespace ScanJobController

open Fallible

/- The snapshot that is stored already. -/
def snapshotIn
    (cluster : Cluster)
    (sj : ScanJob)
    (cm : ConfigMap) : Option ConfigMap :=
  cluster.configMaps.find? (fun c =>
    c.metadata.isNamed sj.metadata.namespaceOrDefault
      cm.metadata.nameAny)

/- The call that looks for it. -/
def lookupCall (sj : ScanJob) (cm : ConfigMap) : ApiCall :=
  .get "ConfigMap" sj.metadata.namespaceOrDefault
    cm.metadata.nameAny

/-
  Keeping a snapshot needs its lookup to be answered; what
  becomes of creating it does not matter.
-/
theorem exec_keepSnapshot
    (sj : ScanJob)
    (cm : ConfigMap)
    (w : World) :
    (keepSnapshot sj cm).exec w =
      if w.fault 0 = .none then
        (.ok (),
          match snapshotIn w.cluster sj cm with
          | some _ => w.called (lookupCall sj cm)
          | none =>
              ((Api.createConfigMap
                sj.metadata.namespaceOrDefault cm).exec
                  (w.called (lookupCall sj cm))).2)
      else
        (.error .transport, w.called (lookupCall sj cm)) := by
  have hLookup :
      (Api.getConfigMap sj.metadata.namespaceOrDefault
          cm.metadata.nameAny).exec w =
        (if w.fault 0 = .none then
          .ok (snapshotIn w.cluster sj cm)
        else
          .error .transport,
          w.called (lookupCall sj cm)) :=
    Kube.exec_read _ _ w
  by_cases hFault : w.fault 0 = .none
  · rw [if_pos hFault] at hLookup ⊢
    rw [keepSnapshot, exec_bind_ok hLookup]
    cases snapshotIn w.cluster sj cm with
    | none => simp [exec_unwrapOr]
    | some c => simp
  · rw [if_neg hFault] at hLookup ⊢
    rw [keepSnapshot, exec_bind, hLookup]

/- Keeping a snapshot reads no log, -/
theorem calls_keepSnapshot
    (sj : ScanJob)
    (cm : ConfigMap)
    (w : World) :
    ∃ trace,
      ((keepSnapshot sj cm).exec w).2.calls =
        w.calls ++ trace ∧
      ∀ entry ∈ trace, entry.1.isPodLogs = false := by
  rw [exec_keepSnapshot]
  split
  · cases snapshotIn w.cluster sj cm with
    | some c =>
        refine ⟨[(lookupCall sj cm, w.fault 0)], rfl, ?_⟩
        simp [lookupCall, ApiCall.isPodLogs]
    | none =>
        let create : ApiCall :=
          .create "ConfigMap" sj.metadata.namespaceOrDefault
            cm.metadata.nameAny
        have hCreate :
            ∀ w', ((Api.createConfigMap
                sj.metadata.namespaceOrDefault cm).exec
                  w').2.calls =
              w'.calls ++ [(create, w'.fault 0)] :=
          fun w' => Kube.calls_exec_call _ _ w'
        refine ⟨[(lookupCall sj cm, w.fault 0),
          (create, w.fault 1)], by simp [hCreate], ?_⟩
        simp [create, lookupCall, ApiCall.isPodLogs]
  · refine ⟨[(lookupCall sj cm, w.fault 0)], rfl, ?_⟩
    simp [lookupCall, ApiCall.isPodLogs]

/- The fault the call after a kept snapshot meets. -/
theorem fault_keepSnapshot
    (sj : ScanJob)
    (cm : ConfigMap)
    {w : World}
    (hFault : w.fault 0 = .none) :
    ((keepSnapshot sj cm).exec w).2.fault 0 =
      w.fault (if (snapshotIn w.cluster sj cm).isSome
        then 1 else 2) := by
  rw [exec_keepSnapshot, if_pos hFault]
  cases snapshotIn w.cluster sj cm with
  | some c => simp
  | none =>
      exact (Kube.fault_exec_call _ _ _ 0).trans
        (World.fault_called _ _ 1)

/- and changes no scan job. -/
theorem keeps_scanJobs_keepSnapshot
    (sj : ScanJob)
    (cm : ConfigMap) :
    Keeps (fun w => w.cluster.scanJobs)
      (keepSnapshot sj cm) := by
  apply keeps_bind (Kube.keeps_read _ _ _)
  intro existing
  cases existing with
  | none =>
      apply keeps_unwrapOr
      apply Kube.keeps_call
      intro cluster
      split
      · rfl
      · rfl
  | some c => exact keeps_pure _ _

end ScanJobController

end EngenhoPromessa

------------------------------------------------------------
-- What Is Collected
------------------------------------------------------------

namespace EngenhoPromessa

namespace ScanJobController

open Fallible

variable [Chrono] [SerdeJson] [Blake3]

/- The findings read from a pod, given how it was asked. -/
def findingsOf
    (ctx : ReconcileCtx)
    (sj : ScanJob)
    (fault : ApiFault)
    (pod : Pod) : List ScanFinding :=
  parseScannerOutput ctx (logText fault pod) sj.spec.scanner

/- The snapshot the controller keeps of a pod's output. -/
def snapshotOf
    (ctx : ReconcileCtx)
    (sj : ScanJob)
    (fault : ApiFault)
    (pod : Pod) : ConfigMap :=
  resultConfigMap sj (logText fault pod)
    (findingsOf ctx sj fault pod)

/-
  Reading a pod gives the findings of its log and their
  hash, unless the snapshot cannot be looked up.
-/
theorem exec_readPod_eq_ok_iff
    {ctx : ReconcileCtx}
    {sj : ScanJob}
    {pod : Pod}
    {w w' : World}
    {r : List ScanFinding × String} :
    (readPod ctx sj pod).exec w = (.ok r, w') ↔
      w.fault 1 = .none ∧
      r = (findingsOf ctx sj (w.fault 0) pod,
        hashOf (findingsOf ctx sj (w.fault 0) pod)) ∧
      w' = ((keepSnapshot sj
        (snapshotOf ctx sj (w.fault 0) pod)).exec
          (w.called (.podLogs
            sj.metadata.namespaceOrDefault pod))).2 := by
  rw [readPod, exec_bind_ok (exec_podLogs _ pod w),
    exec_bind, ← findingsOf, ← snapshotOf]
  rcases hKeep : (keepSnapshot sj
      (snapshotOf ctx sj (w.fault 0) pod)).exec
        (w.called (.podLogs
          sj.metadata.namespaceOrDefault pod)) with
    ⟨kept, w₁⟩
  have hResult :
      kept = if w.fault 1 = .none then .ok ()
        else .error .transport := by
    have hFst : kept = _ := (congrArg Prod.fst hKeep).symm
    rw [hFst, exec_keepSnapshot, World.fault_called]
    split
    · rfl
    · rfl
  by_cases hFault : w.fault 1 = .none
  · simp [hResult, hFault, eq_comm]
  · simp [hResult, hFault]

/-
  What has to hold of the world for results to be collected:
  the job is done and every call but the log request and the
  snapshot's creation is answered.
-/
structure Collects
    (w : World)
    (sj : ScanJob)
    (job : Job) : Prop where
  job_found : jobIn w.cluster sj = some job
  job_done : isDone job = true
  job_answered : w.fault 0 = .none
  pods_answered : w.fault 1 = .none
  snapshot_answered :
    podsIn w.cluster sj ≠ [] → w.fault 3 = .none

/- The findings collected and the world that is left. -/
def collected
    (ctx : ReconcileCtx)
    (sj : ScanJob)
    (w : World) : (List ScanFinding × String) × World :=
  match podsIn w.cluster sj with
  | [] =>
      (([], Blake3.hashHex "[]".toUTF8.data.toList),
        afterListing w sj)
  | pod :: _ =>
      let findings := findingsOf ctx sj (w.fault 2) pod
      ((findings, hashOf findings),
        ((keepSnapshot sj
          (snapshotOf ctx sj (w.fault 2) pod)).exec
            (afterLog w sj pod)).2)

/-
  Results are collected when the `Job` is over and its pods
  are listed.
-/
theorem exec_collectResults_eq_ok_some_iff
    {ctx : ReconcileCtx}
    {sj : ScanJob}
    {w w' : World}
    {r : List ScanFinding × String} :
    (collectResults ctx sj).exec w = (.ok (some r), w') ↔
      (∃ job, Collects w sj job) ∧
        (r, w') = collected ctx sj w := by
  constructor
  · intro hRun
    rcases exec_bind_eq_ok.mp hRun with
      ⟨found, w₁, hGet, hRest⟩
    rcases Kube.exec_read_eq_ok.mp hGet with
      ⟨hJobFault, hFound, rfl⟩
    cases found with
    | none => simp at hRest
    | some job =>
        cases hDone : isDone job with
        | false => simp [hDone] at hRest
        | true =>
            simp only [hDone] at hRest
            rcases exec_bind_eq_ok.mp hRest with
              ⟨pods, w₂, hList, hLast⟩
            rcases Kube.exec_read_eq_ok.mp hList with
              ⟨hPodsFault, hPods, rfl⟩
            have hFound : jobIn w.cluster sj = some job := by
              simpa [jobIn] using hFound
            have hPods : podsIn w.cluster sj = pods := by
              simpa [podsIn] using hPods
            rw [World.fault_called] at hPodsFault
            rw [← afterListing] at hLast
            cases pods with
            | nil =>
                rcases exec_pure_eq_ok.mp hLast with
                  ⟨hResult, rfl⟩
                obtain rfl := Option.some.inj hResult
                refine ⟨⟨job, hFound, hDone, hJobFault,
                  hPodsFault, by simp [hPods]⟩, ?_⟩
                simp [collected, hPods]
            | cons pod pods =>
                rcases exec_bind_eq_ok.mp hLast with
                  ⟨result, w₃, hRead, hPure⟩
                rcases exec_pure_eq_ok.mp hPure with
                  ⟨hResult, rfl⟩
                obtain rfl := Option.some.inj hResult
                rcases exec_readPod_eq_ok_iff.mp hRead with
                  ⟨hKept, hFindings, hWorld⟩
                rw [fault_afterListing] at hKept
                refine ⟨⟨job, hFound, hDone, hJobFault,
                  hPodsFault, fun _ => hKept⟩, ?_⟩
                rw [hFindings, hWorld]
                simp [collected, hPods, afterLog]
  · rintro ⟨⟨job, hCollects⟩, hEq⟩
    apply exec_bind_eq_ok.mpr
    refine ⟨some job, _, Kube.exec_read_eq_ok.mpr
      ⟨hCollects.job_answered,
        congrArg Except.ok hCollects.job_found, rfl⟩, ?_⟩
    simp only [hCollects.job_done]
    apply exec_bind_eq_ok.mpr
    refine ⟨podsIn w.cluster sj, afterListing w sj,
      Kube.exec_read_eq_ok.mpr
        ⟨by simpa using hCollects.pods_answered,
          rfl, rfl⟩, ?_⟩
    have hKept := hCollects.snapshot_answered
    rw [collected] at hEq
    cases hPods : podsIn w.cluster sj with
    | nil =>
        rw [hPods] at hEq
        rcases Prod.mk.inj hEq with ⟨rfl, rfl⟩
        rfl
    | cons pod pods =>
        rw [hPods] at hEq hKept
        rcases Prod.mk.inj hEq with ⟨hFindings, hWorld⟩
        apply exec_bind_eq_ok.mpr
        refine ⟨r, w', exec_readPod_eq_ok_iff.mpr
          ⟨?_, ?_, ?_⟩, rfl⟩
        · rw [fault_afterListing]
          exact hKept (List.cons_ne_nil _ _)
        · rw [fault_afterListing]
          exact hFindings
        · rw [fault_afterListing]
          exact hWorld

end ScanJobController

end EngenhoPromessa

------------------------------------------------------------
-- The Attempt The Findings Come From
------------------------------------------------------------

namespace EngenhoPromessa

namespace Job

/- The job succeeded, or failed more often than allowed. -/
def IsFinal (job : Job) : Prop :=
  0 < job.succeeded ∨
    ScanJobController.backoffLimit < job.failed

end Job

namespace ScanJobController

/- Between the worlds the pod's log was read. -/
def ReadsLog
    (w w' : World)
    («namespace» : String)
    (pod : Pod) : Prop :=
  ∃ trace, w'.calls = w.calls ++ trace ∧
    (ApiCall.podLogs «namespace» pod, ApiFault.none) ∈ trace

/- Which logs were read is seen in the calls made since. -/
theorem readsLog_iff_of_calls
    {w w' : World}
    {trace : List (ApiCall × ApiFault)}
    (hCalls : w'.calls = w.calls ++ trace)
    («namespace» : String)
    (pod : Pod) :
    ReadsLog w w' «namespace» pod ↔
      (ApiCall.podLogs «namespace» pod, ApiFault.none) ∈
        trace := by
  constructor
  · rintro ⟨trace', hCalls', hMem⟩
    rw [hCalls'] at hCalls
    rwa [← List.append_cancel_left hCalls]
  · intro hMem
    exact ⟨trace, hCalls, hMem⟩

variable [Chrono] [SerdeJson] [Blake3]

/-
  Findings are taken from a final job only, and those of a
  job that succeeded from the log of a pod that did.
-/
def TakesSuccessfulAttempt
    (ctx : ReconcileCtx)
    (sj : ScanJob)
    (w : World) : Prop :=
  ∀ findings hash w',
    (collectResults ctx sj).exec w =
        (.ok (some (findings, hash)), w') →
      ∃ job, jobIn w.cluster sj = some job ∧
        job.IsFinal ∧
        (0 < job.succeeded →
          (∃ pod ∈ podsIn w.cluster sj,
            pod.phase = some .succeeded ∧
            ReadsLog w w'
              sj.metadata.namespaceOrDefault pod ∧
            findings = parseScannerOutput ctx pod.log
              sj.spec.scanner) ∧
          ∀ pod, ReadsLog w w'
              sj.metadata.namespaceOrDefault pod →
            pod.phase = some .succeeded)

/- Only the log of the first pod is read, if it is. -/
theorem readsLog_collected_iff
    (ctx : ReconcileCtx)
    (sj : ScanJob)
    (w : World)
    (pod : Pod) :
    ReadsLog w (collected ctx sj w).2
        sj.metadata.namespaceOrDefault pod ↔
      (podsIn w.cluster sj).head? = some pod ∧
        w.fault 2 = .none := by
  cases hPods : podsIn w.cluster sj with
  | nil =>
      have hCalls :
          (collected ctx sj w).2.calls =
            w.calls ++ listingCalls w sj := by
        rw [collected, hPods]
        exact calls_afterListing w sj
      rw [readsLog_iff_of_calls hCalls]
      simp [listingCalls]
  | cons first pods =>
      rcases calls_keepSnapshot sj
        (snapshotOf ctx sj (w.fault 2) first)
        (afterLog w sj first) with
        ⟨trace, hTrace, hNoLogs⟩
      have hCalls :
          (collected ctx sj w).2.calls = w.calls ++
            (listingCalls w sj ++
              (ApiCall.podLogs
                sj.metadata.namespaceOrDefault first,
                w.fault 2) :: trace) := by
        rw [collected, hPods]
        simpa [afterLog, calls_afterListing] using hTrace
      rw [readsLog_iff_of_calls hCalls]
      have hNot :
          (ApiCall.podLogs sj.metadata.namespaceOrDefault
            pod, ApiFault.none) ∉ trace := by
        intro hMem
        simpa [ApiCall.isPodLogs] using hNoLogs _ hMem
      simp [listingCalls, hNot, eq_comm]

/-
  The log of the successful attempt is taken exactly when a
  collected `Job` is final and, if it succeeded, its first
  pod did and the log was read.
-/
theorem takesSuccessfulAttempt_iff
    (ctx : ReconcileCtx)
    (sj : ScanJob)
    (w : World) :
    TakesSuccessfulAttempt ctx sj w ↔
      ∀ job, Collects w sj job →
        job.IsFinal ∧
        (0 < job.succeeded →
          ∃ pod pods, podsIn w.cluster sj = pod :: pods ∧
            pod.phase = some .succeeded ∧
            w.fault 2 = .none) := by
  constructor
  · intro hTakes job hCollects
    rcases hTakes _ _ _
      (exec_collectResults_eq_ok_some_iff.mpr
        ⟨⟨job, hCollects⟩, rfl⟩) with
      ⟨job', hFound, hFinal, hSource⟩
    obtain rfl : job = job' :=
      Option.some.inj
        (hCollects.job_found.symm.trans hFound)
    refine ⟨hFinal, fun hSucceeded => ?_⟩
    rcases (hSource hSucceeded).1 with
      ⟨pod, _, hPhase, hReads, _⟩
    rcases (readsLog_collected_iff ctx sj w pod).mp
      hReads with ⟨hHead, hLog⟩
    rcases List.head?_eq_some_iff.mp hHead with
      ⟨pods, hPods⟩
    exact ⟨pod, pods, hPods, hPhase, hLog⟩
  · intro hFinal findings hash w' hRun
    rcases exec_collectResults_eq_ok_some_iff.mp hRun with
      ⟨⟨job, hCollects⟩, hResult⟩
    rcases hFinal job hCollects with ⟨hIsFinal, hSource⟩
    refine ⟨job, hCollects.job_found, hIsFinal,
      fun hSucceeded => ?_⟩
    rcases hSource hSucceeded with
      ⟨pod, pods, hPods, hPhase, hLog⟩
    obtain rfl : w' = (collected ctx sj w).2 :=
      congrArg Prod.snd hResult
    have hReads := readsLog_collected_iff ctx sj w
    rw [hPods, List.head?_cons] at hReads
    constructor
    · refine ⟨pod, by simp [hPods], hPhase,
        (hReads pod).mpr ⟨rfl, hLog⟩, ?_⟩
      have hFindings := congrArg (fun r => r.1.1) hResult
      simpa [collected, hPods, findingsOf, logText, hLog]
        using hFindings
    · intro pod' hRead
      obtain rfl : pod = pod' :=
        Option.some.inj ((hReads pod').mp hRead).1
      exact hPhase

end ScanJobController

namespace ScanJobController

/-
  One attempt has failed and two are left, but its empty log
  is already taken for the result.
-/
theorem not_takesSuccessfulAttempt_retrying :
    ¬ TakesSuccessfulAttempt Reference.ctx
      Reference.runningScan
      (Reference.scanWorld (Reference.jobAfter 0 1)
        [Reference.podWith "pod-0" .failed ""]) := by
  intro hTakes
  rcases hTakes _ _ _ rfl with ⟨job, hFound, hFinal, _⟩
  obtain rfl : Reference.jobAfter 0 1 = job :=
    Option.some.inj hFound
  rcases hFinal with hSucceeded | hFailed
  · exact absurd hSucceeded (by decide)
  · exact absurd hFailed (by decide)

end ScanJobController

end EngenhoPromessa

------------------------------------------------------------
-- Unreadable Output
------------------------------------------------------------

namespace EngenhoPromessa

namespace ScanJobController

open Fallible

/- The scan jobs of a world. -/
def scanJobs (w : World) : List (Stored ScanJobSpec) :=
  w.cluster.scanJobs

variable [Chrono] [SerdeJson] [Blake3]

/- Collecting results changes no scan job. -/
theorem keeps_scanJobs_collectResults
    (ctx : ReconcileCtx)
    (sj : ScanJob) :
    Keeps scanJobs (collectResults ctx sj) := by
  apply keeps_bind (Kube.keeps_read _ _ _)
  intro found
  cases found with
  | none => exact keeps_pure _ _
  | some job =>
      cases hDone : isDone job with
      | false =>
          simp only [hDone]
          exact keeps_pure _ _
      | true =>
          simp only [hDone]
          apply keeps_bind (Kube.keeps_read _ _ _)
          intro pods
          cases pods with
          | nil => exact keeps_pure _ _
          | cons pod pods =>
              apply keeps_bind
              · apply keeps_bind
                · exact keeps_unwrapOr
                    (Kube.keeps_read _ _ _) _
                · intro logs
                  exact keeps_bind
                    (keeps_scanJobs_keepSnapshot _ _)
                    (fun _ => keeps_pure _ _)
              · intro result
                exact keeps_pure _ _

omit [SerdeJson] [Blake3] in
/- Announcing findings changes no scan job. -/
theorem keeps_scanJobs_emitFindingsRecorded
    (ctx : ReconcileCtx)
    (sj : ScanJob)
    (findings : List ScanFinding) :
    Keeps scanJobs
      (emitFindingsRecorded ctx sj findings) := by
  unfold emitFindingsRecorded
  split
  · exact keeps_pure _ _
  · apply keeps_bind
    · exact keeps_unwrapOr (Kube.keeps_read _ _ _) _
    · intro parent
      cases parent with
      | none => exact keeps_pure _ _
      | some parent =>
          exact keeps_forM
            (fun _ => Kube.keeps_publish _ _) _

/- A running scan stores its results or nothing. -/
theorem scanJobs_exec_reconcile_running
    {ctx : ReconcileCtx}
    {sj : ScanJob}
    {w : World}
    (hRunning : sj.phase = some .running) :
    scanJobs ((reconcile ctx sj).exec w).2 =
      match (collectResults ctx sj).exec w with
      | (.ok (some (findings, hash)), w₁) =>
          scanJobs ((patchPhase
            sj.metadata.namespaceOrDefault
            sj.metadata.nameAny .attested (some findings)
            (some (attestationOf ctx hash))).exec w₁).2
      | (_, _) => scanJobs w := by
  have hKeep := keeps_scanJobs_collectResults ctx sj w
  rw [reconcile, hRunning, Option.getD_some]
  simp only
  rw [exec_bind]
  rcases hCollect : (collectResults ctx sj).exec w with
    ⟨_ | _ | ⟨findings, hash⟩, w₁⟩
  · simpa [hCollect] using hKeep
  · simpa [hCollect] using hKeep
  · exact view_exec_bind _ (fun _ =>
      keeps_bind
        (keeps_scanJobs_emitFindingsRecorded ctx sj
          findings)
        (fun _ => keeps_pure _ _)) w₁

/- The scan job as the cluster stores it. -/
def storedIn
    (jobs : List (Stored ScanJobSpec))
    (sj : ScanJob) : Option ScanJob :=
  (jobs.find? (fun o =>
    o.isNamed sj.metadata.namespaceOrDefault
      sj.metadata.nameAny)).bind Api.readScanJob

/- The output a step reads, when there is a pod to ask. -/
def rawOutput (w : World) (sj : ScanJob) : Option String :=
  (podsIn w.cluster sj).head?.map (logText (w.fault 2))

/- The catalog's parser answers with a JSON error. -/
def IsUnreadable
    (ctx : ReconcileCtx)
    (sj : ScanJob)
    (raw : String) : Prop :=
  ∃ scanner detail,
    ScannerCatalog.parseScannerOutput
        (fun i => ctx.clock (.firstSeen i)) raw
        sj.spec.scanner =
      .error (.json scanner detail)

/- A stored, running scan whose output is unreadable. -/
structure UnreadableRun
    (ctx : ReconcileCtx)
    (sj : ScanJob)
    (w : World) : Prop where
  is_running : sj.phase = some .running
  is_stored : storedIn (scanJobs w) sj = some sj
  is_unreadable :
    ∃ raw, rawOutput w sj = some raw ∧
      IsUnreadable ctx sj raw

/- What the record of a clean scan looks like. -/
def IsCleanScan (sj : ScanJob) : Prop :=
  sj.phase = some .attested ∧ childFindings sj = []

/- Unreadable output is not recorded as a clean scan. -/
def RefusesUnreadable
    (ctx : ReconcileCtx)
    (sj : ScanJob)
    (w : World) : Prop :=
  UnreadableRun ctx sj w →
    ∀ sj', storedIn (scanJobs ((reconcile ctx sj).exec w).2)
        sj = some sj' →
      ¬ IsCleanScan sj'

/- What becomes of the status patch of a finished scan. -/
def patchFault (w : World) (sj : ScanJob) : ApiFault :=
  w.fault
    (if (w.cluster.configMaps.find? (fun c =>
        c.metadata.isNamed sj.metadata.namespaceOrDefault
          ("scan-result-" ++ sj.metadata.nameAny))).isSome
      then 4 else 5)

/- The step gets as far as storing what it collected. -/
def Records (w : World) (sj : ScanJob) : Prop :=
  (∃ job, Collects w sj job) ∧ patchFault w sj ≠ .refused

omit [Chrono] [Blake3] in
/- Nothing is found in output that is unreadable. -/
theorem parseScannerOutput_of_isUnreadable
    {ctx : ReconcileCtx}
    {sj : ScanJob}
    {raw : String}
    (hUnreadable : IsUnreadable ctx sj raw) :
    parseScannerOutput ctx raw sj.spec.scanner = [] := by
  rcases hUnreadable with ⟨scanner, detail, hError⟩
  rw [parseScannerOutput, hError]

/- What a step collects from the output of a pod. -/
theorem collected_of_rawOutput
    (ctx : ReconcileCtx)
    {sj : ScanJob}
    {w : World}
    {raw : String}
    (hRaw : rawOutput w sj = some raw) :
    (collected ctx sj w).1 =
        (parseScannerOutput ctx raw sj.spec.scanner,
          hashOf
            (parseScannerOutput ctx raw sj.spec.scanner)) ∧
      (w.fault 3 = .none →
        (collected ctx sj w).2.fault 0 =
          patchFault w sj) := by
  cases hPods : podsIn w.cluster sj with
  | nil => simp [rawOutput, hPods] at hRaw
  | cons pod pods =>
      obtain rfl : logText (w.fault 2) pod = raw := by
        simpa [rawOutput, hPods] using hRaw
      constructor
      · simp only [collected, hPods]
        rfl
      · intro hFault
        have hLookup :
            snapshotIn (afterLog w sj pod).cluster sj
                (snapshotOf ctx sj (w.fault 2) pod) =
              w.cluster.configMaps.find? (fun c =>
                c.metadata.isNamed
                  sj.metadata.namespaceOrDefault
                  ("scan-result-" ++
                    sj.metadata.nameAny)) := rfl
        simp only [collected, hPods]
        rw [fault_keepSnapshot sj _
          (by simpa using hFault), hLookup,
          fault_afterLog, patchFault]
        split
        · rfl
        · rfl

omit [Blake3] in
/- A running scan is not the record of a clean one. -/
theorem not_cleanScan_of_stored
    {ctx : ReconcileCtx}
    {sj sj' : ScanJob}
    {w : World}
    (hRun : UnreadableRun ctx sj w)
    (hStored : storedIn (scanJobs w) sj = some sj') :
    ¬ IsCleanScan sj' := by
  intro hClean
  obtain rfl : sj = sj' :=
    Option.some.inj (hRun.is_stored.symm.trans hStored)
  have hPhase := hRun.is_running.symm.trans hClean.1
  simp at hPhase

/- The record of a scan whose findings were just stored. -/
def recorded
    (ctx : ReconcileCtx)
    (sj : ScanJob)
    (findings : List ScanFinding)
    (hash : String) : ScanJob :=
  { sj with
    status := some
      (patchedStatus (sj.status.getD .default) .attested
        (some findings) (some (attestationOf ctx hash))) }

omit [Blake3] in
/- Results patched into a stored scan job. -/
theorem storedIn_patched
    (ctx : ReconcileCtx)
    {sj : ScanJob}
    {jobs : List (Stored ScanJobSpec)}
    (findings : List ScanFinding)
    (hash : String)
    (hStored : storedIn jobs sj = some sj) :
    storedIn
        ((Stored.patchNamed sj.metadata.namespaceOrDefault
          sj.metadata.nameAny
          (.obj [("status", Json.record
            (phaseFields .attested (some findings)
              (some (attestationOf ctx hash))))])
          jobs).getD jobs) sj =
      some (recorded ctx sj findings hash) := by
  rcases Option.bind_eq_some_iff.mp hStored with
    ⟨o, hFind, hRead⟩
  rcases Option.map_eq_some_iff.mp hRead with
    ⟨old, hOld, rfl⟩
  have hStatus := ofStored_merge_phaseFields .attested
    (some findings) (some (attestationOf ctx hash)) hOld
  rcases Stored.find?_patchNamed
    (.obj [("status", Json.record
      (phaseFields .attested (some findings)
        (some (attestationOf ctx hash))))]) hFind with
    ⟨jobs', hPatch, hFind'⟩
  rw [hPatch, Option.getD_some, storedIn, hFind',
    Option.bind_some]
  exact congrArg (Option.map _) hStatus

/- What a running scan with output leaves of the scan jobs. -/
theorem scanJobs_exec_reconcile_of_collects
    (ctx : ReconcileCtx)
    {sj : ScanJob}
    {w : World}
    {raw : String}
    (hRunning : sj.phase = some .running)
    (hRaw : rawOutput w sj = some raw)
    (hCollects : ∃ job, Collects w sj job) :
    scanJobs ((reconcile ctx sj).exec w).2 =
      let findings :=
        parseScannerOutput ctx raw sj.spec.scanner
      if patchFault w sj = .refused then scanJobs w
      else
        (Stored.patchNamed sj.metadata.namespaceOrDefault
          sj.metadata.nameAny
          (.obj [("status", Json.record
            (phaseFields .attested (some findings)
              (some (attestationOf ctx
                (hashOf findings)))))])
          (scanJobs w)).getD (scanJobs w) := by
  have hExec :
      (collectResults ctx sj).exec w =
        (.ok (some (collected ctx sj w).1),
          (collected ctx sj w).2) :=
    exec_collectResults_eq_ok_some_iff.mpr ⟨hCollects, rfl⟩
  have hKeep :
      scanJobs (collected ctx sj w).2 = scanJobs w :=
    keeps_of_exec_eq
      (keeps_scanJobs_collectResults ctx sj) hExec
  rcases collected_of_rawOutput ctx hRaw with
    ⟨hFindings, hPatchFault⟩
  have hFault :
      (collected ctx sj w).2.fault 0 = patchFault w sj := by
    rcases hCollects with ⟨job, hCollects⟩
    apply hPatchFault
    apply hCollects.snapshot_answered
    intro hNil
    simp [rawOutput, hNil] at hRaw
  rw [hFindings] at hExec
  rw [scanJobs_exec_reconcile_running hRunning, hExec]
  simp only
  rw [scanJobs, patchPhase,
    Api.scanJobs_exec_patchScanJobStatus, hFault,
    ← scanJobs, hKeep]

/-
  A running scan that records stores what it parsed from the
  output of its first pod.
-/
theorem storedIn_exec_reconcile_of_records
    (ctx : ReconcileCtx)
    {sj : ScanJob}
    {w : World}
    {raw : String}
    (hRunning : sj.phase = some .running)
    (hStored : storedIn (scanJobs w) sj = some sj)
    (hRaw : rawOutput w sj = some raw)
    (hRecords : Records w sj) :
    storedIn (scanJobs ((reconcile ctx sj).exec w).2) sj =
      some (recorded ctx sj
        (parseScannerOutput ctx raw sj.spec.scanner)
        (hashOf
          (parseScannerOutput ctx raw sj.spec.scanner))) := by
  rw [scanJobs_exec_reconcile_of_collects ctx hRunning hRaw
    hRecords.1]
  simp only
  rw [if_neg hRecords.2]
  exact storedIn_patched ctx _ _ hStored

/- One that does not record leaves the scan jobs alone. -/
theorem scanJobs_exec_reconcile_of_not_records
    (ctx : ReconcileCtx)
    {sj : ScanJob}
    {w : World}
    {raw : String}
    (hRunning : sj.phase = some .running)
    (hRaw : rawOutput w sj = some raw)
    (hNot : ¬ Records w sj) :
    scanJobs ((reconcile ctx sj).exec w).2 =
      scanJobs w := by
  by_cases hCollects : ∃ job, Collects w sj job
  · have hRefused : patchFault w sj = .refused := by
      by_contra hAnswered
      exact hNot ⟨hCollects, hAnswered⟩
    rw [scanJobs_exec_reconcile_of_collects ctx hRunning
      hRaw hCollects]
    simp only
    rw [if_pos hRefused]
  · rw [scanJobs_exec_reconcile_running hRunning]
    rcases hExec : (collectResults ctx sj).exec w with
      ⟨_ | _ | r, w'⟩
    · rfl
    · rfl
    · exact absurd
        (exec_collectResults_eq_ok_some_iff.mp hExec).1
        hCollects

/-
  An unreadable run ends in the record of a clean scan
  exactly when it gets as far as recording anything.
-/
theorem exists_cleanScan_iff
    {ctx : ReconcileCtx}
    {sj : ScanJob}
    {w : World}
    (hRun : UnreadableRun ctx sj w) :
    (∃ sj', storedIn
        (scanJobs ((reconcile ctx sj).exec w).2) sj =
          some sj' ∧
      IsCleanScan sj') ↔ Records w sj := by
  rcases hRun.is_unreadable with ⟨raw, hRaw, hUnreadable⟩
  constructor
  · rintro ⟨sj', hStored, hClean⟩
    by_contra hNot
    rw [scanJobs_exec_reconcile_of_not_records ctx
      hRun.is_running hRaw hNot] at hStored
    exact not_cleanScan_of_stored hRun hStored hClean
  · intro hRecords
    refine ⟨_, storedIn_exec_reconcile_of_records ctx
      hRun.is_running hRun.is_stored hRaw hRecords, rfl, ?_⟩
    exact parseScannerOutput_of_isUnreadable hUnreadable

/-
  An unreadable run is refused exactly when nothing is
  stored for it.
-/
theorem refusesUnreadable_iff
    (ctx : ReconcileCtx)
    (sj : ScanJob)
    (w : World) :
    RefusesUnreadable ctx sj w ↔
      (UnreadableRun ctx sj w → ¬ Records w sj) := by
  constructor
  · intro hRefuses hRun hRecords
    rcases (exists_cleanScan_iff hRun).mpr hRecords with
      ⟨sj', hStored, hClean⟩
    exact hRefuses hRun sj' hStored hClean
  · intro hNot hRun sj' hStored hClean
    exact hNot hRun ((exists_cleanScan_iff hRun).mp
      ⟨sj', hStored, hClean⟩)

end ScanJobController

namespace ScanJobController

/- An error message for output makes a clean scan. -/
theorem not_refusesUnreadable_errorText :
    ¬ RefusesUnreadable Reference.ctx Reference.runningScan
      (Reference.scanWorld (Reference.jobAfter 1 0)
        [Reference.podWith "pod-0" .succeeded
          "FATAL scan error"]) := by
  intro hRefuses
  have hRun :
      UnreadableRun Reference.ctx Reference.runningScan
        (Reference.scanWorld (Reference.jobAfter 1 0)
          [Reference.podWith "pod-0" .succeeded
            "FATAL scan error"]) :=
    ⟨rfl, rfl, "FATAL scan error", rfl, .trivy, _, rfl⟩
  exact hRefuses hRun _ rfl ⟨rfl, rfl⟩

end ScanJobController

end EngenhoPromessa
