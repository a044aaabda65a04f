import EngenhoPromessa.Controllers.GateSafety
import EngenhoPromessa.Controllers.OutcomePersistence
import EngenhoPromessa.Controllers.Published
import EngenhoPromessa.Controllers.ScanJob

/-
  The subjects that the events of a validation reach.

  The broker cuts a subject at its dots, and consumers
  subscribe to the token of a service. Three of the four
  kinds of events carry the service of the validation; the
  fourth cuts it out of the image repository.

  Key definitions include:
    * `subjectTokens`
    * `ProducedFor`
    * `ReachesService`

  Key theorems include:
    * `subjectTokens_subject_iff`
    * `reachesService_iff`
-/

------------------------------------------------------------
-- Tokens
------------------------------------------------------------

namespace EngenhoPromessa

/- A subject cut at its dots. -/
def subjectTokens (subject : String) : List String :=
  (subject.toList.splitOn '.').map String.ofList

namespace ValidationEvent

/- The subject of an event for a service. -/
def tokensFor
    (service : String)
    (event : ValidationEvent) : List String :=
  ["validation", "posture", service, event.kind]

/- A subject is its tokens joined by dots. -/
theorem toList_subject (event : ValidationEvent) :
    event.subject.toList =
      ['.'].intercalate
        ((event.tokensFor event.service).map
          String.toList) := by
  have hPrefix :
      subjectPrefix.toList =
        "validation".toList ++ '.' :: "posture".toList := by
    decide
  simp [subject, hPrefix, tokensFor, List.intercalate]

theorem dot_not_mem_kind (event : ValidationEvent) :
    '.' ∉ event.kind.toList := by
  cases event with
  | phaseChanged e => simp [kind]
  | findingRecorded e => simp [kind]
  | decisionEmitted e => simp [kind]
  | reconcilerDispatched e => simp [kind]

/-
  The tokens are those of a service without dots exactly
  when the event carries that service.
-/
theorem subjectTokens_subject_iff
    {service : String}
    (hService : '.' ∉ service.toList)
    (event : ValidationEvent) :
    subjectTokens event.subject = event.tokensFor service ↔
      event.service = service := by
  constructor
  · intro hTokens
    have hJoined :
        ['.'].intercalate
            ((subjectTokens event.subject).map String.toList) =
          event.subject.toList := by
      simp [subjectTokens, Function.comp_def]
    rw [hTokens, toList_subject] at hJoined
    have hSame : service.toList = event.service.toList := by
      simpa [tokensFor, List.intercalate] using hJoined
    exact (String.toList_inj.mp hSame).symm
  · rintro rfl
    rw [subjectTokens, toList_subject, List.splitOn_intercalate]
    · simp [tokensFor]
    · simp [tokensFor, hService, dot_not_mem_kind]
    · simp [tokensFor]

end ValidationEvent

end EngenhoPromessa

------------------------------------------------------------
-- The Events Of A Validation
------------------------------------------------------------

namespace EngenhoPromessa

open Fallible

variable [Chrono] [SerdeJson] [Blake3] [PromessaSerde]

/-
  The row of a validation run that mirrors the image of the
  validation.
-/
def Mirrors
    (run : ValidationRunModel)
    (v : AkeylessImageValidation) : Prop :=
  run.imageRepo = v.spec.imageRepo ∧
    run.imageDigest = v.spec.imageDigest

/-
  An event the controllers produce for a validation: one its
  own reconciliation publishes, one of the findings of a
  scan job whose parent it is, or one of a dispatch whose
  run mirrors it.
-/
inductive ProducedFor (v : AkeylessImageValidation) :
    ValidationEvent → Prop where
  | reconciled
      {event : ValidationEvent}
      (ctx : ReconcileCtx)
      (w : World)
      (hFresh : w.published = [])
      (hEvent :
        event ∈
          ((ImageValidation.reconcile ctx v).exec
            w).2.published) :
      ProducedFor v event
  | recorded
      {event : ValidationEvent}
      (ctx : ReconcileCtx)
      (sj : ScanJob)
      (findings : List ScanFinding)
      (w w' : World)
      (hFresh : w.published = [])
      (hParent :
        (Api.getValidation sj.metadata.namespaceOrDefault
          sj.spec.parentValidation).exec w = (.ok (some v), w'))
      (hEvent :
        event ∈
          ((ScanJobController.emitFindingsRecorded ctx sj
            findings).exec w).2.published) :
      ProducedFor v event
  | dispatched
      (db : ValidationStore)
      (observedAt : DateTime)
      (uid : String)
      (row : ActionDispatcher.OutcomeRow)
      {run : ValidationRunModel}
      {event : ReconcilerDispatched}
      (hRun : db.validationRunByUid uid = some run)
      (hMirrors : Mirrors run v)
      (hEvent :
        ActionDispatcher.emitReconcilerDispatched db observedAt
          uid row = some event) :
      ProducedFor v (.reconcilerDispatched event)

/- Every event of the validation has its service's subject. -/
def ReachesService (v : AkeylessImageValidation) : Prop :=
  ∀ event, ProducedFor v event →
    subjectTokens event.subject =
      event.tokensFor v.spec.service

/-
  The repository is the service's own name, or that with the
  prefix of the image names.
-/
def NamesService (v : AkeylessImageValidation) : Prop :=
  v.spec.imageRepo = "akeyless-" ++ v.spec.service ∨
    v.spec.imageRepo = v.spec.service ∧
      Str.startsWith "akeyless-" v.spec.imageRepo = false

omit [Chrono] [SerdeJson] [Blake3] [PromessaSerde] in
/- Publishing a list of events appends them in order. -/
theorem exec_forM_publish
    {α : Type}
    (toEvent : α → ValidationEvent)
    (es : List α)
    (w : World) :
    (es.forM (fun e => Kube.publish (toEvent e))).exec w =
      (.ok (), { w with
        published := w.published ++ es.map toEvent }) := by
  induction es generalizing w with
  | nil => simp
  | cons e es ih =>
      have hFirst :
          (Kube.publish (toEvent e)).exec w =
            (.ok (), { w with
              published := w.published ++ [toEvent e] }) :=
        rfl
      refine (exec_bind_ok hFirst _).trans ?_
      refine (ih _).trans ?_
      simp

omit [SerdeJson] [Blake3] [PromessaSerde] in
/-
  The findings event names the service of the parent
  validation.
-/
theorem service_of_recorded
    {v : AkeylessImageValidation}
    {event : ValidationEvent}
    {ctx : ReconcileCtx}
    {sj : ScanJob}
    {findings : List ScanFinding}
    {w w' : World}
    (hFresh : w.published = [])
    (hParent :
      (Api.getValidation sj.metadata.namespaceOrDefault
        sj.spec.parentValidation).exec w = (.ok (some v), w'))
    (hEvent :
      event ∈
        ((ScanJobController.emitFindingsRecorded ctx sj
          findings).exec w).2.published) :
    event.service = v.spec.service := by
  have hWorld : w' = w.called _ :=
    (Kube.exec_read_eq_ok.mp hParent).2.2
  unfold ScanJobController.emitFindingsRecorded at hEvent
  split at hEvent
  · simp [hFresh] at hEvent
  · have hRead :
        (unwrapOr none
          (Api.getValidation sj.metadata.namespaceOrDefault
            sj.spec.parentValidation)).exec w =
          (.ok (some v), w') := by
      rw [exec_unwrapOr, hParent]
      rfl
    rw [exec_bind_ok hRead] at hEvent
    simp only [exec_forM_publish] at hEvent
    have hNone : w'.published = [] := by
      rw [hWorld]
      exact hFresh
    rw [hNone, List.nil_append] at hEvent
    rcases List.mem_map.mp hEvent with ⟨e, he, rfl⟩
    rcases List.mem_mapIdx.mp he with ⟨i, hi, rfl⟩
    rfl

/- What is left when the image name's prefix is cut off. -/
omit [Chrono] [SerdeJson] [Blake3] [PromessaSerde] in
theorem stripped_eq_service_iff (v : AkeylessImageValidation) :
    (Str.stripPrefix "akeyless-" v.spec.imageRepo).getD
        v.spec.imageRepo = v.spec.service ↔
      NamesService v := by
  unfold NamesService
  cases hStarts : Str.startsWith "akeyless-" v.spec.imageRepo
    with
  | true =>
      rcases Str.exists_of_startsWith hStarts with ⟨t, hText⟩
      rw [hText, Str.stripPrefix_append, Option.getD_some]
      simp [String.append_right_inj]
  | false =>
      have hNone :
          Str.stripPrefix "akeyless-" v.spec.imageRepo =
            none := by
        rw [Str.stripPrefix, hStarts]
        rfl
      have hNot :
          v.spec.imageRepo ≠ "akeyless-" ++ v.spec.service := by
        intro hEq
        rw [hEq, Str.startsWith_append] at hStarts
        cases hStarts
      simp [hNone, hNot]

/- A run with the image of the validation. -/
def mirrorRun
    (v : AkeylessImageValidation) : ValidationRunModel where
  uid := v.metadata.uidOrDefault
  «namespace» := v.metadata.namespaceOrDefault
  name := v.metadata.nameAny
  imageDigest := v.spec.imageDigest
  imageRepo := v.spec.imageRepo
  phase := "Passed"
  evidenceBundleHash := none
  outcomeReceiptRef := none
  observedGeneration := 0
  startedAt := ⟨0⟩
  lastSeenAt := ⟨0⟩
  terminalAt := none

/- The row of an action that does nothing. -/
def nothingDone : ActionDispatcher.OutcomeRow where
  actionKind := "Noop"
  reconcilerKind := none
  actionPayload := .null
  outcome := "already-converged"
  outcomeFlag := none
  outcomePayload := none

/- A dispatch event is one its validation produces. -/
theorem producedFor_dispatched
    (v : AkeylessImageValidation)
    (row : ActionDispatcher.OutcomeRow) :
    ProducedFor v
      (.reconcilerDispatched
        (ActionDispatcher.reconcilerDispatched ⟨0⟩
          v.metadata.uidOrDefault (mirrorRun v) row)) := by
  have hRun :
      ValidationStore.validationRunByUid
          { validationRuns := [mirrorRun v]
            reconcilerOutcomes := [] }
          v.metadata.uidOrDefault =
        some (mirrorRun v) := by
    simp [ValidationStore.validationRunByUid, mirrorRun]
  refine .dispatched _ ⟨0⟩ _ row hRun ⟨rfl, rfl⟩ ?_
  rw [ActionDispatcher.emitReconcilerDispatched, hRun]

/-
  Only the event of a dispatch can miss its subject, and it
  does for every repository that does not name the service.
-/
theorem reachesService_iff
    {v : AkeylessImageValidation}
    (hDots : '.' ∉ v.spec.service.toList) :
    ReachesService v ↔ NamesService v := by
  rw [← stripped_eq_service_iff]
  constructor
  · intro hReaches
    have hDispatched :=
      hReaches _ (producedFor_dispatched v nothingDone)
    rwa [ValidationEvent.subjectTokens_subject_iff hDots]
      at hDispatched
  · intro hStripped event hProduced
    rw [ValidationEvent.subjectTokens_subject_iff hDots]
    cases hProduced with
    | reconciled ctx w hFresh hEvent =>
        have hAll :
            AllPublished
              (fun e => e.service = v.spec.service)
              ((ImageValidation.reconcile ctx v).exec w).2 :=
          ImageValidation.preserves_published_reconcile ctx v
            (fun _ hService => hService)
            (fun _ hService => hService) w
            (by simp [AllPublished, hFresh])
        exact hAll event hEvent
    | recorded ctx sj findings w w' hFresh hParent hEvent =>
        exact service_of_recorded hFresh hParent hEvent
    | dispatched db observedAt uid row hRun hMirrors hEvent =>
        rw [ActionDispatcher.emitReconcilerDispatched, hRun]
          at hEvent
        cases hEvent
        rw [← hStripped, ← hMirrors.1]
        rfl

end EngenhoPromessa

------------------------------------------------------------
-- Two Repositories
------------------------------------------------------------

namespace EngenhoPromessa

open Reference

/- The repository that the spec's documentation gives. -/
theorem not_reachesService_ghcr :
    ¬ ReachesService
      (Reference.validationAt
        AkeylessImageValidationPhase.passed) := by
  intro hReaches
  have hDispatched :=
    hReaches _ (producedFor_dispatched _ nothingDone)
  rw [ValidationEvent.subjectTokens_subject_iff (by decide)]
    at hDispatched
  exact absurd hDispatched (by decide)

/-
  At a validation of an own image, and at one of another
  registry.
-/
theorem reachesService_iff_auth :
    let v : AkeylessImageValidation :=
      { metadata := Reference.metadata "auth-00"
        spec :=
          { Reference.validationSpec with
            imageRepo := "akeyless-auth" }
        status := none }
    '.' ∉ v.spec.service.toList ∧ ReachesService v := by
  intro v
  have hDots : '.' ∉ v.spec.service.toList := by decide
  exact ⟨hDots,
    (reachesService_iff hDots).mpr (Or.inl (by decide))⟩

end EngenhoPromessa
