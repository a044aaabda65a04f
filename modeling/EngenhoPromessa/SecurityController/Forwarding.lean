import EngenhoPromessa.SecurityController.Monotone
import EngenhoPromessa.SecurityController.Dispatch

/-
  When the decider asks for images to be forwarded, and which
  ones.

  Whether a digest is clean is decided digest by digest, but
  the severity that lets anything be forwarded is that of the
  whole snapshot: one faulty digest holds all of them back.

  Key definitions include:
    * `SecurityController.Exportable`
    * `SecurityController.HoldsBack`
    * `SecurityController.MayForward`
    * `Decision.Forwards`

  Key theorems include:
    * `SecurityController.allCleanDigests_diff`
    * `SecurityController.decision_forwards`
-/

------------------------------------------------------------
-- Clean And Faulty Observations
------------------------------------------------------------

namespace EngenhoPromessa

namespace SecurityController

/- A CVE that no exception covers. -/
def IsOpenCve (f : Finding) : Prop :=
  f.exceptionId = none ∧ f.cveId.isSome = true

/- The finding keeps its own digest from being forwarded. -/
def BlocksExport
    (spec : SecuritySpec)
    (now : DateTime)
    (f : Finding) : Prop :=
  IsOpenCve f ∧
    (f.severity = .critical ∨
      f.severity = .high ∧
        f.ageDays now > spec.maxHighAgeDays ∨
      f.severity = .medium ∧
        f.ageDays now > spec.maxMediumAgeDays)

/- What a digest must be like to be forwarded. -/
structure Exportable
    (spec : SecuritySpec)
    (now : DateTime)
    (obs : DigestObservation) : Prop where
  active : obs.cartorioStatus = .active
  attested :
    ∀ att ∈ spec.requiredAttestations,
      att ∈ obs.attestationsPresent
  scanned :
    ∀ scanner ∈ spec.requiredScanners,
      scanner ∈ obs.scannersReported
  unblocked :
    ∀ f ∈ obs.findings, ¬ BlocksExport spec now f

/- A fault of one digest that holds all of them back. -/
def HoldsBack
    (spec : SecuritySpec)
    (now : DateTime)
    (obs : DigestObservation) : Prop :=
  (obs.cartorioStatus = .revoked ∨
      obs.cartorioStatus = .quarantined ∨
      obs.cartorioStatus = .superseded) ∨
    (∃ att ∈ spec.requiredAttestations,
      att ∉ obs.attestationsPresent) ∨
    (∃ scanner ∈ spec.requiredScanners,
      scanner ∉ obs.scannersReported) ∨
    ∃ f ∈ obs.findings, IsOpenCve f ∧
      (f.severity = .critical ∨
        f.severity = .high ∧
          f.ageDays now > spec.maxHighAgeDays)

theorem isOpenCve_iff (f : Finding) :
    IsOpenCve f ↔ (reportedCve f).isSome = true := by
  unfold IsOpenCve reportedCve
  cases hExcepted : f.exceptionId with
  | none => simp
  | some e => simp

/- Findings are clean if none of them blocks an export. -/
theorem findingsClean_iff
    (spec : SecuritySpec)
    (now : DateTime)
    (obs : DigestObservation)
    (fs : List Finding) :
    findingsClean spec now obs fs = true ↔
      ∀ f ∈ fs, ¬ BlocksExport spec now f := by
  simp only [findingsClean, findingsDrift, Bool.and_eq_true,
    List.isEmpty_iff, entriesOf_eq_nil_iff, isAgedHigh,
    isAgedMedium, decide_eq_true_eq]
  constructor
  · rintro ⟨⟨hCritical, hHigh⟩, hMedium⟩ f hf
    rintro ⟨hOpen, hSeverity⟩
    rw [isOpenCve_iff] at hOpen
    rcases hSeverity with hc | hh | hm
    · simp [hCritical f hf hc] at hOpen
    · simp [hHigh f hf hh] at hOpen
    · simp [hMedium f hf hm] at hOpen
  · intro hClean
    have hNone :
        ∀ f ∈ fs,
          (f.severity = .critical ∨
            f.severity = .high ∧
              f.ageDays now > spec.maxHighAgeDays ∨
            f.severity = .medium ∧
              f.ageDays now > spec.maxMediumAgeDays) →
          reportedCve f = none := by
      intro f hf hSeverity
      cases hReported : reportedCve f with
      | none => rfl
      | some cveId =>
          have hOpen : IsOpenCve f := by
            rw [isOpenCve_iff, hReported]
            rfl
          exact absurd ⟨hOpen, hSeverity⟩ (hClean f hf)
    refine ⟨⟨?_, ?_⟩, ?_⟩
    · intro f hf hc
      exact hNone f hf (Or.inl hc)
    · intro f hf hh
      exact hNone f hf (Or.inr (Or.inl hh))
    · intro f hf hm
      exact hNone f hf (Or.inr (Or.inr hm))

/- The flag of the loop says what it should. -/
theorem exportable_iff
    (spec : SecuritySpec)
    (now : DateTime)
    (obs : DigestObservation) :
    Exportable spec now obs ↔
      (isClean spec now obs &&
        obs.cartorioStatus == .active) = true := by
  simp only [isClean, Bool.and_eq_true, Bool.not_eq_true',
    List.isEmpty_iff, missingAttestationsOf_eq_nil_iff,
    missingScannersOf_eq_nil_iff, findingsClean_iff,
    beq_iff_eq]
  constructor
  · intro hExport
    refine ⟨⟨⟨⟨?_, hExport.attested⟩, hExport.scanned⟩,
      hExport.unblocked⟩, hExport.active⟩
    rw [hExport.active]
    rfl
  · rintro ⟨⟨⟨⟨_, hAtts⟩, hScanners⟩, hFindings⟩, hActive⟩
    exact ⟨hActive, hAtts, hScanners, hFindings⟩

instance decidableExportable
    (spec : SecuritySpec)
    (now : DateTime)
    (obs : DigestObservation) :
    Decidable (Exportable spec now obs) :=
  decidable_of_iff _ (exportable_iff spec now obs).symm

/- An image holds back the others if it is not settled. -/
theorem holdsBack_iff
    (spec : SecuritySpec)
    (now : DateTime)
    (obs : DigestObservation) :
    HoldsBack spec now obs ↔ ¬ IsSettled spec now obs := by
  have hStatus :
      (obs.cartorioStatus = .revoked ∨
          obs.cartorioStatus = .quarantined ∨
          obs.cartorioStatus = .superseded) ↔
        ¬ isWithdrawn obs.cartorioStatus = false := by
    cases obs.cartorioStatus <;> simp [isWithdrawn]
  have hFinding :
      ∀ f : Finding,
        (IsOpenCve f ∧
          (f.severity = .critical ∨
            f.severity = .high ∧
              f.ageDays now > spec.maxHighAgeDays)) ↔
          ¬ (isCriticalCve f = false ∧
            isAgedHighCve spec now f = false) := by
    intro f
    rw [isOpenCve_iff]
    simp only [isCriticalCve, isAgedHighCve, isAgedHigh,
      decide_eq_true_eq, decide_eq_false_iff_not]
    tauto
  simp only [HoldsBack, IsSettled, hStatus, hFinding,
    missingAttestationsOf_eq_nil_iff,
    missingScannersOf_eq_nil_iff]
  constructor
  · rintro (hs | ⟨att, hReq, hNot⟩ | ⟨sc, hReq, hNot⟩ |
      ⟨f, hf, hFault⟩) hSettled
    · exact hs hSettled.1
    · exact hNot (hSettled.2.1 att hReq)
    · exact hNot (hSettled.2.2.1 sc hReq)
    · exact hFault (hSettled.2.2.2 f hf)
  · intro hNot
    by_contra hNone
    simp only [not_or, not_exists, not_and, not_not]
      at hNone
    rcases hNone with ⟨hs, hAtts, hScanners, hFindings⟩
    apply hNot
    refine ⟨hs, hAtts, hScanners, ?_⟩
    intro f hf
    have hBoth := hFindings f hf
    tauto

/- The clean digests are listed in the snapshot's order. -/
theorem allCleanDigests_diff
    (spec : SecuritySpec)
    (snapshot : SecuritySnapshot) :
    (diff spec snapshot).allCleanDigests =
      (snapshot.imageDigests.filter (fun obs =>
        Exportable spec snapshot.observedAt obs)).map
          (fun obs =>
            { digest := obs.digest
              service := obs.service }) := by
  rw [diff_eq_concat]
  simp only [SecurityDrift.concat, List.flatMap_map]
  refine flatMap_eq_map_filter _ _ ?_ _
  intro obs
  simp only [observationDrift, cleanDigest, exportable_iff]

end SecurityController

end EngenhoPromessa

------------------------------------------------------------
-- Mirror Actions Of A Decision
------------------------------------------------------------

namespace EngenhoPromessa

/-
  The decision contains an action that mirrors this digest
  of this service.
-/
def Decision.Forwards
    (decision : Decision)
    (digest service : String) : Prop :=
  ∃ payload,
    (ReconcilerKind.harborMirror, payload) ∈
        decision.applies ∧
      payload.get? "source_digest" = some (.str digest) ∧
      payload.get? "source_repo" =
        some (.str ("akeylesslabs/akeyless-" ++ service))

namespace SecurityController

/- No action but the one for a clean digest is a mirror. -/
theorem harborMirror_mem_applies_decide_iff
    (spec : SecuritySpec)
    (severity : Severity)
    (drift : SecurityDrift)
    (payload : Json) :
    (ReconcilerKind.harborMirror, payload) ∈
        (decide spec severity drift).applies ↔
      severity = .cosmetic ∧
        spec.harborForwardingEnabled = true ∧
        ∃ d ∈ drift.allCleanDigests,
          (ReconcilerKind.harborMirror, payload) ∈
            (harborAction spec d).applies := by
  cases severity with
  | critical =>
      refine iff_of_false ?_ (by simp)
      simp only [decide, Decision.applies,
        TypedAction.applies,
        TypedAction.appliesSteps_eq_flatMap,
        List.mem_flatMap]
      rintro ⟨action, ⟨c, _, hAction⟩, hMem⟩
      simp only [criticalActions, List.mem_cons,
        List.not_mem_nil, or_false] at hAction
      rcases hAction with rfl | rfl | rfl
      · simp [TypedAction.applies] at hMem
      · simp [TypedAction.applies] at hMem
      · simp [TypedAction.applies] at hMem
  | functional =>
      refine iff_of_false ?_ (by simp)
      simp only [decide]
      split
      · simp [Decision.applies]
      · simp only [Decision.applies, TypedAction.applies,
          TypedAction.appliesSteps_eq_flatMap,
          List.mem_flatMap, List.mem_append, List.mem_map]
        rintro ⟨_, ⟨m, _, att, _, rfl⟩ | ⟨h, _, rfl⟩, hMem⟩
        · cases att <;>
            simp [attestationAction, attestationReconciler,
              TypedAction.applies] at hMem
        · simp [agedHighAction, TypedAction.applies] at hMem
  | cosmetic =>
      cases hFlag : spec.harborForwardingEnabled with
      | false => simp [decide, hFlag, Decision.applies]
      | true =>
          cases hClean : drift.allCleanDigests with
          | nil => simp [decide, hClean, Decision.applies]
          | cons d ds =>
              simp [decide, hFlag, hClean, Decision.applies,
                TypedAction.applies,
                TypedAction.appliesSteps_eq_flatMap]

/- What a mirror action names is the digest it is for. -/
theorem forwards_harborAction_iff
    (spec : SecuritySpec)
    (d : DigestService)
    (digest service : String) :
    (∃ payload,
      (ReconcilerKind.harborMirror, payload) ∈
          (harborAction spec d).applies ∧
        payload.get? "source_digest" = some (.str digest) ∧
        payload.get? "source_repo" =
          some (.str
            ("akeylesslabs/akeyless-" ++ service))) ↔
      d.digest = digest ∧ d.service = service := by
  simp only [harborAction, TypedAction.applies,
    List.mem_singleton, Prod.mk.injEq, true_and,
    exists_eq_left, Json.get?_obj, Json.lookup_cons_ite]
  simp [String.append_right_inj]

end SecurityController

end EngenhoPromessa

------------------------------------------------------------
-- Soundness And Completeness
------------------------------------------------------------

namespace EngenhoPromessa

namespace SecurityController

/- The digest of the service may be forwarded. -/
structure MayForward
    (spec : SecuritySpec)
    (snapshot : SecuritySnapshot)
    (digest service : String) : Prop where
  enabled : spec.harborForwardingEnabled = true
  clean :
    ∃ obs ∈ snapshot.imageDigests,
      obs.digest = digest ∧ obs.service = service ∧
        Exportable spec snapshot.observedAt obs
  nothing_held_back :
    ∀ obs ∈ snapshot.imageDigests,
      ¬ HoldsBack spec snapshot.observedAt obs

/- Nothing is worse than cosmetic if no image holds back. -/
theorem classify_eq_cosmetic_iff_not_holdsBack
    (spec : SecuritySpec)
    (snapshot : SecuritySnapshot) :
    classify (diff spec snapshot) = .cosmetic ↔
      ∀ obs ∈ snapshot.imageDigests,
        ¬ HoldsBack spec snapshot.observedAt obs := by
  simp only [classify_diff_eq_cosmetic_iff, holdsBack_iff,
    not_not]

/- What is forwarded is exactly what may be. -/
theorem forwards_decision_iff
    (spec : SecuritySpec)
    (snapshot : SecuritySnapshot)
    (digest service : String) :
    (decision spec snapshot).Forwards digest service ↔
      MayForward spec snapshot digest service := by
  have hClean :
      (∃ d ∈ (diff spec snapshot).allCleanDigests,
          d.digest = digest ∧ d.service = service) ↔
        ∃ obs ∈ snapshot.imageDigests,
          obs.digest = digest ∧ obs.service = service ∧
            Exportable spec snapshot.observedAt obs := by
    simp only [allCleanDigests_diff, List.mem_map,
      List.mem_filter, decide_eq_true_eq]
    constructor
    · rintro ⟨_, ⟨obs, ⟨hObs, hExport⟩, rfl⟩, hDigest,
        hService⟩
      exact ⟨obs, hObs, hDigest, hService, hExport⟩
    · rintro ⟨obs, hObs, hDigest, hService, hExport⟩
      exact ⟨_, ⟨obs, ⟨hObs, hExport⟩, rfl⟩, hDigest,
        hService⟩
  simp only [Decision.Forwards, decision,
    harborMirror_mem_applies_decide_iff]
  constructor
  · rintro ⟨payload, ⟨hCosmetic, hFlag, d, hd, hMem⟩, hNames⟩
    have hEq :=
      (forwards_harborAction_iff spec d digest service).mp
        ⟨payload, hMem, hNames⟩
    exact
      { enabled := hFlag
        clean := hClean.mp ⟨d, hd, hEq⟩
        nothing_held_back :=
          (classify_eq_cosmetic_iff_not_holdsBack _ _).mp
            hCosmetic }
  · intro hMay
    rcases hClean.mpr hMay.clean with ⟨d, hd, hEq⟩
    rcases (forwards_harborAction_iff spec d digest
      service).mpr hEq with ⟨payload, hMem, hNames⟩
    have hCosmetic :=
      (classify_eq_cosmetic_iff_not_holdsBack spec
        snapshot).mpr hMay.nothing_held_back
    exact ⟨payload, ⟨hCosmetic, hMay.enabled, d, hd, hMem⟩,
      hNames⟩

/-
  The decision forwards a digest exactly when it may; and
  when it forwards anything it is one mirror action per clean
  observation, in the snapshot's order, and nothing else.
-/
theorem decision_forwards
    (spec : SecuritySpec)
    (snapshot : SecuritySnapshot) :
    (∀ digest service,
      (decision spec snapshot).Forwards digest service ↔
        MayForward spec snapshot digest service) ∧
    ((∃ digest service,
        MayForward spec snapshot digest service) →
      decision spec snapshot =
        .autoCorrect (.compose
          ((snapshot.imageDigests.filter (fun obs =>
              Exportable spec snapshot.observedAt obs)).map
            (fun obs => harborAction spec
              { digest := obs.digest
                service := obs.service })))) := by
  refine ⟨forwards_decision_iff spec snapshot, ?_⟩
  rintro ⟨digest, service, hMay⟩
  have hCosmetic :=
    (classify_eq_cosmetic_iff_not_holdsBack spec
      snapshot).mpr hMay.nothing_held_back
  have hSome :
      (diff spec snapshot).allCleanDigests.isEmpty =
        false := by
    rcases hMay.clean with ⟨obs, hObs, _, _, hExport⟩
    rw [allCleanDigests_diff, List.isEmpty_eq_false_iff]
    apply List.ne_nil_of_mem
    exact List.mem_map_of_mem
      (List.mem_filter.mpr ⟨hObs, by simpa using hExport⟩)
  simp only [decision, hCosmetic, decide, hMay.enabled,
    hSome, Bool.not_true, Bool.or_self, Bool.false_eq_true,
    if_false]
  rw [allCleanDigests_diff, List.map_map]
  rfl

/- Forwarding on, one clean digest: it alone is mirrored. -/
theorem decision_forwards_clean :
    let spec : SecuritySpec :=
      { SecuritySpec.scanOnly with
        requiredScanners := ∅
        harborForwardingEnabled := true }
    let clean : DigestObservation :=
      { digest := "sha256:00"
        service := "auth"
        cartorioStatus := .active
        findings := []
        attestationsPresent := ∅
        scannersReported := ∅ }
    decision spec ⟨[clean], ⟨0⟩⟩ =
      .autoCorrect (.compose
        [harborAction spec
          { digest := "sha256:00", service := "auth" }]) := by
  intro spec clean
  have hExport : Exportable spec ⟨0⟩ clean := by decide
  have hSettled : IsSettled spec ⟨0⟩ clean :=
    ⟨rfl, by decide, by decide, by simp [clean]⟩
  have hHeld :
      ∀ obs ∈ [clean], ¬ HoldsBack spec ⟨0⟩ obs := by
    intro obs hObs
    rw [List.mem_singleton.mp hObs, holdsBack_iff, not_not]
    exact hSettled
  exact (decision_forwards spec ⟨[clean], ⟨0⟩⟩).2
    ⟨"sha256:00", "auth", rfl,
      ⟨clean, List.mem_singleton_self _, rfl, rfl, hExport⟩,
      hHeld⟩

end SecurityController

end EngenhoPromessa
