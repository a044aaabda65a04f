import EngenhoPromessa.SecurityController.Forwarding
import EngenhoPromessa.SecurityController.Reference

/-
  What the actions of a correction are for.

  An action names a digest or a service and addresses one
  condition of it. Every action of a decision names an
  observation with its condition. The severity looks at the
  withdrawn digests as well, and no action is made from
  them: a withdrawn digest is only named when it shares its
  digest or service with a critical CVE.

  Key definitions include:
    * `SecurityController.Names`
    * `SecurityController.Addresses`
    * `SecurityController.CorrectsDrift`
    * `SecurityController.WithdrawnBesideCritical`

  Key theorems include:
    * `SecurityController.correctsDrift_iff`
-/

------------------------------------------------------------
-- What An Action Names And Addresses
------------------------------------------------------------

namespace EngenhoPromessa

namespace SecurityController

/- A critical CVE of the image that no exception covers. -/
def HasCriticalCve (obs : DigestObservation) : Prop :=
  ∃ f ∈ obs.findings, IsOpenCve f ∧ f.severity = .critical

/- The CVE is open in the observation, high and over age. -/
def HasAgedHighCve
    (spec : SecuritySpec)
    (now : DateTime)
    (obs : DigestObservation)
    (cveId : String) : Prop :=
  ∃ f ∈ obs.findings,
    f.exceptionId = none ∧ f.cveId = some cveId ∧
      f.severity = .high ∧
      f.ageDays now > spec.maxHighAgeDays

/- The attestation is required of the image and not there. -/
def LacksAttestation
    (spec : SecuritySpec)
    (obs : DigestObservation)
    (att : RequiredAttestation) : Prop :=
  att ∈ spec.requiredAttestations ∧
    att ∉ obs.attestationsPresent

/- The member of a payload that says what it is about. -/
def subjectMember : ReconcilerKind → String
| .cartorioAdmit => "digest"
| .ghcrTagRevoke => "repo"
| .harborMirror => "source_digest"
| .cosignAttest => "digest"
| .sbomGenerate => "digest"
| .slsaProvenance => "digest"
| .renovateBaseImageBump => "image_digest"

/- A tag is revoked in the repository of a service. -/
def subjectName
    (reconciler : ReconcilerKind)
    (obs : DigestObservation) : String :=
  if reconciler = .ghcrTagRevoke then
    "akeylesslabs/akeyless-" ++ obs.service
  else
    obs.digest

/- The step has the image, or its service, for a subject. -/
def Names : TypedAction → DigestObservation → Prop
| .reconcilerApply reconciler payload, obs =>
    payload.get? (subjectMember reconciler) =
      some (.str (subjectName reconciler obs))
| .fluxCommit _ patch, obs =>
    patch.get? "service" = some (.str obs.service)
| _, _ => False

/- The payload asks Cartorio to revoke the digest. -/
def AsksRevocation (payload : Json) : Prop :=
  payload.get? "transition" = some (.str "Revoked")

/- The observation is in the condition the action is for. -/
def Addresses
    (spec : SecuritySpec)
    (now : DateTime) :
    TypedAction → DigestObservation → Prop
| .reconcilerApply reconciler payload, obs =>
    match reconciler with
    | .cartorioAdmit =>
        AsksRevocation payload ∧ HasCriticalCve obs ∨
          ¬ AsksRevocation payload ∧
            LacksAttestation spec obs .cartorioActive
    | .ghcrTagRevoke => HasCriticalCve obs
    | .cosignAttest => LacksAttestation spec obs .cosignSig
    | .sbomGenerate => LacksAttestation spec obs .sbomSpdx
    | .slsaProvenance =>
        LacksAttestation spec obs .slsaProvenance
    | .renovateBaseImageBump =>
        ∃ cveId,
          payload.get? "cve_id" = some (.str cveId) ∧
            HasAgedHighCve spec now obs cveId
    | .harborMirror => Exportable spec now obs
| .fluxCommit _ _, obs => HasCriticalCve obs
| _, _ => False

/- The action is for an observation of the snapshot. -/
def Justified
    (spec : SecuritySpec)
    (snapshot : SecuritySnapshot)
    (action : TypedAction) : Prop :=
  ∃ obs ∈ snapshot.imageDigests,
    Names action obs ∧
      Addresses spec snapshot.observedAt action obs

/- The steps of the correction a decision makes, if any. -/
def correctionSteps : Decision → List TypedAction
| .autoCorrect (.compose steps) => steps
| _ => []

/-
  Every correction is called for, and every critical image
  is corrected.
-/
structure CorrectsDrift
    (spec : SecuritySpec)
    (snapshot : SecuritySnapshot) : Prop where
  justified :
    ∀ action,
      decision spec snapshot = .autoCorrect action →
        ∃ steps, action = .compose steps ∧ steps ≠ [] ∧
          ∀ step ∈ steps, Justified spec snapshot step
  covers :
    classify (diff spec snapshot) = .critical →
      ∀ obs ∈ snapshot.imageDigests,
        IsWithdrawnStatus obs.cartorioStatus ∨
            HasCriticalCve obs →
          ∃ step ∈ correctionSteps (decision spec snapshot),
            Names step obs

/-
  Every withdrawn observation shares its digest or service
  with one that has a critical CVE.
-/
def WithdrawnBesideCritical
    (snapshot : SecuritySnapshot) : Prop :=
  ∀ obs ∈ snapshot.imageDigests,
    IsWithdrawnStatus obs.cartorioStatus →
      ∃ other ∈ snapshot.imageDigests,
        HasCriticalCve other ∧
          (other.digest = obs.digest ∨
            other.service = obs.service)

end SecurityController

end EngenhoPromessa

------------------------------------------------------------
-- The Entries Actions Are Made From
------------------------------------------------------------

namespace EngenhoPromessa

namespace SecurityController

/- The entries of an image come from its findings. -/
theorem mem_referenceCves
    {now : DateTime}
    {cond : Finding → Prop}
    [DecidablePred cond]
    {obs : DigestObservation}
    {c : DigestCveAge} :
    c ∈ referenceCves now cond obs ↔
      ∃ f ∈ obs.findings,
        f.exceptionId = none ∧ cond f ∧
          f.cveId = some c.cveId ∧
          c.digest = obs.digest ∧ c.service = obs.service ∧
          c.scanner = f.scanner ∧
          c.ageDays = f.ageDays now := by
  simp only [referenceCves, List.mem_filterMap]
  constructor
  · rintro ⟨f, hf, hEntry⟩
    rcases Option.bind_eq_some_iff.mp hEntry with
      ⟨cveId, hCve, hIf⟩
    split_ifs at hIf with hOpen
    cases hIf
    exact ⟨f, hf, hOpen.1, hOpen.2, hCve, rfl, rfl, rfl, rfl⟩
  · rintro ⟨f, hf, hNone, hCond, hCve, hDigest, hService,
      hScanner, hAge⟩
    refine ⟨f, hf, ?_⟩
    rw [hCve, Option.bind_some, if_pos ⟨hNone, hCond⟩,
      ← hDigest, ← hService, ← hScanner, ← hAge]

/- An entry of the critical list comes from a critical CVE. -/
theorem of_mem_criticalCves_diff
    {spec : SecuritySpec}
    {snapshot : SecuritySnapshot}
    {c : DigestCveAge}
    (hMem : c ∈ (diff spec snapshot).criticalCves) :
    ∃ obs ∈ snapshot.imageDigests,
      HasCriticalCve obs ∧ c.digest = obs.digest ∧
        c.service = obs.service := by
  rw [criticalCves_diff] at hMem
  rcases List.mem_flatMap.mp hMem with ⟨obs, hObs, hEntry⟩
  rcases mem_referenceCves.mp hEntry with
    ⟨f, hf, hNone, hCritical, hCve, hDigest, hService, _⟩
  have hOpen : IsOpenCve f := by
    refine ⟨hNone, ?_⟩
    rw [hCve]
    rfl
  exact ⟨obs, hObs, ⟨f, hf, hOpen, hCritical⟩, hDigest,
    hService⟩

/- A critical CVE of an observation has its entry. -/
theorem exists_mem_criticalCves_diff
    (spec : SecuritySpec)
    {snapshot : SecuritySnapshot}
    {obs : DigestObservation}
    (hObs : obs ∈ snapshot.imageDigests)
    (hCritical : HasCriticalCve obs) :
    ∃ c ∈ (diff spec snapshot).criticalCves,
      c.digest = obs.digest ∧ c.service = obs.service := by
  rcases hCritical with ⟨f, hf, ⟨hNone, hSome⟩, hSeverity⟩
  rcases Option.isSome_iff_exists.mp hSome with ⟨cveId, hCve⟩
  let c : DigestCveAge :=
    { digest := obs.digest
      service := obs.service
      cveId := cveId
      scanner := f.scanner
      ageDays := f.ageDays snapshot.observedAt }
  refine ⟨c, ?_, rfl, rfl⟩
  rw [criticalCves_diff]
  refine List.mem_flatMap.mpr ⟨obs, hObs, ?_⟩
  exact mem_referenceCves.mpr
    ⟨f, hf, hNone, hSeverity, hCve, rfl, rfl, rfl, rfl⟩

/- An aged entry is about an image that has such a finding. -/
theorem of_mem_agedHighCves_diff
    {spec : SecuritySpec}
    {snapshot : SecuritySnapshot}
    {h : DigestCveAge}
    (hMem : h ∈ (diff spec snapshot).agedHighCves) :
    ∃ obs ∈ snapshot.imageDigests,
      HasAgedHighCve spec snapshot.observedAt obs h.cveId ∧
        h.digest = obs.digest := by
  rw [agedHighCves_diff] at hMem
  rcases List.mem_flatMap.mp hMem with ⟨obs, hObs, hEntry⟩
  rcases mem_referenceCves.mp hEntry with
    ⟨f, hf, hNone, hAged, hCve, hDigest, _⟩
  exact ⟨obs, hObs, ⟨f, hf, hNone, hCve, hAged.1, hAged.2⟩,
    hDigest⟩

/- A missing attestation is about an image that lacks it. -/
theorem of_mem_missingAttestations_diff
    {spec : SecuritySpec}
    {snapshot : SecuritySnapshot}
    {entry : String × List RequiredAttestation}
    (hMem : entry ∈ (diff spec snapshot).missingAttestations) :
    ∃ obs ∈ snapshot.imageDigests,
      entry.1 = obs.digest ∧
        ∀ att ∈ entry.2, LacksAttestation spec obs att := by
  rw [missingAttestations_diff] at hMem
  rcases List.mem_map.mp hMem with ⟨obs, hFilter, rfl⟩
  refine ⟨obs, (List.mem_filter.mp hFilter).1, rfl, ?_⟩
  intro att hAtt
  simpa [lacking, LacksAttestation, BTreeSet.mem_def]
    using hAtt

end SecurityController

end EngenhoPromessa

------------------------------------------------------------
-- Every Action Is Justified
------------------------------------------------------------

namespace EngenhoPromessa

namespace SecurityController

/- The three actions of a critical CVE name what it is in. -/
theorem justified_criticalActions
    (spec : SecuritySpec)
    {snapshot : SecuritySnapshot}
    {obs : DigestObservation}
    {c : DigestCveAge}
    {step : TypedAction}
    (hObs : obs ∈ snapshot.imageDigests)
    (hCritical : HasCriticalCve obs)
    (hDigest : c.digest = obs.digest)
    (hService : c.service = obs.service)
    (hStep : step ∈ criticalActions c) :
    Justified spec snapshot step := by
  refine ⟨obs, hObs, ?_⟩
  simp only [criticalActions, List.mem_cons, List.not_mem_nil,
    or_false] at hStep
  rcases hStep with rfl | rfl | rfl
  · refine ⟨?_, Or.inl ⟨?_, hCritical⟩⟩
    · simp [Names, subjectMember, subjectName, hDigest]
    · simp [AsksRevocation, Json.lookup_cons_ite]
  · refine ⟨?_, hCritical⟩
    simp [Names, subjectMember, subjectName, hService]
  · refine ⟨?_, hCritical⟩
    simp [Names, hService]

/- What asks for a missing attestation is called for. -/
theorem justified_attestationAction
    {spec : SecuritySpec}
    {snapshot : SecuritySnapshot}
    {obs : DigestObservation}
    {att : RequiredAttestation}
    (hObs : obs ∈ snapshot.imageDigests)
    (hLacks : LacksAttestation spec obs att) :
    Justified spec snapshot
      (attestationAction obs.digest att) := by
  refine ⟨obs, hObs, ?_, ?_⟩
  · cases att <;>
      simp [Names, attestationAction, attestationReconciler,
        subjectMember, subjectName]
  · cases att with
    | cartorioActive =>
        refine Or.inr ⟨?_, hLacks⟩
        simp [AsksRevocation, Json.lookup_cons_ite]
    | cosignSig => exact hLacks
    | sbomSpdx => exact hLacks
    | slsaProvenance => exact hLacks

/- What asks for a newer base image is called for. -/
theorem justified_agedHighAction
    {spec : SecuritySpec}
    {snapshot : SecuritySnapshot}
    {obs : DigestObservation}
    {h : DigestCveAge}
    (hObs : obs ∈ snapshot.imageDigests)
    (hAged :
      HasAgedHighCve spec snapshot.observedAt obs h.cveId)
    (hDigest : h.digest = obs.digest) :
    Justified spec snapshot (agedHighAction h) := by
  refine ⟨obs, hObs, ?_, h.cveId, ?_, hAged⟩
  · simp [Names, agedHighAction, subjectMember, subjectName,
      Json.lookup_cons_ite, hDigest]
  · simp

/- What forwards a clean image is called for. -/
theorem justified_harborAction
    {spec : SecuritySpec}
    {snapshot : SecuritySnapshot}
    {d : DigestService}
    (hMem : d ∈ (diff spec snapshot).allCleanDigests) :
    Justified spec snapshot (harborAction spec d) := by
  rw [allCleanDigests_diff] at hMem
  rcases List.mem_map.mp hMem with ⟨obs, hFilter, rfl⟩
  rcases List.mem_filter.mp hFilter with ⟨hObs, hExport⟩
  have hAddresses :
      Exportable spec snapshot.observedAt obs :=
    of_decide_eq_true hExport
  refine ⟨obs, hObs, ?_, hAddresses⟩
  simp [Names, harborAction, subjectMember, subjectName,
    Json.lookup_cons_ite]

/-
  Whatever the severity, the steps of a correction are
  justified by the drift they are made from.
-/
theorem justified_of_mem_correctionSteps
    {spec : SecuritySpec}
    {snapshot : SecuritySnapshot}
    {step : TypedAction}
    (severity : Severity)
    (hStep :
      step ∈ correctionSteps
        (decide spec severity (diff spec snapshot))) :
    Justified spec snapshot step := by
  cases severity with
  | critical =>
      rcases List.mem_flatMap.mp hStep with ⟨c, hc, hAction⟩
      rcases of_mem_criticalCves_diff hc with
        ⟨obs, hObs, hCritical, hDigest, hService⟩
      exact justified_criticalActions spec hObs hCritical
        hDigest hService hAction
  | functional =>
      simp only [decide] at hStep
      split at hStep
      · simp [correctionSteps] at hStep
      · rcases List.mem_append.mp hStep with hAtt | hHigh
        · rcases List.mem_flatMap.mp hAtt with
            ⟨entry, hEntry, hMap⟩
          rcases List.mem_map.mp hMap with ⟨att, hIn, rfl⟩
          rcases of_mem_missingAttestations_diff hEntry with
            ⟨obs, hObs, hDigest, hLacks⟩
          rw [hDigest]
          exact justified_attestationAction hObs
            (hLacks att hIn)
        · rcases List.mem_map.mp hHigh with ⟨h, hh, rfl⟩
          rcases of_mem_agedHighCves_diff hh with
            ⟨obs, hObs, hAged, hDigest⟩
          exact justified_agedHighAction hObs hAged hDigest
  | cosmetic =>
      simp only [decide] at hStep
      split at hStep
      · simp [correctionSteps] at hStep
      · rcases List.mem_map.mp hStep with ⟨d, hd, rfl⟩
        exact justified_harborAction hd

end SecurityController

end EngenhoPromessa

------------------------------------------------------------
-- Coverage
------------------------------------------------------------

namespace EngenhoPromessa

namespace SecurityController

/- A correction below critical always has a step. -/
theorem steps_ne_nil_of_not_critical
    {spec : SecuritySpec}
    {severity : Severity}
    {drift : SecurityDrift}
    {action : TypedAction}
    (hSeverity : severity ≠ .critical)
    (hDecide :
      decide spec severity drift = .autoCorrect action) :
    ∃ steps, action = .compose steps ∧ steps ≠ [] := by
  cases severity with
  | critical => exact absurd rfl hSeverity
  | functional =>
      simp only [decide] at hDecide
      split at hDecide
      · cases hDecide
      · rename_i hSome
        cases hDecide
        exact ⟨_, rfl, by simpa using hSome⟩
  | cosmetic =>
      simp only [decide] at hDecide
      split at hDecide
      · cases hDecide
      · rename_i hSome
        cases hDecide
        refine ⟨_, rfl, ?_⟩
        simp only [Bool.or_eq_true, not_or] at hSome
        simpa using hSome.2

/- A critical drift is corrected CVE by CVE. -/
theorem decision_of_critical
    {spec : SecuritySpec}
    {snapshot : SecuritySnapshot}
    (hCritical : classify (diff spec snapshot) = .critical) :
    decision spec snapshot =
      .autoCorrect
        (.compose
          ((diff spec snapshot).criticalCves.flatMap
            criticalActions)) := by
  rw [decision, hCritical]
  rfl

/- The actions of an entry name what has its digest. -/
theorem exists_names_of_criticalCve
    {obs : DigestObservation}
    {c : DigestCveAge}
    (hSame : c.digest = obs.digest ∨ c.service = obs.service) :
    ∃ step ∈ criticalActions c, Names step obs := by
  rcases hSame with hDigest | hService
  · refine ⟨_, List.mem_cons_self, ?_⟩
    simp [Names, subjectMember, subjectName, hDigest]
  · refine ⟨_, List.mem_cons_of_mem _ List.mem_cons_self, ?_⟩
    simp [Names, subjectMember, subjectName, hService]

/- What a CVE's actions name is its digest or its service. -/
theorem same_of_names_criticalActions
    {obs : DigestObservation}
    {c : DigestCveAge}
    {step : TypedAction}
    (hStep : step ∈ criticalActions c)
    (hNames : Names step obs) :
    c.digest = obs.digest ∨ c.service = obs.service := by
  simp only [criticalActions, List.mem_cons, List.not_mem_nil,
    or_false] at hStep
  rcases hStep with rfl | rfl | rfl
  · left
    simpa [Names, subjectMember, subjectName] using hNames
  · right
    simpa [Names, subjectMember, subjectName,
      String.append_right_inj] using hNames
  · right
    simpa [Names] using hNames

/- Named at critical: beside a critical CVE. -/
theorem named_of_critical_iff
    {spec : SecuritySpec}
    {snapshot : SecuritySnapshot}
    (hCritical : classify (diff spec snapshot) = .critical)
    (obs : DigestObservation) :
    (∃ step ∈ correctionSteps (decision spec snapshot),
        Names step obs) ↔
      ∃ other ∈ snapshot.imageDigests,
        HasCriticalCve other ∧
          (other.digest = obs.digest ∨
            other.service = obs.service) := by
  rw [decision_of_critical hCritical, correctionSteps]
  constructor
  · rintro ⟨step, hStep, hNames⟩
    rcases List.mem_flatMap.mp hStep with ⟨c, hc, hAction⟩
    rcases of_mem_criticalCves_diff hc with
      ⟨other, hOther, hCve, hDigest, hService⟩
    refine ⟨other, hOther, hCve, ?_⟩
    rw [← hDigest, ← hService]
    exact same_of_names_criticalActions hAction hNames
  · rintro ⟨other, hOther, hCve, hSame⟩
    rcases exists_mem_criticalCves_diff spec hOther hCve with
      ⟨c, hc, hDigest, hService⟩
    rw [← hDigest, ← hService] at hSame
    rcases exists_names_of_criticalCve hSame with
      ⟨step, hStep, hNames⟩
    exact ⟨step, List.mem_flatMap.mpr ⟨c, hc, hStep⟩, hNames⟩

/- One withdrawn image makes the whole drift critical. -/
theorem classify_diff_of_withdrawn
    (spec : SecuritySpec)
    {snapshot : SecuritySnapshot}
    {obs : DigestObservation}
    (hObs : obs ∈ snapshot.imageDigests)
    (hWithdrawn : IsWithdrawnStatus obs.cartorioStatus) :
    classify (diff spec snapshot) = .critical :=
  (classify_diff_eq_critical_iff spec snapshot).mpr
    ⟨obs, hObs,
      Or.inl ((isWithdrawn_eq_true_iff _).mpr hWithdrawn)⟩

/-
  A critical drift without critical CVEs has a withdrawn
  image.
-/
theorem exists_withdrawn_of_no_critical_cve
    {spec : SecuritySpec}
    {snapshot : SecuritySnapshot}
    (hCritical : classify (diff spec snapshot) = .critical)
    (hNone : (diff spec snapshot).criticalCves = []) :
    ∃ obs ∈ snapshot.imageDigests,
      IsWithdrawnStatus obs.cartorioStatus := by
  rcases (classify_eq_critical_iff _).mp hCritical with
    hSome | hSome
  · exact absurd hNone hSome
  · rw [revokedOrQuarantined_diff] at hSome
    rcases List.exists_mem_of_ne_nil _ hSome with
      ⟨digest, hDigest⟩
    rcases List.mem_map.mp hDigest with ⟨obs, hFilter, _⟩
    rcases List.mem_filter.mp hFilter with ⟨hObs, hStatus⟩
    exact ⟨obs, hObs, of_decide_eq_true hStatus⟩

/- A correction at critical has steps, if it must cover. -/
theorem criticalCves_ne_nil_of_beside
    {spec : SecuritySpec}
    {snapshot : SecuritySnapshot}
    (hBeside : WithdrawnBesideCritical snapshot)
    (hCritical : classify (diff spec snapshot) = .critical) :
    (diff spec snapshot).criticalCves ≠ [] := by
  intro hNone
  rcases exists_withdrawn_of_no_critical_cve hCritical hNone
    with ⟨obs, hObs, hWithdrawn⟩
  rcases hBeside obs hObs hWithdrawn with
    ⟨other, hOther, hCve, _⟩
  rcases exists_mem_criticalCves_diff spec hOther hCve with
    ⟨c, hc, _⟩
  rw [hNone] at hc
  exact List.not_mem_nil hc

/- Every critical CVE leads to some action. -/
theorem criticalActions_ne_nil (c : DigestCveAge) :
    criticalActions c ≠ [] := List.cons_ne_nil _ _

/- Then a correction always has a step. -/
theorem steps_ne_nil_of_beside
    {spec : SecuritySpec}
    {snapshot : SecuritySnapshot}
    {action : TypedAction}
    (hBeside : WithdrawnBesideCritical snapshot)
    (hDecision :
      decision spec snapshot = .autoCorrect action) :
    ∃ steps, action = .compose steps ∧ steps ≠ [] := by
  by_cases hCritical : classify (diff spec snapshot) = .critical
  · rw [decision_of_critical hCritical] at hDecision
    cases hDecision
    refine ⟨_, rfl, ?_⟩
    rcases List.exists_mem_of_ne_nil _
      (criticalCves_ne_nil_of_beside hBeside hCritical) with
      ⟨c, hc⟩
    intro hNil
    exact criticalActions_ne_nil c
      (List.flatMap_eq_nil_iff.mp hNil c hc)
  · exact steps_ne_nil_of_not_critical hCritical hDecision

/-
  A decision corrects what drifted unless an image is
  withdrawn that shares nothing with a critical CVE.
-/
theorem correctsDrift_iff
    (spec : SecuritySpec)
    (snapshot : SecuritySnapshot) :
    CorrectsDrift spec snapshot ↔
      WithdrawnBesideCritical snapshot := by
  constructor
  · intro hCorrects obs hObs hWithdrawn
    have hCritical :=
      classify_diff_of_withdrawn spec hObs hWithdrawn
    exact (named_of_critical_iff hCritical obs).mp
      (hCorrects.covers hCritical obs hObs
        (Or.inl hWithdrawn))
  · intro hBeside
    refine ⟨?_, ?_⟩
    · intro action hDecision
      rcases steps_ne_nil_of_beside hBeside hDecision with
        ⟨steps, rfl, hSome⟩
      refine ⟨steps, rfl, hSome, ?_⟩
      intro step hStep
      refine justified_of_mem_correctionSteps
        (classify (diff spec snapshot)) ?_
      change step ∈ correctionSteps (decision spec snapshot)
      rw [hDecision]
      exact hStep
    · rintro hCritical obs hObs (hWithdrawn | hCve)
      · exact (named_of_critical_iff hCritical obs).mpr
          (hBeside obs hObs hWithdrawn)
      · exact (named_of_critical_iff hCritical obs).mpr
          ⟨obs, hObs, hCve, Or.inl rfl⟩

/- One image, in order but for having been revoked. -/
def revokedSnapshot : SecuritySnapshot where
  imageDigests :=
    [ { digest := "sha256:0b1c"
        service := "auth"
        cartorioStatus := .revoked
        findings := []
        attestationsPresent :=
          SecuritySpec.default.requiredAttestations
        scannersReported :=
          SecuritySpec.default.requiredScanners } ]
  observedAt := ⟨0⟩

/- Its correction is a `Compose` of nothing. -/
theorem not_correctsDrift_revokedSnapshot :
    decision SecuritySpec.default revokedSnapshot =
        .autoCorrect (.compose []) ∧
      ¬ CorrectsDrift SecuritySpec.default
        revokedSnapshot := by
  have hEmpty :
      decision SecuritySpec.default revokedSnapshot =
        .autoCorrect (.compose []) := by
    have hCritical :
        classify
            (diff SecuritySpec.default revokedSnapshot) =
          .critical := by
      decide
    have hNone :
        (diff SecuritySpec.default
          revokedSnapshot).criticalCves = [] := by
      decide
    rw [decision_of_critical hCritical, hNone]
    rfl
  refine ⟨hEmpty, ?_⟩
  intro hCorrects
  rcases hCorrects.justified _ hEmpty with
    ⟨steps, hSteps, hSome, _⟩
  cases hSteps
  exact hSome rfl

end SecurityController

end EngenhoPromessa
