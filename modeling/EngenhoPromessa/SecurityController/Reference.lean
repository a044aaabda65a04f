import EngenhoPromessa.SecurityController.Drift

/-
  The drift as a specification: each list is the image of
  the observations under the condition that defines it.

  Key definitions include:
    * `SecurityController.referenceDrift`

  Key theorems include:
    * `SecurityController.diff_eq_referenceDrift`
-/

------------------------------------------------------------
-- Reference Lists
------------------------------------------------------------

namespace EngenhoPromessa

namespace SecurityController

/-
  The entries of the un-excepted findings that name a CVE
  and meet a condition, in the order of the findings.
-/
def referenceCves
    (now : DateTime)
    (cond : Finding → Prop)
    [DecidablePred cond]
    (obs : DigestObservation) : List DigestCveAge :=
  obs.findings.filterMap (fun f =>
    f.cveId.bind (fun cveId =>
      if f.exceptionId = none ∧ cond f then
        some
          { digest := obs.digest
            service := obs.service
            cveId := cveId
            scanner := f.scanner
            ageDays := f.ageDays now }
      else
        none))

/- The entries for critical CVEs. -/
def referenceCritical
    (now : DateTime)
    (obs : DigestObservation) : List DigestCveAge :=
  referenceCves now (fun f => f.severity = .critical) obs

/- The entries for high CVEs that are too old. -/
def referenceAgedHigh
    (spec : SecuritySpec)
    (now : DateTime)
    (obs : DigestObservation) : List DigestCveAge :=
  referenceCves now
    (fun f =>
      f.severity = .high ∧
        (spec.maxHighAgeDays : Int) < f.ageDays now) obs

/- The entries for medium CVEs that are too old. -/
def referenceAgedMedium
    (spec : SecuritySpec)
    (now : DateTime)
    (obs : DigestObservation) : List DigestCveAge :=
  referenceCves now
    (fun f =>
      f.severity = .medium ∧
        (spec.maxMediumAgeDays : Int) < f.ageDays now) obs

/- What is required and not present, in order. -/
def lacking
    {α : Type}
    [LinearOrder α]
    (required present : BTreeSet α) : List α :=
  required.toList.filter (fun a => a ∉ present)

/- The observations in which something required is lacking. -/
def referenceMissing
    {α : Type}
    [LinearOrder α]
    (required : BTreeSet α)
    (present : DigestObservation → BTreeSet α)
    (observations : List DigestObservation) :
    List (String × List α) :=
  (observations.filter
      (fun obs => lacking required (present obs) ≠ [])).map
    (fun obs => (obs.digest, lacking required (present obs)))

/- The status of an image that was taken back. -/
def IsWithdrawnStatus (status : CartorioStatus) : Prop :=
  status = .revoked ∨ status = .quarantined ∨
    status = .superseded

instance : DecidablePred IsWithdrawnStatus :=
  fun _ => inferInstanceAs (Decidable (_ ∨ _))

/- The observation adds to none of the other lists. -/
def ContributesNothing
    (spec : SecuritySpec)
    (now : DateTime)
    (obs : DigestObservation) : Prop :=
  referenceCritical now obs = [] ∧
    referenceAgedHigh spec now obs = [] ∧
    referenceAgedMedium spec now obs = [] ∧
    lacking spec.requiredAttestations
      obs.attestationsPresent = [] ∧
    lacking spec.requiredScanners
      obs.scannersReported = [] ∧
    ¬ IsWithdrawnStatus obs.cartorioStatus

instance
    (spec : SecuritySpec)
    (now : DateTime) :
    DecidablePred (ContributesNothing spec now) :=
  fun _ => inferInstanceAs (Decidable (_ ∧ _))

/- What the drift should be, list by list. -/
def referenceDrift
    (spec : SecuritySpec)
    (snapshot : SecuritySnapshot) : SecurityDrift where
  criticalCves :=
    snapshot.imageDigests.flatMap
      (referenceCritical snapshot.observedAt)
  agedHighCves :=
    snapshot.imageDigests.flatMap
      (referenceAgedHigh spec snapshot.observedAt)
  agedMediumCves :=
    snapshot.imageDigests.flatMap
      (referenceAgedMedium spec snapshot.observedAt)
  missingAttestations :=
    referenceMissing spec.requiredAttestations
      DigestObservation.attestationsPresent
      snapshot.imageDigests
  missingScanners :=
    referenceMissing spec.requiredScanners
      DigestObservation.scannersReported
      snapshot.imageDigests
  revokedOrQuarantined :=
    (snapshot.imageDigests.filter
        (fun obs => IsWithdrawnStatus obs.cartorioStatus)).map
      DigestObservation.digest
  allCleanDigests :=
    (snapshot.imageDigests.filter
        (fun obs =>
          obs.cartorioStatus = .active ∧
            ContributesNothing spec snapshot.observedAt
              obs)).map
      (fun obs =>
        { digest := obs.digest, service := obs.service })
  totalDigestsObserved := snapshot.imageDigests.length

end SecurityController

end EngenhoPromessa

------------------------------------------------------------
-- Contributions Of An Observation
------------------------------------------------------------

namespace EngenhoPromessa

namespace SecurityController

/- A loop with a test is the list by its condition. -/
theorem entriesOf_eq_referenceCves
    (now : DateTime)
    (obs : DigestObservation)
    (keep : Finding → Bool)
    (cond : Finding → Prop)
    [DecidablePred cond]
    (hKeep : ∀ f, keep f = true ↔ cond f) :
    entriesOf now obs keep obs.findings =
      referenceCves now cond obs := by
  rw [entriesOf, List.filterMap_filter, referenceCves]
  refine List.filterMap_congr ?_
  intro f _
  cases hCve : f.cveId with
  | none =>
      simp [cveEntry, reportedCve, hCve]
  | some cveId =>
      cases hException : f.exceptionId with
      | none =>
          simp [cveEntry, reportedCve, hCve, hException,
            hKeep f]
      | some exceptionId =>
          simp [cveEntry, reportedCve, hException]

theorem isWithdrawn_eq_true_iff (status : CartorioStatus) :
    isWithdrawn status = true ↔ IsWithdrawnStatus status := by
  cases status <;> simp [isWithdrawn, IsWithdrawnStatus]

theorem criticalCves_observationDrift
    (spec : SecuritySpec)
    (now : DateTime)
    (obs : DigestObservation) :
    (observationDrift spec now obs).criticalCves =
      referenceCritical now obs :=
  entriesOf_eq_referenceCves now obs _ _ (by simp)

theorem agedHighCves_observationDrift
    (spec : SecuritySpec)
    (now : DateTime)
    (obs : DigestObservation) :
    (observationDrift spec now obs).agedHighCves =
      referenceAgedHigh spec now obs :=
  entriesOf_eq_referenceCves now obs _ _ (by simp [isAgedHigh])

/- The aged medium entries of one image. -/
theorem agedMediumCves_observationDrift
    (spec : SecuritySpec)
    (now : DateTime)
    (obs : DigestObservation) :
    (observationDrift spec now obs).agedMediumCves =
      referenceAgedMedium spec now obs :=
  entriesOf_eq_referenceCves now obs _ _
    (by simp [isAgedMedium])

/- The clean flag of the loop says that nothing was added. -/
theorem isClean_iff_contributesNothing
    (spec : SecuritySpec)
    (now : DateTime)
    (obs : DigestObservation) :
    isClean spec now obs = true ↔
      ContributesNothing spec now obs := by
  have hCritical := criticalCves_observationDrift spec now obs
  have hHigh := agedHighCves_observationDrift spec now obs
  have hMedium := agedMediumCves_observationDrift spec now obs
  simp only [observationDrift] at hCritical hHigh hMedium
  simp only [isClean, findingsClean, hCritical, hHigh, hMedium,
    missingAttestationsOf, missingScannersOf,
    ContributesNothing, lacking, BTreeSet.difference,
    Bool.and_eq_true, Bool.not_eq_true',
    ← Bool.not_eq_true, isWithdrawn_eq_true_iff,
    List.isEmpty_iff]
  tauto

/- An entry per image that lacks something. -/
theorem flatMap_entryUnlessEmpty
    {α : Type}
    [LinearOrder α]
    (required : BTreeSet α)
    (present : DigestObservation → BTreeSet α)
    (observations : List DigestObservation) :
    observations.flatMap
        (fun obs =>
          entryUnlessEmpty obs.digest
            (required.difference (present obs))) =
      referenceMissing required present observations := by
  refine flatMap_eq_map_filter _ _ ?_ _
  intro obs
  rw [show required.difference (present obs) =
    lacking required (present obs) from rfl]
  cases lacking required (present obs) with
  | nil => rfl
  | cons a as => rfl

/- The withdrawn digests, in the order observed. -/
theorem flatMap_withdrawnDigest
    (observations : List DigestObservation) :
    observations.flatMap withdrawnDigest =
      (observations.filter
          (fun obs => IsWithdrawnStatus obs.cartorioStatus)).map
        DigestObservation.digest := by
  refine flatMap_eq_map_filter _ _ ?_ _
  intro obs
  simp only [withdrawnDigest, isWithdrawn_eq_true_iff]

/- The clean images, in the order observed. -/
theorem flatMap_cleanDigest
    (spec : SecuritySpec)
    (now : DateTime)
    (observations : List DigestObservation) :
    observations.flatMap (cleanDigest spec now) =
      (observations.filter
          (fun obs =>
            obs.cartorioStatus = .active ∧
              ContributesNothing spec now obs)).map
        (fun obs =>
          { digest := obs.digest, service := obs.service }) := by
  refine flatMap_eq_map_filter _ _ ?_ _
  intro obs
  simp only [cleanDigest, Bool.and_eq_true, beq_iff_eq,
    isClean_iff_contributesNothing, and_comm]

end SecurityController

end EngenhoPromessa

------------------------------------------------------------
-- The Loop Computes The Reference
------------------------------------------------------------

namespace EngenhoPromessa

namespace SecurityController

/- A list of the drift, observation by observation. -/
theorem flatMap_map_observationDrift
    {α : Type}
    (field : SecurityDrift → List α)
    (spec : SecuritySpec)
    (snapshot : SecuritySnapshot) :
    (snapshot.imageDigests.map
        (observationDrift spec snapshot.observedAt)).flatMap
        field =
      snapshot.imageDigests.flatMap
        (fun obs =>
          field
            (observationDrift spec snapshot.observedAt obs)) :=
  List.flatMap_map _ _ _

/- The critical entries of a snapshot. -/
theorem criticalCves_diff
    (spec : SecuritySpec)
    (snapshot : SecuritySnapshot) :
    (diff spec snapshot).criticalCves =
      snapshot.imageDigests.flatMap
        (referenceCritical snapshot.observedAt) := by
  rw [diff_eq_concat]
  simp only [SecurityDrift.concat,
    flatMap_map_observationDrift,
    criticalCves_observationDrift]

/- The aged high entries of a snapshot. -/
theorem agedHighCves_diff
    (spec : SecuritySpec)
    (snapshot : SecuritySnapshot) :
    (diff spec snapshot).agedHighCves =
      snapshot.imageDigests.flatMap
        (referenceAgedHigh spec snapshot.observedAt) := by
  rw [diff_eq_concat]
  simp only [SecurityDrift.concat,
    flatMap_map_observationDrift,
    agedHighCves_observationDrift]

/- The aged medium entries of a snapshot. -/
theorem agedMediumCves_diff
    (spec : SecuritySpec)
    (snapshot : SecuritySnapshot) :
    (diff spec snapshot).agedMediumCves =
      snapshot.imageDigests.flatMap
        (referenceAgedMedium spec snapshot.observedAt) := by
  rw [diff_eq_concat]
  simp only [SecurityDrift.concat,
    flatMap_map_observationDrift,
    agedMediumCves_observationDrift]

/- The missing attestations of a snapshot. -/
theorem missingAttestations_diff
    (spec : SecuritySpec)
    (snapshot : SecuritySnapshot) :
    (diff spec snapshot).missingAttestations =
      referenceMissing spec.requiredAttestations
        DigestObservation.attestationsPresent
        snapshot.imageDigests := by
  rw [diff_eq_concat]
  simp only [SecurityDrift.concat,
    flatMap_map_observationDrift]
  exact flatMap_entryUnlessEmpty spec.requiredAttestations
    DigestObservation.attestationsPresent _

/- The missing scanners of a snapshot. -/
theorem missingScanners_diff
    (spec : SecuritySpec)
    (snapshot : SecuritySnapshot) :
    (diff spec snapshot).missingScanners =
      referenceMissing spec.requiredScanners
        DigestObservation.scannersReported
        snapshot.imageDigests := by
  rw [diff_eq_concat]
  simp only [SecurityDrift.concat,
    flatMap_map_observationDrift]
  exact flatMap_entryUnlessEmpty spec.requiredScanners
    DigestObservation.scannersReported _

/- The withdrawn digests of a snapshot. -/
theorem revokedOrQuarantined_diff
    (spec : SecuritySpec)
    (snapshot : SecuritySnapshot) :
    (diff spec snapshot).revokedOrQuarantined =
      (snapshot.imageDigests.filter
          (fun obs => IsWithdrawnStatus obs.cartorioStatus)).map
        DigestObservation.digest := by
  rw [diff_eq_concat]
  simp only [SecurityDrift.concat,
    flatMap_map_observationDrift]
  exact flatMap_withdrawnDigest _

/-
  The accumulating loop of `diff` computes the reference, in
  every list, with order and multiplicity.
-/
theorem diff_eq_referenceDrift
    (spec : SecuritySpec)
    (snapshot : SecuritySnapshot) :
    diff spec snapshot = referenceDrift spec snapshot := by
  refine SecurityDrift.ext
    (criticalCves_diff spec snapshot)
    (agedHighCves_diff spec snapshot)
    (agedMediumCves_diff spec snapshot)
    (missingAttestations_diff spec snapshot)
    (missingScanners_diff spec snapshot)
    (revokedOrQuarantined_diff spec snapshot) ?_ ?_
  · rw [diff_eq_concat]
    simp only [SecurityDrift.concat,
      flatMap_map_observationDrift]
    exact flatMap_cleanDigest spec snapshot.observedAt _
  · rw [diff_eq_concat]
    rfl

end SecurityController

end EngenhoPromessa
