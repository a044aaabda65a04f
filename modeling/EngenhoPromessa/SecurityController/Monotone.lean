import EngenhoPromessa.SecurityController.Drift
import Mathlib.Logic.Relation

/-
  The severity of a snapshot never falls when the snapshot
  gets worse.

  `Worsens` lists the single ways of getting worse; a chain
  of them is summed up by `NoBetter`, which compares two
  snapshots observation by observation.

  Key definitions include:
    * `SecuritySnapshot.Worsens`
    * `SecuritySnapshot.NoBetter`

  Key theorems include:
    * `SecuritySnapshot.noBetter_of_worsens`
    * `SecurityController.classify_diff_mono`
-/

------------------------------------------------------------
-- Getting Worse
------------------------------------------------------------

namespace EngenhoPromessa

namespace DigestObservation

/- One way for what was observed of a digest to get worse. -/
inductive Worsens (obs : DigestObservation) :
    DigestObservation → Prop where
  | findingInserted
      {before after : List Finding}
      (hFindings : obs.findings = before ++ after)
      (f : Finding) :
      Worsens obs
        { obs with findings := before ++ f :: after }
  | attestationRemoved (att : RequiredAttestation) :
      Worsens obs
        { obs with
          attestationsPresent :=
            obs.attestationsPresent.retain (· ≠ att) }
  | scannerRemoved (scanner : RequiredScanner) :
      Worsens obs
        { obs with
          scannersReported :=
            obs.scannersReported.retain (· ≠ scanner) }
  | withdrawn
      {status : CartorioStatus}
      (hBefore :
        obs.cartorioStatus = .active ∨
          obs.cartorioStatus = .pending)
      (hAfter :
        status = .revoked ∨ status = .quarantined ∨
          status = .superseded) :
      Worsens obs { obs with cartorioStatus := status }

end DigestObservation

namespace SecuritySnapshot

/- One way for a snapshot to get worse. -/
inductive Worsens (s : SecuritySnapshot) :
    SecuritySnapshot → Prop where
  | observation
      {before after : List DigestObservation}
      {obs obs' : DigestObservation}
      (hDigests : s.imageDigests = before ++ obs :: after)
      (hObs : obs.Worsens obs') :
      Worsens s
        { s with imageDigests := before ++ obs' :: after }
  | observationAdded
      {before after : List DigestObservation}
      (hDigests : s.imageDigests = before ++ after)
      (obs : DigestObservation) :
      Worsens s
        { s with imageDigests := before ++ obs :: after }
  | observedLater
      {t : DateTime}
      (hLater : s.observedAt ≤ t) :
      Worsens s { s with observedAt := t }

end SecuritySnapshot

end EngenhoPromessa

------------------------------------------------------------
-- No Better Than
------------------------------------------------------------

namespace EngenhoPromessa

open SecurityController

namespace DigestObservation

/- `obs'` has every fault that `obs` has. -/
structure NoBetter (obs obs' : DigestObservation) :
    Prop where
  findings_subset : obs.findings ⊆ obs'.findings
  attestations_subset :
    ∀ att ∈ obs'.attestationsPresent,
      att ∈ obs.attestationsPresent
  scanners_subset :
    ∀ scanner ∈ obs'.scannersReported,
      scanner ∈ obs.scannersReported
  isWithdrawn_of_isWithdrawn :
    isWithdrawn obs.cartorioStatus = true →
      isWithdrawn obs'.cartorioStatus = true

theorem noBetter_refl (obs : DigestObservation) :
    obs.NoBetter obs where
  findings_subset := List.Subset.refl _
  attestations_subset _ hAtt := hAtt
  scanners_subset _ hScanner := hScanner
  isWithdrawn_of_isWithdrawn hWithdrawn := hWithdrawn

/- Getting worse adds up. -/
theorem NoBetter.trans
    {a b c : DigestObservation}
    (hab : a.NoBetter b)
    (hbc : b.NoBetter c) :
    a.NoBetter c where
  findings_subset :=
    List.Subset.trans hab.findings_subset
      hbc.findings_subset
  attestations_subset att hAtt :=
    hab.attestations_subset att
      (hbc.attestations_subset att hAtt)
  scanners_subset scanner hScanner :=
    hab.scanners_subset scanner
      (hbc.scanners_subset scanner hScanner)
  isWithdrawn_of_isWithdrawn hWithdrawn :=
    hbc.isWithdrawn_of_isWithdrawn
      (hab.isWithdrawn_of_isWithdrawn hWithdrawn)

/- Each way of getting worse leaves all faults in place. -/
theorem noBetter_of_worsens
    {obs obs' : DigestObservation}
    (hWorsens : obs.Worsens obs') :
    obs.NoBetter obs' := by
  cases hWorsens with
  | @findingInserted before after hFindings f =>
      refine { noBetter_refl obs with findings_subset := ?_ }
      intro g hg
      rw [hFindings] at hg
      rcases List.mem_append.mp hg with hBefore | hAfter
      · exact List.mem_append_left _ hBefore
      · exact List.mem_append_right _
          (List.mem_cons_of_mem f hAfter)
  | attestationRemoved att =>
      refine { noBetter_refl obs with
        attestations_subset := ?_ }
      intro a hAtt
      exact ((BTreeSet.mem_retain _ _ _).mp hAtt).1
  | scannerRemoved scanner =>
      refine { noBetter_refl obs with scanners_subset := ?_ }
      intro s hScanner
      exact ((BTreeSet.mem_retain _ _ _).mp hScanner).1
  | withdrawn hBefore hAfter =>
      refine { noBetter_refl obs with
        isWithdrawn_of_isWithdrawn := ?_ }
      intro _
      rcases hAfter with rfl | rfl | rfl
      · rfl
      · rfl
      · rfl

end DigestObservation

namespace SecuritySnapshot

/-
  Every observation of `s` has one in `s'` that is no better,
  and `s'` was not observed earlier.
-/
structure NoBetter (s s' : SecuritySnapshot) : Prop where
  observations :
    ∀ obs ∈ s.imageDigests,
      ∃ obs' ∈ s'.imageDigests, obs.NoBetter obs'
  observedAt_le : s.observedAt ≤ s'.observedAt

/- A snapshot is no better than itself. -/
theorem noBetter_refl (s : SecuritySnapshot) :
    s.NoBetter s where
  observations obs hObs :=
    ⟨obs, hObs, obs.noBetter_refl⟩
  observedAt_le := le_refl _

/- Getting worse adds up here, too. -/
theorem NoBetter.trans
    {a b c : SecuritySnapshot}
    (hab : a.NoBetter b)
    (hbc : b.NoBetter c) :
    a.NoBetter c where
  observations obs hObs := by
    rcases hab.observations obs hObs with
      ⟨obs', hObs', hFirst⟩
    rcases hbc.observations obs' hObs' with
      ⟨obs'', hObs'', hSecond⟩
    exact ⟨obs'', hObs'', hFirst.trans hSecond⟩
  observedAt_le := hab.observedAt_le.trans hbc.observedAt_le

/- One step of getting worse leaves nothing better. -/
theorem noBetter_of_worsens
    {s s' : SecuritySnapshot}
    (hWorsens : s.Worsens s') :
    s.NoBetter s' := by
  cases hWorsens with
  | @observation before after obs obs' hDigests hObs =>
      refine { noBetter_refl s with observations := ?_ }
      intro o ho
      rw [hDigests] at ho
      rcases List.mem_append.mp ho with hBefore | hRest
      · exact ⟨o, List.mem_append_left _ hBefore,
          o.noBetter_refl⟩
      · rcases List.mem_cons.mp hRest with rfl | hAfter
        · exact ⟨obs', by simp,
            DigestObservation.noBetter_of_worsens hObs⟩
        · exact ⟨o, by simp [hAfter], o.noBetter_refl⟩
  | @observationAdded before after hDigests obs =>
      refine { noBetter_refl s with observations := ?_ }
      intro o ho
      rw [hDigests] at ho
      refine ⟨o, ?_, o.noBetter_refl⟩
      rcases List.mem_append.mp ho with hBefore | hAfter
      · exact List.mem_append_left _ hBefore
      · exact List.mem_append_right _
          (List.mem_cons_of_mem obs hAfter)
  | observedLater hLater =>
      exact { noBetter_refl s with observedAt_le := hLater }

/- And neither does any chain of steps. -/
theorem noBetter_of_chain
    {s s' : SecuritySnapshot}
    (hChain : Relation.ReflTransGen Worsens s s') :
    s.NoBetter s' := by
  induction hChain with
  | refl => exact noBetter_refl s
  | tail hChain hStep ih =>
      exact ih.trans (noBetter_of_worsens hStep)

end SecuritySnapshot

end EngenhoPromessa

------------------------------------------------------------
-- The Severity Never Falls
------------------------------------------------------------

namespace EngenhoPromessa

namespace DateTime

/- Truncated day counts grow with the later instant. -/
theorem numDaysSince_mono
    {t t' : DateTime}
    (hLater : t ≤ t')
    (earlier : DateTime) :
    t.numDaysSince earlier ≤ t'.numDaysSince earlier := by
  have hNanos : t.nanos ≤ t'.nanos := hLater
  unfold numDaysSince
  apply Int.tdiv_le_tdiv
  · decide
  · omega

end DateTime

namespace SecurityController

/- A finding that is over age stays over age. -/
theorem isAgedHighCve_mono
    {t t' : DateTime}
    (hLater : t ≤ t')
    (spec : SecuritySpec)
    {f : Finding}
    (hAged : isAgedHighCve spec t f = true) :
    isAgedHighCve spec t' f = true := by
  simp only [isAgedHighCve, isAgedHigh,
    decide_eq_true_eq] at hAged ⊢
  rcases hAged with ⟨⟨hSeverity, hAge⟩, hReported⟩
  have hDays :=
    DateTime.numDaysSince_mono hLater f.firstSeen
  refine ⟨⟨hSeverity, ?_⟩, hReported⟩
  unfold Finding.ageDays at hAge ⊢
  omega

/- Nothing is missing if all that is required is there. -/
theorem missingAttestationsOf_eq_nil_iff
    (spec : SecuritySpec)
    (obs : DigestObservation) :
    missingAttestationsOf spec obs = [] ↔
      ∀ att ∈ spec.requiredAttestations,
        att ∈ obs.attestationsPresent := by
  simp [missingAttestationsOf, List.eq_nil_iff_forall_not_mem]

/- The same for the scanners. -/
theorem missingScannersOf_eq_nil_iff
    (spec : SecuritySpec)
    (obs : DigestObservation) :
    missingScannersOf spec obs = [] ↔
      ∀ scanner ∈ spec.requiredScanners,
        scanner ∈ obs.scannersReported := by
  simp [missingScannersOf, List.eq_nil_iff_forall_not_mem]

/- What is settled in the worse observation is in the other. -/
theorem isSettled_of_noBetter
    {spec : SecuritySpec}
    {t t' : DateTime}
    {obs obs' : DigestObservation}
    (hLater : t ≤ t')
    (hWorse : obs.NoBetter obs')
    (hSettled : IsSettled spec t' obs') :
    IsSettled spec t obs := by
  rcases hSettled with ⟨hStatus, hAtts, hScanners, hFindings⟩
  rw [missingAttestationsOf_eq_nil_iff] at hAtts
  rw [missingScannersOf_eq_nil_iff] at hScanners
  refine ⟨?_, ?_, ?_, ?_⟩
  · cases hBefore : isWithdrawn obs.cartorioStatus with
    | false => rfl
    | true =>
        have hAfter := hWorse.isWithdrawn_of_isWithdrawn hBefore
        rw [hStatus] at hAfter
        exact hAfter.symm
  · rw [missingAttestationsOf_eq_nil_iff]
    intro att hAtt
    exact hWorse.attestations_subset att (hAtts att hAtt)
  · rw [missingScannersOf_eq_nil_iff]
    intro scanner hScanner
    exact hWorse.scanners_subset scanner
      (hScanners scanner hScanner)
  · intro f hf
    rcases hFindings f (hWorse.findings_subset hf) with
      ⟨hCritical, hHigh⟩
    refine ⟨hCritical, ?_⟩
    cases hAged : isAgedHighCve spec t f with
    | false => rfl
    | true =>
        rw [isAgedHighCve_mono hLater spec hAged] at hHigh
        exact hHigh

/- All faults of the better one are found in the worse one. -/
theorem classify_diff_le_of_noBetter
    {s s' : SecuritySnapshot}
    (hWorse : s.NoBetter s')
    (spec : SecuritySpec) :
    classify (diff spec s) ≤ classify (diff spec s') := by
  apply Severity.le_of_imp
  · rw [classify_diff_eq_critical_iff,
      classify_diff_eq_critical_iff]
    rintro ⟨obs, hObs, hFault⟩
    rcases hWorse.observations obs hObs with
      ⟨obs', hObs', hNoBetter⟩
    refine ⟨obs', hObs', ?_⟩
    rcases hFault with hStatus | ⟨f, hf, hCritical⟩
    · exact Or.inl
        (hNoBetter.isWithdrawn_of_isWithdrawn hStatus)
    · exact Or.inr
        ⟨f, hNoBetter.findings_subset hf, hCritical⟩
  · rw [classify_diff_eq_cosmetic_iff,
      classify_diff_eq_cosmetic_iff]
    intro hSettled obs hObs
    rcases hWorse.observations obs hObs with
      ⟨obs', hObs', hNoBetter⟩
    exact isSettled_of_noBetter hWorse.observedAt_le
      hNoBetter (hSettled obs' hObs')

/- The law `classify_monotonic`. -/
theorem classify_diff_mono
    (spec : SecuritySpec)
    {s s' : SecuritySnapshot}
    (hChain :
      Relation.ReflTransGen SecuritySnapshot.Worsens s s') :
    classify (diff spec s) ≤ classify (diff spec s') :=
  classify_diff_le_of_noBetter
    (SecuritySnapshot.noBetter_of_chain hChain) spec

end SecurityController

end EngenhoPromessa

------------------------------------------------------------
-- Every Way At Once
------------------------------------------------------------

namespace EngenhoPromessa

namespace Reference

/- An image that keeps the default promise. -/
def keptDigest : DigestObservation where
  digest := "sha256:00"
  service := "auth"
  cartorioStatus := .active
  findings := []
  attestationsPresent :=
    SecuritySpec.default.requiredAttestations
  scannersReported := SecuritySpec.default.requiredScanners

/- A high finding on the day it is found. -/
def newHighFinding : Finding where
  scanner := .trivy
  cveId := some "CVE-2026-0001"
  severity := .high
  firstSeen := ⟨0⟩
  fixedIn := none
  exceptionId := none

/- The same image after each way of getting worse. -/
def brokenDigest : DigestObservation where
  digest := "sha256:00"
  service := "auth"
  cartorioStatus := .revoked
  findings := [newHighFinding]
  attestationsPresent :=
    keptDigest.attestationsPresent.retain (· ≠ .cosignSig)
  scannersReported :=
    keptDigest.scannersReported.retain (· ≠ .trivy)

/- An image of which nothing is known yet. -/
def unknownDigest : DigestObservation where
  digest := "sha256:01"
  service := "gateway"
  cartorioStatus := .pending
  findings := []
  attestationsPresent := ∅
  scannersReported := ∅

/- The snapshot of that one image. -/
def keptSnapshot : SecuritySnapshot where
  imageDigests := [keptDigest]
  observedAt := ⟨0⟩

/- Twenty days later. -/
def brokenSnapshot : SecuritySnapshot where
  imageDigests := [brokenDigest, unknownDigest]
  observedAt := ⟨20 * DateTime.nanosPerDay⟩

/- Four ways of getting worse for one image. -/
theorem brokenDigest_of_keptDigest :
    Relation.ReflTransGen DigestObservation.Worsens
      keptDigest brokenDigest := by
  refine .head
    (@DigestObservation.Worsens.findingInserted keptDigest
      [] [] rfl newHighFinding) ?_
  refine .head (.attestationRemoved .cosignSig) ?_
  refine .head (.scannerRemoved .trivy) ?_
  exact .single (.withdrawn (.inl rfl) (.inl rfl))

/- All six ways of getting worse, one after the other. -/
theorem brokenSnapshot_of_keptSnapshot :
    Relation.ReflTransGen SecuritySnapshot.Worsens
      keptSnapshot brokenSnapshot := by
  have hOnly (obs obs' : DigestObservation)
      (hObs : obs.Worsens obs') :
      SecuritySnapshot.Worsens ⟨[obs], ⟨0⟩⟩
        ⟨[obs'], ⟨0⟩⟩ :=
    @SecuritySnapshot.Worsens.observation ⟨[obs], ⟨0⟩⟩
      [] [] obs obs' rfl hObs
  have hImage := brokenDigest_of_keptDigest.lift
    (fun obs => (⟨[obs], ⟨0⟩⟩ : SecuritySnapshot)) hOnly
  have hAdded :=
    @SecuritySnapshot.Worsens.observationAdded
      ⟨[brokenDigest], ⟨0⟩⟩ [brokenDigest] [] rfl
      unknownDigest
  have hDays :
      (⟨0⟩ : DateTime) ≤ ⟨20 * DateTime.nanosPerDay⟩ := by
    decide
  exact (hImage.tail hAdded).tail (.observedLater hDays)

end Reference

namespace SecurityController

open Reference

/- From cosmetic to critical, in a chain of six steps. -/
theorem classify_diff_mono_revoked :
    classify (diff .default keptSnapshot) = .cosmetic ∧
      classify (diff .default brokenSnapshot) = .critical ∧
      classify (diff .default keptSnapshot) ≤
        classify (diff .default brokenSnapshot) :=
  ⟨by decide, by decide,
    classify_diff_mono .default
      brokenSnapshot_of_keptSnapshot⟩

end SecurityController

end EngenhoPromessa
