import EngenhoPromessa.SecurityController.Model
import Mathlib.Algebra.GroupWithZero.Nat
import Mathlib.Data.List.Flatten

/-
  What `diff`, `classify` and `decide` say about a snapshot.

  The loops of `diff` are summed up once: the drift of a
  snapshot is the concatenation of the drifts of its
  observations, and an observation's drift is a list of
  contributions per kind.

  Key definitions include:
    * `SecurityController.reportedCve`
    * `SecurityController.observationDrift`
    * `SecurityDrift.concat`

  Key theorems include:
    * `SecurityController.diff_eq_concat`
    * `SecurityController.classify_diff_eq_critical_iff`
    * `SecurityController.classify_diff_eq_cosmetic_iff`
-/

------------------------------------------------------------
-- Concatenating Drifts
------------------------------------------------------------

namespace EngenhoPromessa

namespace SecurityDrift

/- Two drifts, list by list. -/
def append (a b : SecurityDrift) : SecurityDrift where
  criticalCves := a.criticalCves ++ b.criticalCves
  agedHighCves := a.agedHighCves ++ b.agedHighCves
  agedMediumCves := a.agedMediumCves ++ b.agedMediumCves
  missingAttestations :=
    a.missingAttestations ++ b.missingAttestations
  missingScanners := a.missingScanners ++ b.missingScanners
  revokedOrQuarantined :=
    a.revokedOrQuarantined ++ b.revokedOrQuarantined
  allCleanDigests := a.allCleanDigests ++ b.allCleanDigests
  totalDigestsObserved :=
    a.totalDigestsObserved + b.totalDigestsObserved

/- The drifts of several observations, list by list. -/
def concat (ds : List SecurityDrift) : SecurityDrift where
  criticalCves := ds.flatMap criticalCves
  agedHighCves := ds.flatMap agedHighCves
  agedMediumCves := ds.flatMap agedMediumCves
  missingAttestations := ds.flatMap missingAttestations
  missingScanners := ds.flatMap missingScanners
  revokedOrQuarantined := ds.flatMap revokedOrQuarantined
  allCleanDigests := ds.flatMap allCleanDigests
  totalDigestsObserved :=
    (ds.map totalDigestsObserved).sum

/- It does not matter how drifts are grouped. -/
theorem append_assoc (a b c : SecurityDrift) :
    (a.append b).append c = a.append (b.append c) := by
  simp [append, Nat.add_assoc]

theorem concat_cons
    (d : SecurityDrift)
    (ds : List SecurityDrift) :
    concat (d :: ds) = d.append (concat ds) := by
  simp [concat, append]

/- A loop that appends one drift per element. -/
theorem foldl_append_eq_concat
    {α : Type}
    {step : SecurityDrift → α → SecurityDrift}
    {drift : α → SecurityDrift}
    (hStep : ∀ d a, step d a = d.append (drift a))
    (as : List α)
    (d : SecurityDrift) :
    as.foldl step d =
      d.append (concat (as.map drift)) := by
  induction as generalizing d with
  | nil =>
      simp [concat, append]
  | cons a as ih =>
      rw [List.foldl_cons, ih, hStep, List.map_cons,
        concat_cons, append_assoc]

end SecurityDrift

end EngenhoPromessa

------------------------------------------------------------
-- Lists With An Entry For Some Elements
------------------------------------------------------------

namespace EngenhoPromessa

namespace SecurityController

/- One entry for each of the elements that pass a test. -/
theorem flatMap_eq_map_filter
    {α β : Type}
    {entry : α → List β}
    (p : α → Prop)
    [DecidablePred p]
    (f : α → β)
    (hEntry : ∀ a, entry a = if p a then [f a] else [])
    (as : List α) :
    as.flatMap entry = (as.filter (fun a => p a)).map f := by
  induction as with
  | nil => rfl
  | cons a as ih =>
      rw [List.flatMap_cons, ih, hEntry]
      by_cases hp : p a
      · simp [hp]
      · simp [hp]

end SecurityController

end EngenhoPromessa

------------------------------------------------------------
-- Findings
------------------------------------------------------------

namespace EngenhoPromessa

namespace SecurityController

/-
  The CVE a finding counts under. One that is excepted, or
  that names no CVE, counts under none.
-/
def reportedCve (f : Finding) : Option String :=
  if f.exceptionId.isSome then none else f.cveId

/- The entry of a finding that counts under a CVE. -/
def cveEntry
    (now : DateTime)
    (obs : DigestObservation)
    (f : Finding) : Option DigestCveAge :=
  (reportedCve f).map (fun cveId =>
    { digest := obs.digest
      service := obs.service
      cveId := cveId
      scanner := f.scanner
      ageDays := f.ageDays now })

/- A high finding that is older than the promise allows. -/
def isAgedHigh
    (spec : SecuritySpec)
    (now : DateTime)
    (f : Finding) : Bool :=
  f.severity = .high ∧ f.ageDays now > spec.maxHighAgeDays

/- A medium finding that is older than the promise allows. -/
def isAgedMedium
    (spec : SecuritySpec)
    (now : DateTime)
    (f : Finding) : Bool :=
  f.severity = .medium ∧
    f.ageDays now > spec.maxMediumAgeDays

/- The entries of the findings that pass a test. -/
def entriesOf
    (now : DateTime)
    (obs : DigestObservation)
    (keep : Finding → Bool)
    (fs : List Finding) : List DigestCveAge :=
  (fs.filter keep).filterMap (cveEntry now obs)

/- What the findings of an image add to the drift. -/
def findingsDrift
    (spec : SecuritySpec)
    (now : DateTime)
    (obs : DigestObservation)
    (fs : List Finding) : SecurityDrift :=
  { SecurityDrift.default with
    criticalCves :=
      entriesOf now obs (fun f => f.severity = .critical) fs
    agedHighCves := entriesOf now obs (isAgedHigh spec now) fs
    agedMediumCves :=
      entriesOf now obs (isAgedMedium spec now) fs }

/- No finding contributes an entry. -/
def findingsClean
    (spec : SecuritySpec)
    (now : DateTime)
    (obs : DigestObservation)
    (fs : List Finding) : Bool :=
  let d := findingsDrift spec now obs fs
  d.criticalCves.isEmpty && d.agedHighCves.isEmpty &&
    d.agedMediumCves.isEmpty

/- One finding adds one entry at most. -/
theorem entriesOf_singleton
    (now : DateTime)
    (obs : DigestObservation)
    (keep : Finding → Bool)
    (f : Finding) :
    entriesOf now obs keep [f] =
      if keep f then (cveEntry now obs f).toList else [] := by
  cases hKeep : keep f with
  | false =>
      simp [entriesOf, hKeep]
  | true =>
      cases hEntry : cveEntry now obs f with
      | none => simp [entriesOf, hKeep, hEntry]
      | some entry => simp [entriesOf, hKeep, hEntry]

/- A CVE is reported if it is named and not excepted. -/
theorem reportedCve_eq_some_iff
    {f : Finding}
    {cveId : String} :
    reportedCve f = some cveId ↔
      f.exceptionId.isSome = false ∧ f.cveId = some cveId := by
  unfold reportedCve
  split_ifs with hExcepted
  · simp [hExcepted]
  · simp [hExcepted]

/- A finding that counts under no CVE is passed over. -/
theorem diffFinding_of_unreported
    {f : Finding}
    (hNone : reportedCve f = none)
    (spec : SecuritySpec)
    (now : DateTime)
    (obs : DigestObservation)
    (acc : SecurityDrift × Bool) :
    diffFinding spec now obs acc f = acc := by
  unfold reportedCve at hNone
  unfold diffFinding
  split_ifs at hNone ⊢ with hExcepted
  · rfl
  · rw [hNone]

/- One round of the loop adds one finding's contribution. -/
theorem diffFinding_eq
    (spec : SecuritySpec)
    (now : DateTime)
    (obs : DigestObservation)
    (acc : SecurityDrift × Bool)
    (f : Finding) :
    diffFinding spec now obs acc f =
      (acc.1.append (findingsDrift spec now obs [f]),
        acc.2 && findingsClean spec now obs [f]) := by
  cases hReported : reportedCve f with
  | none =>
      rw [diffFinding_of_unreported hReported]
      simp [findingsClean, findingsDrift,
        entriesOf_singleton, cveEntry, hReported,
        SecurityDrift.append, SecurityDrift.default]
  | some cveId =>
      rcases reportedCve_eq_some_iff.mp hReported with
        ⟨hOpen, hCve⟩
      simp only [diffFinding, hOpen, Bool.false_eq_true,
        if_false, hCve, findingsClean, findingsDrift,
        entriesOf_singleton, cveEntry, hReported,
        Option.map_some, Option.toList_some]
      cases hSeverity : f.severity with
      | low =>
          simp [isAgedHigh, isAgedMedium, hSeverity,
            SecurityDrift.append, SecurityDrift.default]
      | medium =>
          by_cases hAged :
              f.ageDays now > spec.maxMediumAgeDays
          · simp [isAgedHigh, isAgedMedium, hSeverity,
              hAged, SecurityDrift.append,
              SecurityDrift.default]
          · simp [isAgedHigh, isAgedMedium, hSeverity,
              hAged, SecurityDrift.append,
              SecurityDrift.default]
      | high =>
          by_cases hAged :
              f.ageDays now > spec.maxHighAgeDays
          · simp [isAgedHigh, isAgedMedium, hSeverity,
              hAged, SecurityDrift.append,
              SecurityDrift.default]
          · simp [isAgedHigh, isAgedMedium, hSeverity,
              hAged, SecurityDrift.append,
              SecurityDrift.default]
      | critical =>
          simp [isAgedHigh, isAgedMedium, hSeverity,
            SecurityDrift.append, SecurityDrift.default]

/- The findings add to the drift one after the other. -/
theorem findingsDrift_append
    (spec : SecuritySpec)
    (now : DateTime)
    (obs : DigestObservation)
    (fs gs : List Finding) :
    findingsDrift spec now obs (fs ++ gs) =
      (findingsDrift spec now obs fs).append
        (findingsDrift spec now obs gs) := by
  simp [findingsDrift, entriesOf, SecurityDrift.append,
    SecurityDrift.default]

/- They are clean if each of them is. -/
theorem findingsClean_append
    (spec : SecuritySpec)
    (now : DateTime)
    (obs : DigestObservation)
    (fs gs : List Finding) :
    findingsClean spec now obs (fs ++ gs) =
      (findingsClean spec now obs fs &&
        findingsClean spec now obs gs) := by
  have hEmpty :
      ∀ as bs : List DigestCveAge,
        (as ++ bs).isEmpty = (as.isEmpty && bs.isEmpty) := by
    intro as bs
    cases as with
    | nil => rfl
    | cons a as => rfl
  simp only [findingsClean, findingsDrift_append,
    SecurityDrift.append, hEmpty]
  ac_rfl

/- The whole loop adds the contributions of all findings. -/
theorem foldl_diffFinding
    (spec : SecuritySpec)
    (now : DateTime)
    (obs : DigestObservation)
    (fs : List Finding)
    (acc : SecurityDrift × Bool) :
    fs.foldl (diffFinding spec now obs) acc =
      (acc.1.append (findingsDrift spec now obs fs),
        acc.2 && findingsClean spec now obs fs) := by
  induction fs generalizing acc with
  | nil =>
      simp [findingsClean, findingsDrift, entriesOf,
        SecurityDrift.append, SecurityDrift.default]
  | cons f fs ih =>
      have hDrift :=
        findingsDrift_append spec now obs [f] fs
      have hClean :=
        findingsClean_append spec now obs [f] fs
      rw [List.singleton_append] at hDrift hClean
      rw [List.foldl_cons, ih, diffFinding_eq, hDrift,
        hClean, SecurityDrift.append_assoc, Bool.and_assoc]

end SecurityController

end EngenhoPromessa

------------------------------------------------------------
-- Observations
------------------------------------------------------------

namespace EngenhoPromessa

namespace SecurityController

/- What is required of the image and not attested. -/
def missingAttestationsOf
    (spec : SecuritySpec)
    (obs : DigestObservation) :
    List RequiredAttestation :=
  spec.requiredAttestations.difference
    obs.attestationsPresent

/- The scanners that are required and have not reported. -/
def missingScannersOf
    (spec : SecuritySpec)
    (obs : DigestObservation) : List RequiredScanner :=
  spec.requiredScanners.difference obs.scannersReported

/- A list with one entry per digest, if it has any. -/
def entryUnlessEmpty
    {α : Type}
    (digest : String)
    (missing : List α) : List (String × List α) :=
  if missing.isEmpty then [] else [(digest, missing)]

/- The digest, if the image was withdrawn. -/
def withdrawnDigest (obs : DigestObservation) :
    List String :=
  if isWithdrawn obs.cartorioStatus then [obs.digest] else []

/- The step for the status appends what it finds. -/
theorem diffCartorio_eq
    (obs : DigestObservation)
    (acc : SecurityDrift × Bool) :
    diffCartorio obs acc =
      (acc.1.append
        { SecurityDrift.default with
          revokedOrQuarantined := withdrawnDigest obs },
        acc.2 && !isWithdrawn obs.cartorioStatus) := by
  cases hStatus : isWithdrawn obs.cartorioStatus
  · simp [diffCartorio, withdrawnDigest, hStatus,
      SecurityDrift.append, SecurityDrift.default]
  · simp [diffCartorio, withdrawnDigest, hStatus,
      SecurityDrift.append, SecurityDrift.default]

/- The step for the attestations does so, too. -/
theorem diffAttestations_eq
    (spec : SecuritySpec)
    (obs : DigestObservation)
    (acc : SecurityDrift × Bool) :
    diffAttestations spec obs acc =
      (acc.1.append
        { SecurityDrift.default with
          missingAttestations :=
            entryUnlessEmpty obs.digest
              (missingAttestationsOf spec obs) },
        acc.2 && (missingAttestationsOf spec obs).isEmpty) := by
  unfold diffAttestations missingAttestationsOf
  generalize
    spec.requiredAttestations.difference
      obs.attestationsPresent = missing
  cases missing with
  | nil =>
      simp [entryUnlessEmpty, SecurityDrift.append,
        SecurityDrift.default]
  | cons att atts =>
      simp [entryUnlessEmpty, SecurityDrift.append,
        SecurityDrift.default]

/- And the step for the scanners. -/
theorem diffScanners_eq
    (spec : SecuritySpec)
    (obs : DigestObservation)
    (acc : SecurityDrift × Bool) :
    diffScanners spec obs acc =
      (acc.1.append
        { SecurityDrift.default with
          missingScanners :=
            entryUnlessEmpty obs.digest
              (missingScannersOf spec obs) },
        acc.2 && (missingScannersOf spec obs).isEmpty) := by
  unfold diffScanners missingScannersOf
  generalize
    spec.requiredScanners.difference
      obs.scannersReported = missing
  cases missing with
  | nil =>
      simp [entryUnlessEmpty, SecurityDrift.append,
        SecurityDrift.default]
  | cons scanner scanners =>
      simp [entryUnlessEmpty, SecurityDrift.append,
        SecurityDrift.default]

/- Nothing marks the digest as drifting. -/
def isClean
    (spec : SecuritySpec)
    (now : DateTime)
    (obs : DigestObservation) : Bool :=
  !isWithdrawn obs.cartorioStatus &&
    (missingAttestationsOf spec obs).isEmpty &&
    (missingScannersOf spec obs).isEmpty &&
    findingsClean spec now obs obs.findings

/- The image, if it is clean and active. -/
def cleanDigest
    (spec : SecuritySpec)
    (now : DateTime)
    (obs : DigestObservation) : List DigestService :=
  if isClean spec now obs && obs.cartorioStatus == .active then
    [{ digest := obs.digest, service := obs.service }]
  else
    []

/- The drift of one observation on its own. -/
def observationDrift
    (spec : SecuritySpec)
    (now : DateTime)
    (obs : DigestObservation) : SecurityDrift :=
  { findingsDrift spec now obs obs.findings with
    missingAttestations :=
      entryUnlessEmpty obs.digest
        (missingAttestationsOf spec obs)
    missingScanners :=
      entryUnlessEmpty obs.digest
        (missingScannersOf spec obs)
    revokedOrQuarantined := withdrawnDigest obs
    allCleanDigests := cleanDigest spec now obs }

/- One turn of the loop appends the drift of its image. -/
theorem diffObservation_eq_append
    (spec : SecuritySpec)
    (now : DateTime)
    (d : SecurityDrift)
    (obs : DigestObservation) :
    diffObservation spec now d obs =
      d.append (observationDrift spec now obs) := by
  have hFlag :
      (((true && !isWithdrawn obs.cartorioStatus) &&
          (missingAttestationsOf spec obs).isEmpty) &&
          (missingScannersOf spec obs).isEmpty &&
          findingsClean spec now obs obs.findings) =
        isClean spec now obs := by
    rw [Bool.true_and, isClean]
  simp only [diffObservation, foldl_diffFinding,
    diffScanners_eq, diffAttestations_eq, diffCartorio_eq,
    hFlag]
  cases hClean :
    isClean spec now obs && obs.cartorioStatus == .active
  · simp [observationDrift, cleanDigest, hClean,
      findingsDrift, SecurityDrift.append,
      SecurityDrift.default]
  · simp [observationDrift, cleanDigest, hClean,
      findingsDrift, SecurityDrift.append,
      SecurityDrift.default]

/- The drift of a snapshot, observation by observation. -/
theorem diff_eq_concat
    (spec : SecuritySpec)
    (snapshot : SecuritySnapshot) :
    diff spec snapshot =
      { SecurityDrift.concat
          (snapshot.imageDigests.map
            (observationDrift spec snapshot.observedAt)) with
        totalDigestsObserved :=
          snapshot.imageDigests.length } := by
  rw [diff, SecurityDrift.foldl_append_eq_concat
    (diffObservation_eq_append spec snapshot.observedAt)]
  have hTotal :
      ∀ obs : DigestObservation,
        (observationDrift spec snapshot.observedAt
          obs).totalDigestsObserved = 0 :=
    fun _ => rfl
  simp [SecurityDrift.append, SecurityDrift.default,
    SecurityDrift.concat, Function.comp_def, hTotal]

end SecurityController

end EngenhoPromessa

------------------------------------------------------------
-- When Each Kind Of Drift Is Present
------------------------------------------------------------

namespace EngenhoPromessa

namespace SecurityController

/- There is no entry if no such finding counts. -/
theorem entriesOf_eq_nil_iff
    (now : DateTime)
    (obs : DigestObservation)
    (keep : Finding → Bool)
    (fs : List Finding) :
    entriesOf now obs keep fs = [] ↔
      ∀ f ∈ fs, keep f = true → reportedCve f = none := by
  simp [entriesOf, cveEntry, List.filterMap_eq_nil_iff]

/- An entry is left out just if nothing is missing. -/
theorem entryUnlessEmpty_eq_nil_iff
    {α : Type}
    (digest : String)
    (missing : List α) :
    entryUnlessEmpty digest missing = [] ↔ missing = [] := by
  cases missing with
  | nil => simp [entryUnlessEmpty]
  | cons a as => simp [entryUnlessEmpty]

/- The entry has the digest and all that is missing. -/
theorem mem_entryUnlessEmpty
    {α : Type}
    {digest : String}
    {missing : List α}
    {entry : String × List α} :
    entry ∈ entryUnlessEmpty digest missing ↔
      missing ≠ [] ∧ entry = (digest, missing) := by
  cases missing with
  | nil => simp [entryUnlessEmpty]
  | cons a as => simp [entryUnlessEmpty]

/- A finding that counts as a critical CVE. -/
def isCriticalCve (f : Finding) : Bool :=
  f.severity = .critical ∧ (reportedCve f).isSome

/- An aged high finding that counts under a CVE. -/
def isAgedHighCve
    (spec : SecuritySpec)
    (now : DateTime)
    (f : Finding) : Bool :=
  isAgedHigh spec now f ∧ (reportedCve f).isSome

/- Critical entries are missing if no image has such a CVE. -/
theorem criticalCves_diff_eq_nil_iff
    (spec : SecuritySpec)
    (snapshot : SecuritySnapshot) :
    (diff spec snapshot).criticalCves = [] ↔
      ∀ obs ∈ snapshot.imageDigests,
        ∀ f ∈ obs.findings, isCriticalCve f = false := by
  simp [diff_eq_concat, SecurityDrift.concat,
    observationDrift, findingsDrift, entriesOf_eq_nil_iff,
    isCriticalCve]

/- The same for entries of aged high findings. -/
theorem agedHighCves_diff_eq_nil_iff
    (spec : SecuritySpec)
    (snapshot : SecuritySnapshot) :
    (diff spec snapshot).agedHighCves = [] ↔
      ∀ obs ∈ snapshot.imageDigests,
        ∀ f ∈ obs.findings,
          isAgedHighCve spec snapshot.observedAt f =
            false := by
  simp [diff_eq_concat, SecurityDrift.concat,
    observationDrift, findingsDrift, entriesOf_eq_nil_iff,
    isAgedHighCve]

/- An entry comes from a finding of its kind. -/
theorem mem_entriesOf
    {now : DateTime}
    {obs : DigestObservation}
    {keep : Finding → Bool}
    {fs : List Finding}
    {entry : DigestCveAge} :
    entry ∈ entriesOf now obs keep fs ↔
      ∃ f ∈ fs, keep f = true ∧
        cveEntry now obs f = some entry := by
  simp [entriesOf, List.mem_filterMap, and_assoc]

/- An aged CVE is listed when one of its findings is aged. -/
theorem mem_agedHighCves_diff_iff
    (spec : SecuritySpec)
    (snapshot : SecuritySnapshot)
    (entry : DigestCveAge) :
    entry ∈ (diff spec snapshot).agedHighCves ↔
      ∃ obs ∈ snapshot.imageDigests, ∃ f ∈ obs.findings,
        isAgedHigh spec snapshot.observedAt f = true ∧
          cveEntry snapshot.observedAt obs f =
            some entry := by
  rw [diff_eq_concat]
  simp only [SecurityDrift.concat, List.mem_flatMap,
    List.mem_map]
  constructor
  · rintro ⟨_, ⟨obs, hObs, rfl⟩, hEntry⟩
    exact ⟨obs, hObs, mem_entriesOf.mp hEntry⟩
  · rintro ⟨obs, hObs, hEntry⟩
    exact ⟨_, ⟨obs, hObs, rfl⟩, mem_entriesOf.mpr hEntry⟩

/- No attestation is missing if none is of any image. -/
theorem missingAttestations_diff_eq_nil_iff
    (spec : SecuritySpec)
    (snapshot : SecuritySnapshot) :
    (diff spec snapshot).missingAttestations = [] ↔
      ∀ obs ∈ snapshot.imageDigests,
        missingAttestationsOf spec obs = [] := by
  simp [diff_eq_concat, SecurityDrift.concat,
    observationDrift, entryUnlessEmpty_eq_nil_iff]

/- An entry always says what is missing. -/
theorem mem_missingAttestations_diff
    {spec : SecuritySpec}
    {snapshot : SecuritySnapshot}
    {digest : String}
    {missing : List RequiredAttestation}
    (hMem :
      (digest, missing) ∈
        (diff spec snapshot).missingAttestations) :
    missing ≠ [] := by
  simp only [diff_eq_concat, SecurityDrift.concat,
    List.mem_flatMap, List.mem_map] at hMem
  rcases hMem with ⟨_, ⟨obs, _, rfl⟩, hEntry⟩
  rcases mem_entryUnlessEmpty.mp hEntry with ⟨hSome, hEq⟩
  rwa [(Prod.mk.inj hEq).2]

/- No scanner is missing if none is of any image. -/
theorem missingScanners_diff_eq_nil_iff
    (spec : SecuritySpec)
    (snapshot : SecuritySnapshot) :
    (diff spec snapshot).missingScanners = [] ↔
      ∀ obs ∈ snapshot.imageDigests,
        missingScannersOf spec obs = [] := by
  simp [diff_eq_concat, SecurityDrift.concat,
    observationDrift, entryUnlessEmpty_eq_nil_iff]

/- A scanner is listed as missing when an observation is. -/
theorem exists_mem_missingScanners_diff_iff
    (spec : SecuritySpec)
    (snapshot : SecuritySnapshot)
    (s : RequiredScanner) :
    (∃ entry ∈ (diff spec snapshot).missingScanners,
      s ∈ entry.2) ↔
      ∃ obs ∈ snapshot.imageDigests,
        s ∈ missingScannersOf spec obs := by
  simp only [diff_eq_concat, SecurityDrift.concat,
    List.mem_flatMap, List.mem_map, observationDrift]
  constructor
  · rintro ⟨entry, ⟨_, ⟨obs, hObs, rfl⟩, hEntry⟩, hs⟩
    rw [(mem_entryUnlessEmpty.mp hEntry).2] at hs
    exact ⟨obs, hObs, hs⟩
  · rintro ⟨obs, hObs, hs⟩
    refine ⟨(obs.digest, missingScannersOf spec obs),
      ⟨_, ⟨obs, hObs, rfl⟩, ?_⟩, hs⟩
    exact mem_entryUnlessEmpty.mpr
      ⟨List.ne_nil_of_mem hs, rfl⟩

/- No digest is withdrawn if no image is. -/
theorem revokedOrQuarantined_diff_eq_nil_iff
    (spec : SecuritySpec)
    (snapshot : SecuritySnapshot) :
    (diff spec snapshot).revokedOrQuarantined = [] ↔
      ∀ obs ∈ snapshot.imageDigests,
        isWithdrawn obs.cartorioStatus = false := by
  simp [diff_eq_concat, SecurityDrift.concat,
    observationDrift, withdrawnDigest]

/- No image is clean if none that is active is. -/
theorem allCleanDigests_diff_eq_nil_iff
    (spec : SecuritySpec)
    (snapshot : SecuritySnapshot) :
    (diff spec snapshot).allCleanDigests = [] ↔
      ∀ obs ∈ snapshot.imageDigests,
        isClean spec snapshot.observedAt obs = true →
          obs.cartorioStatus ≠ .active := by
  simp [diff_eq_concat, SecurityDrift.concat,
    observationDrift, cleanDigest]

end SecurityController

end EngenhoPromessa

------------------------------------------------------------
-- Severities And Decisions
------------------------------------------------------------

namespace EngenhoPromessa

namespace SecurityController

/- A drift is critical by its CVEs or its withdrawn digests. -/
theorem classify_eq_critical_iff (drift : SecurityDrift) :
    classify drift = .critical ↔
      drift.criticalCves ≠ [] ∨
        drift.revokedOrQuarantined ≠ [] := by
  unfold classify
  split_ifs with hCritical hFunctional
  · simpa using hCritical
  · simpa using hCritical
  · simpa using hCritical

/- It is cosmetic if nothing counts but medium findings. -/
theorem classify_eq_cosmetic_iff (drift : SecurityDrift) :
    classify drift = .cosmetic ↔
      drift.criticalCves = [] ∧
        drift.revokedOrQuarantined = [] ∧
        drift.agedHighCves = [] ∧
        drift.missingAttestations = [] ∧
        drift.missingScanners = [] := by
  unfold classify
  split_ifs with hCritical hFunctional
  · simp only [Bool.or_eq_true, Bool.not_eq_true',
      List.isEmpty_eq_false_iff] at hCritical
    refine iff_of_false (by simp) ?_
    rintro ⟨hCves, hWithdrawn, _⟩
    exact hCritical.elim (· hCves) (· hWithdrawn)
  · simp only [Bool.or_eq_true, Bool.not_eq_true',
      List.isEmpty_eq_false_iff] at hFunctional
    refine iff_of_false (by simp) ?_
    rintro ⟨_, _, hHigh, hAtts, hScanners⟩
    rcases hFunctional with (hSome | hSome) | hSome
    · exact hSome hHigh
    · exact hSome hAtts
    · exact hSome hScanners
  · simp only [Bool.or_eq_true, Bool.not_eq_true',
      List.isEmpty_eq_false_iff, not_or, not_not]
      at hCritical hFunctional
    exact iff_of_true rfl
      ⟨hCritical.1, hCritical.2, hFunctional.1.1,
        hFunctional.1.2, hFunctional.2⟩

/- The severity by the observations: one bad image is enough. -/
theorem classify_diff_eq_critical_iff
    (spec : SecuritySpec)
    (snapshot : SecuritySnapshot) :
    classify (diff spec snapshot) = .critical ↔
      ∃ obs ∈ snapshot.imageDigests,
        isWithdrawn obs.cartorioStatus = true ∨
          ∃ f ∈ obs.findings, isCriticalCve f = true := by
  rw [classify_eq_critical_iff, ne_eq, ne_eq,
    criticalCves_diff_eq_nil_iff,
    revokedOrQuarantined_diff_eq_nil_iff]
  push Not
  simp only [ne_eq, Bool.not_eq_false]
  constructor
  · rintro (⟨obs, hObs, hf⟩ | ⟨obs, hObs, hStatus⟩)
    · exact ⟨obs, hObs, Or.inr hf⟩
    · exact ⟨obs, hObs, Or.inl hStatus⟩
  · rintro ⟨obs, hObs, hStatus | hf⟩
    · exact Or.inr ⟨obs, hObs, hStatus⟩
    · exact Or.inl ⟨obs, hObs, hf⟩

/- An observation that calls for nothing above cosmetic. -/
def IsSettled
    (spec : SecuritySpec)
    (now : DateTime)
    (obs : DigestObservation) : Prop :=
  isWithdrawn obs.cartorioStatus = false ∧
    missingAttestationsOf spec obs = [] ∧
    missingScannersOf spec obs = [] ∧
    ∀ f ∈ obs.findings,
      isCriticalCve f = false ∧
        isAgedHighCve spec now f = false

/- A snapshot is cosmetic if every image of it is settled. -/
theorem classify_diff_eq_cosmetic_iff
    (spec : SecuritySpec)
    (snapshot : SecuritySnapshot) :
    classify (diff spec snapshot) = .cosmetic ↔
      ∀ obs ∈ snapshot.imageDigests,
        IsSettled spec snapshot.observedAt obs := by
  rw [classify_eq_cosmetic_iff,
    criticalCves_diff_eq_nil_iff,
    revokedOrQuarantined_diff_eq_nil_iff,
    agedHighCves_diff_eq_nil_iff,
    missingAttestations_diff_eq_nil_iff,
    missingScanners_diff_eq_nil_iff]
  constructor
  · rintro ⟨hCritical, hStatus, hHigh, hAtts, hScanners⟩
      obs hObs
    exact ⟨hStatus obs hObs, hAtts obs hObs,
      hScanners obs hObs, fun f hf =>
        ⟨hCritical obs hObs f hf, hHigh obs hObs f hf⟩⟩
  · intro hSettled
    refine ⟨?_, ?_, ?_, ?_, ?_⟩
    · intro obs hObs f hf
      exact ((hSettled obs hObs).2.2.2 f hf).1
    · intro obs hObs
      exact (hSettled obs hObs).1
    · intro obs hObs f hf
      exact ((hSettled obs hObs).2.2.2 f hf).2
    · intro obs hObs
      exact (hSettled obs hObs).2.1
    · intro obs hObs
      exact (hSettled obs hObs).2.2.1

end SecurityController

end EngenhoPromessa
