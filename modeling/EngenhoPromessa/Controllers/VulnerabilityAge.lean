import EngenhoPromessa.Controllers.ScanEvidence
import EngenhoPromessa.ScannerCatalog.Stamps

/-
  How old the gate takes a vulnerability to be when two
  validations of one digest report it.

  A finding is stamped by the step that collects it, and no
  later scan looks back at an earlier one.

  Key definitions include:
    * `Scan`
    * `Scan.Stamped`
    * `GatedValidation`
    * `GatedValidation.AgesFromFirstReport`

  Key theorems include:
    * `GatedValidation.listsAgedHigh_iff`
    * `GatedValidation.agesFromFirstReport_iff`
-/

------------------------------------------------------------
-- Scans And When Their Findings Were Stamped
------------------------------------------------------------

namespace EngenhoPromessa

/- The step that collected a scan's output. -/
structure Collection where
  ctx : ReconcileCtx
  output : String

variable [SerdeJson]

/-
  A scan job as the gate lists it, with the step its findings
  come from. One that was never collected has no findings.
-/
structure Scan where
  job : ScanJob
  collection : Option Collection
  findings_collected :
    childFindings job =
      match collection with
      | none => []
      | some c =>
          ScanJobController.parseScannerOutput c.ctx
            c.output job.spec.scanner

namespace Scan

/- The clock reading a finding of the scan got. -/
def Stamped
    (s : Scan)
    (f : ScanFinding)
    (t : DateTime) : Prop :=
  ∃ c found i,
    s.collection = some c ∧
      ScannerCatalog.parseScannerOutput
          (fun i => c.ctx.clock (.firstSeen i)) c.output
          s.job.spec.scanner =
        .ok found ∧
      found[i]? = some f ∧ t = c.ctx.clock (.firstSeen i)

/- What a stamped finding says of its scan. -/
theorem stamped_spec
    {s : Scan}
    {f : ScanFinding}
    {t : DateTime}
    (hStamped : s.Stamped f t) :
    f ∈ childFindings s.job ∧ f.firstSeen = t ∧
      f.scanner = s.job.spec.scanner ∧
      f.exceptionId = none := by
  rcases hStamped with
    ⟨c, found, i, hCollection, hParse, hGet, rfl⟩
  refine ⟨?_,
    ScannerCatalog.getElem?_parseScannerOutput hParse hGet⟩
  rw [s.findings_collected, hCollection]
  simp only [ScanJobController.parseScannerOutput, hParse]
  exact List.mem_of_getElem? hGet

/- Every finding of a scan is stamped. -/
theorem exists_stamped
    {s : Scan}
    {f : ScanFinding}
    (hMem : f ∈ childFindings s.job) :
    ∃ t, s.Stamped f t := by
  rw [s.findings_collected] at hMem
  cases hCollection : s.collection with
  | none => simp [hCollection] at hMem
  | some c =>
      simp only [hCollection,
        ScanJobController.parseScannerOutput] at hMem
      split at hMem
      · rename_i found hParse
        rcases List.getElem?_of_mem hMem with ⟨i, hGet⟩
        exact ⟨_, c, found, i, hCollection, hParse, hGet,
          rfl⟩
      · simp at hMem
      · simp at hMem

open ScanJobController in
/- What a step that records stores is a scan it collected. -/
theorem exists_scan_of_records
    [Chrono]
    [Blake3]
    (ctx : ReconcileCtx)
    {sj : ScanJob}
    {w : World}
    {raw : String}
    (hRunning : sj.phase = some .running)
    (hStored : storedIn (scanJobs w) sj = some sj)
    (hRaw : rawOutput w sj = some raw)
    (hRecords : Records w sj) :
    ∃ s : Scan,
      storedIn (scanJobs ((reconcile ctx sj).exec w).2) sj =
          some s.job ∧
        s.collection = some ⟨ctx, raw⟩ :=
  ⟨{ job := _
     collection := some ⟨ctx, raw⟩
     findings_collected := rfl },
    storedIn_exec_reconcile_of_records ctx hRunning hStored
      hRaw hRecords, rfl⟩

end Scan

end EngenhoPromessa

------------------------------------------------------------
-- Validations That Report A CVE Again
------------------------------------------------------------

namespace EngenhoPromessa

open SecurityController

/- An unexcepted finding of a high CVE. -/
structure IsHighCve
    (cveId : String)
    (f : ScanFinding) : Prop where
  severity_high : f.severity = .high
  cveId_eq : f.cveId = some cveId
  not_excepted : f.exceptionId = none

/- A validation with the step and the scans it is gated on. -/
structure GatedValidation [SerdeJson] where
  obj : AkeylessImageValidation
  ctx : ReconcileCtx
  scans : List Scan

namespace GatedValidation

variable [SerdeJson]

/- The time a validation is gated at. -/
def gatedAt (v : GatedValidation) : DateTime :=
  v.ctx.clock .observedAt

/- The drift a gated validation finds. -/
def drift
    (spec : SecuritySpec)
    (v : GatedValidation) : SecurityDrift :=
  diff spec (buildSecuritySnapshot v.ctx.clock v.obj
    (v.scans.map Scan.job))

/- A scan of this kind reports the CVE. -/
def Reports
    (v : GatedValidation)
    (scanner : ScannerKind)
    (cveId : String) : Prop :=
  ∃ s ∈ v.scans, s.job.spec.scanner = scanner ∧
    ∃ f ∈ childFindings s.job, IsHighCve cveId f

/- Whether a vulnerability is listed as an aged high one. -/
def ListsAgedHigh
    (spec : SecuritySpec)
    (v : GatedValidation)
    (scanner : ScannerKind)
    (cveId : String) : Prop :=
  ∃ entry ∈ (v.drift spec).agedHighCves,
    entry.digest = v.obj.spec.imageDigest ∧
      entry.cveId = cveId ∧
      entry.scanner = scannerRequiredFromKind scanner

/-
  Both validations are of one digest and report the CVE, the
  second one by more than the allowed age and a day later.
-/
structure ReReported
    (spec : SecuritySpec)
    (first later : GatedValidation)
    (scanner : ScannerKind)
    (cveId : String) : Prop where
  same_digest :
    first.obj.spec.imageDigest = later.obj.spec.imageDigest
  first_reports : first.Reports scanner cveId
  later_reports : later.Reports scanner cveId
  long_after :
    later.gatedAt.nanos - first.gatedAt.nanos >
      (spec.maxHighAgeDays + 1) * DateTime.nanosPerDay

/- The age of the CVE counts from its first report. -/
def AgesFromFirstReport
    (spec : SecuritySpec)
    (first later : GatedValidation)
    (scanner : ScannerKind)
    (cveId : String) : Prop :=
  ReReported spec first later scanner cveId →
    later.ListsAgedHigh spec scanner cveId

/- Its own scan made the finding that long before the gate. -/
def IsLateGated
    (spec : SecuritySpec)
    (v : GatedValidation)
    (scanner : ScannerKind)
    (cveId : String) : Prop :=
  ∃ s ∈ v.scans, s.job.spec.scanner = scanner ∧
    ∃ f t, s.Stamped f t ∧ f.severity = .high ∧
      f.cveId = some cveId ∧
      v.gatedAt.numDaysSince t > spec.maxHighAgeDays

omit [SerdeJson] in
/- The entry of a finding in the lists of aged ones. -/
theorem cveEntry_toFinding_eq_some_iff
    {now : DateTime}
    {obs : DigestObservation}
    {f : ScanFinding}
    {entry : DigestCveAge} :
    cveEntry now obs (toFinding f) = some entry ↔
      f.exceptionId = none ∧ f.cveId = some entry.cveId ∧
        entry.digest = obs.digest ∧
        entry.service = obs.service ∧
        entry.scanner = scannerRequiredFromKind f.scanner ∧
        entry.ageDays = now.numDaysSince f.firstSeen := by
  rcases entry with ⟨digest, service, cveId, scanner, age⟩
  simp only [cveEntry, Option.map_eq_some_iff,
    reportedCve_eq_some_iff, toFinding, Finding.ageDays,
    DigestCveAge.mk.injEq, Option.isSome_eq_false_iff,
    Option.isNone_iff_eq_none]
  constructor
  · rintro ⟨_, ⟨hExcepted, hCve⟩, rfl, rfl, rfl, rfl, rfl⟩
    exact ⟨hExcepted, hCve, rfl, rfl, rfl, rfl⟩
  · rintro ⟨hExcepted, hCve, rfl, rfl, rfl, rfl⟩
    exact ⟨_, ⟨hExcepted, hCve⟩, rfl, rfl, rfl, rfl, rfl⟩

omit [SerdeJson] in
/- An aged high finding is a high one seen too long ago. -/
theorem isAgedHigh_toFinding_iff
    {spec : SecuritySpec}
    {now : DateTime}
    {f : ScanFinding} :
    isAgedHigh spec now (toFinding f) = true ↔
      f.severity = .high ∧
        now.numDaysSince f.firstSeen >
          spec.maxHighAgeDays := by
  cases hSeverity : f.severity <;>
    simp [isAgedHigh, toFinding, mapSeverity, hSeverity,
      Finding.ageDays]

/- The CVE is listed exactly when its own scan is old. -/
theorem listsAgedHigh_iff
    (spec : SecuritySpec)
    (v : GatedValidation)
    (scanner : ScannerKind)
    (cveId : String) :
    v.ListsAgedHigh spec scanner cveId ↔
      v.IsLateGated spec scanner cveId := by
  simp only [ListsAgedHigh, drift, IsLateGated, gatedAt,
    mem_agedHighCves_diff_iff, buildSecuritySnapshot,
    List.mem_singleton, exists_eq_left, List.mem_flatMap,
    List.mem_map]
  constructor
  · rintro ⟨entry, ⟨_, ⟨_, ⟨s, hs, rfl⟩, f, hf, rfl⟩, hAged,
      hEntry⟩, _, rfl, hScanner⟩
    rcases cveEntry_toFinding_eq_some_iff.mp hEntry with
      ⟨_, hCve, _, _, hKind, _⟩
    rcases isAgedHigh_toFinding_iff.mp hAged with
      ⟨hHigh, hAge⟩
    rcases Scan.exists_stamped hf with ⟨t, hStamped⟩
    rcases Scan.stamped_spec hStamped with
      ⟨_, rfl, hOwn, _⟩
    refine ⟨s, hs, ?_, f, _, hStamped, hHigh, hCve, hAge⟩
    rw [← hOwn]
    have hSame := congrArg scannerKindFromRequired
      (hKind.symm.trans hScanner)
    simpa using hSame
  · rintro ⟨s, hs, rfl, f, t, hStamped, hHigh, hCve, hAge⟩
    rcases Scan.stamped_spec hStamped with
      ⟨hf, rfl, hOwn, hExcepted⟩
    let entry : DigestCveAge :=
      { digest := v.obj.spec.imageDigest
        service := v.obj.spec.service
        cveId := cveId
        scanner := scannerRequiredFromKind f.scanner
        ageDays := (v.ctx.clock .observedAt).numDaysSince
          f.firstSeen }
    refine ⟨entry, ⟨toFinding f, ⟨s.job, ⟨s, hs, rfl⟩, f,
      hf, rfl⟩, isAgedHigh_toFinding_iff.mpr ⟨hHigh, hAge⟩,
      cveEntry_toFinding_eq_some_iff.mpr
        ⟨hExcepted, hCve, rfl, rfl, rfl, rfl⟩⟩, rfl, rfl, ?_⟩
    rw [← hOwn]

/-
  A vulnerability ages from its first report exactly when
  the later validation, if it reports it again, has an old
  enough scan of its own.
-/
theorem agesFromFirstReport_iff
    (spec : SecuritySpec)
    (first later : GatedValidation)
    (scanner : ScannerKind)
    (cveId : String) :
    AgesFromFirstReport spec first later scanner cveId ↔
      (ReReported spec first later scanner cveId →
        later.IsLateGated spec scanner cveId) := by
  rw [AgesFromFirstReport, listsAgedHigh_iff]

end GatedValidation

namespace Reference

/- What trivy prints for one high CVE. -/
def trivyOutput : String :=
  "\x7b\"Results\":[\x7b\"Vulnerabilities\":[\x7b" ++
    "\"VulnerabilityID\":\"CVE-2026-0001\"," ++
    "\"Severity\":\"HIGH\"\x7d]\x7d]\x7d"

/- A document with one high vulnerability. -/
def trivyDocument : Json :=
  .obj [("Results", .arr
    [.obj [("Vulnerabilities", .arr
      [.obj
        [("VulnerabilityID", .str "CVE-2026-0001"),
          ("Severity", .str "HIGH")]])]])]

/- JSON text that can also be read from this output. -/
abbrev trivySerde : SerdeJson :=
  { serdeJson with
    fromStr := fun s =>
      if s = trivyOutput then .ok trivyDocument
      else fromStr s }

local instance : SerdeJson := trivySerde

/- A context on a given day. -/
def ctxOnDay (n : Nat) : ReconcileCtx :=
  { ctx with
    clock := fun _ => ⟨n * DateTime.nanosPerDay⟩ }

/- Its finding, first seen on that day. -/
def highCve (n : Nat) : ScanFinding where
  scanner := .trivy
  cveId := some "CVE-2026-0001"
  severity := .high
  firstSeen := ⟨n * DateTime.nanosPerDay⟩
  fixedIn := none
  exceptionId := none
  cvssV3 := none
  message := none

theorem parseScannerOutput_trivyOutput (n : Nat) :
    ScanJobController.parseScannerOutput (ctxOnDay n)
        trivyOutput .trivy =
      [highCve n] := by
  simp only [ScanJobController.parseScannerOutput,
    ScannerCatalog.parseScannerOutput]
  rfl

/- The validation scanned and gated on one day. -/
def gatedOnDay (n : Nat) : GatedValidation where
  obj := validationAt .gating
  ctx := ctxOnDay n
  scans :=
    [{ job := childOf .trivy .attested [highCve n]
       collection := some ⟨ctxOnDay n, trivyOutput⟩
       findings_collected :=
         (parseScannerOutput_trivyOutput n).symm }]

end Reference

namespace GatedValidation

local instance : SerdeJson := Reference.trivySerde

/-
  A high CVE found again after 17 days, by scans of the days
  on which the two validations are gated, is not yet aged.
-/
theorem not_agesFromFirstReport_rescanned :
    ¬ AgesFromFirstReport .default
      (Reference.gatedOnDay 0) (Reference.gatedOnDay 17)
      .trivy "CVE-2026-0001" := by
  intro hAges
  have hReports :
      ∀ n, (Reference.gatedOnDay n).Reports .trivy
        "CVE-2026-0001" :=
    fun n => ⟨_, List.Mem.head _, rfl, Reference.highCve n,
      List.Mem.head _, rfl, rfl, rfl⟩
  have hListed := hAges
    ⟨rfl, hReports 0, hReports 17, by decide⟩
  rcases hListed with ⟨entry, hEntry, _⟩
  have hNil :
      ((Reference.gatedOnDay 17).drift
        .default).agedHighCves = [] := by decide +kernel
  rw [hNil] at hEntry
  simp at hEntry

end GatedValidation

end EngenhoPromessa
