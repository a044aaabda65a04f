import EngenhoPromessa.Effect.Run
import EngenhoPromessa.External.Crates
import EngenhoPromessa.Text.Utf8
import Mathlib.Data.List.Sort
import Mathlib.Data.String.Basic

/-
  The scan work graph of an image: the sink that the scans
  report to, and the job that folds what they reported into
  one hash.

  Key definitions include:
    * `ValidationJobs.ScanResultSink`
    * `ValidationJobs.serdeBytesOf`
    * `ValidationJobs.AggregateJob.executeBody`

  Key theorems include:
    * `ValidationJobs.ScanResultSink.exists_reports`
    * `ValidationJobs.totalFindings_executeBody`
    * `ValidationJobs.scannersReported_executeBody`
-/

------------------------------------------------------------
-- Outcomes
------------------------------------------------------------

namespace EngenhoPromessa

namespace ValidationJobs

/- A finding as a job reports it. -/
@[ext] structure Finding where
  scanner : String
  severity : String
  cveId : Option String
deriving DecidableEq, Repr

/- What one scan job reports. -/
structure ScanOutcome where
  scanner : String
  findings : List Finding
  hash : String
deriving DecidableEq, Repr

/- What is put together from the reports of all jobs. -/
structure AggregateOutcome where
  digest : String
  totalFindings : Nat
  scannersReported : Nat
  evidenceHash : String
deriving DecidableEq, Repr

/- Why a job could not report. -/
inductive ScanError
  | invocation (message : String)
deriving DecidableEq, Repr

end ValidationJobs

end EngenhoPromessa

------------------------------------------------------------
-- The Sink
------------------------------------------------------------

namespace EngenhoPromessa

namespace ValidationJobs

/- A hash map: the order of its entries has no meaning. -/
structure ScanResultSink (JobId : Type) where
  inner : List (JobId × ScanOutcome)
  nodup : (inner.map Prod.fst).Nodup

namespace ScanResultSink

variable {JobId : Type}

/- A sink without reports. -/
def new : ScanResultSink JobId where
  inner := []
  nodup := List.nodup_nil

/- A job that reports again replaces its report. -/
def record
    [DecidableEq JobId]
    (sink : ScanResultSink JobId)
    (jobId : JobId)
    (output : ScanOutcome) : ScanResultSink JobId where
  inner :=
    (jobId, output) ::
      sink.inner.filter (fun entry => entry.1 ≠ jobId)
  nodup := by
    rw [List.map_cons, List.nodup_cons]
    constructor
    · intro hMem
      rcases List.mem_map.mp hMem with ⟨entry, hEntry, hKey⟩
      simp [hKey] at hEntry
    · exact sink.nodup.sublist (List.filter_sublist.map _)

/- Any entries with distinct keys are those of some reports. -/
theorem exists_reports
    [DecidableEq JobId]
    (sink : ScanResultSink JobId) :
    ∃ reports : List (JobId × ScanOutcome),
      Run.run (fun s report => s.record report.1 report.2)
        new reports = sink := by
  rcases sink with ⟨inner, nodup⟩
  refine ⟨inner.reverse, ?_⟩
  induction inner with
  | nil => rfl
  | cons entry inner ih =>
      rw [List.map_cons, List.nodup_cons] at nodup
      rw [List.reverse_cons, Run.run_append, ih nodup.2]
      have hKept :
          inner.filter (fun other => other.1 ≠ entry.1) =
            inner := by
        refine List.filter_eq_self.mpr ?_
        intro other hMem
        refine decide_eq_true ?_
        intro hKey
        exact nodup.1 (hKey ▸ List.mem_map_of_mem hMem)
      simp only [Run.run_cons, Run.run_nil, record, hKept]

/- `outcomes()` gives the values in the order of the map. -/
def IsOutcomes
    (sink : ScanResultSink JobId)
    (outcomes : List ScanOutcome) : Prop :=
  outcomes.Perm (sink.inner.map Prod.snd)

/- All findings that were reported, job by job. -/
def findings (sink : ScanResultSink JobId) : List Finding :=
  (sink.inner.map Prod.snd).flatMap ScanOutcome.findings

end ScanResultSink

end ValidationJobs

end EngenhoPromessa

------------------------------------------------------------
-- The Aggregate Job
------------------------------------------------------------

namespace EngenhoPromessa

namespace ValidationJobs

/- By scanner, then by CVE; the severity has no part in it. -/
def findingOrder (a b : Finding) : Ordering :=
  (compare a.scanner b.scanner).then
    (compare a.cveId b.cveId)

/- A stable sort of the findings of all outcomes. -/
def sortedFindings
    (outcomes : List ScanOutcome) : List Finding :=
  (outcomes.flatMap ScanOutcome.findings).insertionSort
    (fun a b => findingOrder a b ≠ .gt)

/-
  Each field with a zero behind it, one finding after the
  other.
-/
def serdeBytesOf (findings : List Finding) : List UInt8 :=
  findings.flatMap (fun f =>
    Str.asBytes f.scanner ++ [0] ++
      Str.asBytes f.severity ++ [0] ++
      Str.asBytes (f.cveId.getD "") ++ [0])

/- The job that puts the reports together. -/
structure AggregateJob (JobId : Type) where
  imageDigest : String
  results : ScanResultSink JobId

namespace AggregateJob

variable {JobId : Type}

/- `outcomes` is what `results` gives when it is read. -/
def executeBody
    [Blake3]
    (job : AggregateJob JobId)
    (outcomes : List ScanOutcome) :
    Except ScanError AggregateOutcome :=
  let findings := sortedFindings outcomes
  let canonical := serdeBytesOf findings
  .ok
    { digest := job.imageDigest
      totalFindings := findings.length
      scannersReported := outcomes.length
      evidenceHash := Blake3.hashHex canonical }

end AggregateJob

/- The bytes that the job hashes. -/
def aggregateBytes
    (outcomes : List ScanOutcome) : List UInt8 :=
  serdeBytesOf (sortedFindings outcomes)

end ValidationJobs

end EngenhoPromessa

------------------------------------------------------------
-- What A Map's Order Does Not Change
------------------------------------------------------------

namespace EngenhoPromessa

namespace ValidationJobs

variable {JobId : Type}

theorem sortedFindings_perm
    {sink : ScanResultSink JobId}
    {outcomes : List ScanOutcome}
    (hOutcomes : sink.IsOutcomes outcomes) :
    (sortedFindings outcomes).Perm sink.findings :=
  (List.perm_insertionSort _ _).trans
    (hOutcomes.flatMap_right _)

theorem evidenceHash_executeBody
    [Blake3]
    (job : AggregateJob JobId)
    (outcomes : List ScanOutcome) :
    (job.executeBody outcomes).map
        AggregateOutcome.evidenceHash =
      .ok (Blake3.hashHex (aggregateBytes outcomes)) := rfl

/- The findings are counted whatever their order. -/
theorem totalFindings_executeBody
    [Blake3]
    {job : AggregateJob JobId}
    {outcomes : List ScanOutcome}
    (hOutcomes : job.results.IsOutcomes outcomes) :
    (job.executeBody outcomes).map
        AggregateOutcome.totalFindings =
      .ok job.results.findings.length :=
  congrArg Except.ok (sortedFindings_perm hOutcomes).length_eq

/- Each job that reported is counted once. -/
theorem scannersReported_executeBody
    [Blake3]
    {job : AggregateJob JobId}
    {outcomes : List ScanOutcome}
    (hOutcomes : job.results.IsOutcomes outcomes) :
    (job.executeBody outcomes).map
        AggregateOutcome.scannersReported =
      .ok job.results.inner.length := by
  have hLength : outcomes.length = job.results.inner.length :=
    hOutcomes.length_eq.trans (List.length_map _)
  exact congrArg Except.ok hLength

end ValidationJobs

end EngenhoPromessa
