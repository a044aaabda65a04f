import EngenhoPromessa.Collections.Tally
import EngenhoPromessa.Text.Str
import EngenhoPromessa.ValidationApi.Projection

/-
  The REST handlers: each reads one snapshot of the
  projection and answers from it.

  Key definitions include:
    * `Rest.listValidations`
    * `Rest.getFindings`
    * `Rest.complianceSummary`
    * `Rest.complianceByService`

  Key theorems include:
    * `Rest.rollup_byPhase`
    * `Rest.rollup_byVerdict`
    * `Rest.rollup_blocking`
-/

------------------------------------------------------------
-- Listing And Findings
------------------------------------------------------------

namespace EngenhoPromessa

/- `.status.phase`, where there is one. -/
def AkeylessImageValidation.phase?
    (v : AkeylessImageValidation) :
    Option AkeylessImageValidationPhase :=
  v.status.bind AkeylessImageValidationStatus.phase

namespace Rest

/- What a list can be filtered by. -/
structure ListValidationsQuery where
  phase : Option String
  service : Option String
  promessa : Option String
  since : Option String
deriving DecidableEq, Repr

/- An answer with a body, or a 404 with a text. -/
inductive Response (α : Type) where
  | json (body : α)
  | notFound (message : String)
deriving DecidableEq, Repr

/- A validation without a phase matches no phase filter. -/
def matchesPhase
    (phase : String)
    (v : AkeylessImageValidation) : Bool :=
  match v.phase? with
  | some p => Str.eqIgnoreAsciiCase p.debugName phase
  | none => false

/- The lower bound `since` is reserved and not looked at. -/
def listValidations
    (p : ValidationProjection)
    (q : ListValidationsQuery) :
    List AkeylessImageValidation :=
  let items := p.snapshot.validations
  let items :=
    match q.phase with
    | some phase => items.filter (matchesPhase phase)
    | none => items
  let items :=
    match q.service with
    | some service =>
        items.filter (fun v => v.spec.service = service)
    | none => items
  match q.promessa with
  | some promessa =>
      items.filter (fun v => v.spec.promessaRef = promessa)
  | none => items

/- The validation of that name, or a 404. -/
def getValidation
    (p : ValidationProjection)
    (ns name : String) : Response AkeylessImageValidation :=
  match p.getValidation ns name with
  | some v => .json v
  | none => .notFound "validation not found"

/- Children are matched by the name of their parent. -/
def getFindings
    (p : ValidationProjection)
    (ns name : String) : Response (List ScanFinding) :=
  match p.getValidation ns name with
  | none => .notFound "validation not found"
  | some v =>
      .json
        ((p.snapshot.scanJobs.filter (fun s =>
            s.spec.parentValidation =
              v.metadata.name.getD "")).flatMap
          (fun s =>
            (s.status.map ScanJobStatus.findings).getD []))

end Rest

end EngenhoPromessa

------------------------------------------------------------
-- Compliance
------------------------------------------------------------

namespace EngenhoPromessa

open Std (ExtTreeMap)

/- How the roll-ups print a phase. -/
def phaseLabel (v : AkeylessImageValidation) : String :=
  match v.phase? with
  | some p => p.debugName
  | none => "Unknown"

namespace Rest

/- The summary that is answered. -/
structure ComplianceSummary where
  promessa : String
  window : String
  asOf : DateTime
  totalDigestsObserved : UInt32
  byPhase : ExtTreeMap String UInt32
  byVerdict : ExtTreeMap String UInt32
  complianceState : String
  blocking : List String

/- What the loop over the validations keeps. -/
structure Rollup where
  byPhase : ExtTreeMap String UInt32
  byVerdict : ExtTreeMap String UInt32
  blocking : List String
  state : String

namespace Rollup

/- Nothing counted yet. -/
def start : Rollup where
  byPhase := ∅
  byVerdict := ∅
  blocking := []
  state := "Cosmetic"

/- One turn of the loop. -/
def observe
    (r : Rollup)
    (v : AkeylessImageValidation) : Rollup :=
  let byPhase := Tally.increment r.byPhase (phaseLabel v)
  match v.gateDecision? with
  | none => { r with byPhase := byPhase }
  | some gd =>
      let byVerdict :=
        Tally.increment r.byVerdict gd.verdict.debugName
      if gd.verdict = .failed ∨ gd.verdict = .quarantined then
        { byPhase := byPhase
          byVerdict := byVerdict
          blocking := r.blocking ++ [v.spec.imageDigest]
          state := "Critical" }
      else if r.state = "Cosmetic" ∧
          gd.severity = "Functional" then
        { r with
          byPhase := byPhase
          byVerdict := byVerdict
          state := "Functional" }
      else
        { r with
          byPhase := byPhase
          byVerdict := byVerdict }

end Rollup

/- All validations, in the order observed. -/
def rollup (vs : List AkeylessImageValidation) : Rollup :=
  vs.foldl Rollup.observe .start

/- The counts of the snapshot, named after its first promise. -/
def complianceSummary
    (now : DateTime)
    (p : ValidationProjection) : ComplianceSummary :=
  let vs := p.snapshot.validations
  let r := rollup vs
  { promessa :=
      match vs.head? with
      | some v => v.spec.promessaRef
      | none => ""
    window := "30d"
    asOf := now
    totalDigestsObserved := UInt32.ofNat vs.length
    byPhase := r.byPhase
    byVerdict := r.byVerdict
    complianceState := r.state
    blocking := r.blocking }

/- The phases of each service, counted. -/
def complianceByService
    (p : ValidationProjection) :
    ExtTreeMap String (ExtTreeMap String UInt32) :=
  p.snapshot.validations.foldl
    (fun bySvc v =>
      Tally.incrementIn bySvc (v.spec.service, phaseLabel v))
    ∅

end Rest

end EngenhoPromessa

------------------------------------------------------------
-- What The Loop Computes
------------------------------------------------------------

namespace EngenhoPromessa

/- The printed verdict, if the gate has decided. -/
def verdictLabel?
    (v : AkeylessImageValidation) : Option String :=
  v.gateDecision?.map (fun gd => gd.verdict.debugName)

/- The gate decided against the image. -/
def isBlocked (v : AkeylessImageValidation) : Bool :=
  match v.gateDecision? with
  | some gd => gd.verdict = .failed ∨ gd.verdict = .quarantined
  | none => false

namespace Rest

/- The last validation is counted last. -/
theorem rollup_concat
    (vs : List AkeylessImageValidation)
    (v : AkeylessImageValidation) :
    rollup (vs ++ [v]) = (rollup vs).observe v := by
  simp [rollup]

/- Its phase is counted. -/
@[simp] theorem byPhase_observe
    (r : Rollup)
    (v : AkeylessImageValidation) :
    (r.observe v).byPhase =
      Tally.increment r.byPhase (phaseLabel v) := by
  unfold Rollup.observe
  cases v.gateDecision? with
  | none => rfl
  | some gd =>
      simp only
      split
      · rfl
      · split
        · rfl
        · rfl

/- Its verdict is counted, if it has one. -/
theorem byVerdict_observe
    (r : Rollup)
    (v : AkeylessImageValidation) :
    (r.observe v).byVerdict =
      (verdictLabel? v).elim r.byVerdict
        (Tally.increment r.byVerdict) := by
  unfold Rollup.observe verdictLabel?
  cases v.gateDecision? with
  | none => rfl
  | some gd =>
      simp only
      split
      · rfl
      · split
        · rfl
        · rfl

/- Its image is listed, if it is blocked. -/
theorem blocking_observe
    (r : Rollup)
    (v : AkeylessImageValidation) :
    (r.observe v).blocking =
      if isBlocked v then
        r.blocking ++ [v.spec.imageDigest]
      else
        r.blocking := by
  unfold Rollup.observe isBlocked
  cases v.gateDecision? with
  | none => rfl
  | some gd =>
      by_cases hBlocked :
          gd.verdict = .failed ∨ gd.verdict = .quarantined
      · simp [hBlocked]
      · simp only [hBlocked, if_false, decide_false]
        split
        · rfl
        · rfl

theorem rollup_byPhase (vs : List AkeylessImageValidation) :
    (rollup vs).byPhase = Tally.ofList (vs.map phaseLabel) := by
  induction vs using List.reverseRecOn with
  | nil => rfl
  | append_singleton vs v ih =>
      rw [rollup_concat, byPhase_observe, ih, List.map_append,
        List.map_singleton, Tally.ofList_concat]

/- The verdicts once for each decision. -/
theorem rollup_byVerdict (vs : List AkeylessImageValidation) :
    (rollup vs).byVerdict =
      Tally.ofList (vs.filterMap verdictLabel?) := by
  induction vs using List.reverseRecOn with
  | nil => rfl
  | append_singleton vs v ih =>
      rw [rollup_concat, byVerdict_observe, ih,
        List.filterMap_append]
      cases hLabel : verdictLabel? v with
      | none => simp [hLabel]
      | some label =>
          simp [hLabel, Tally.ofList_concat]

/- The images of the blocked ones, in order. -/
theorem rollup_blocking (vs : List AkeylessImageValidation) :
    (rollup vs).blocking =
      (vs.filter isBlocked).map (fun v => v.spec.imageDigest) := by
  induction vs using List.reverseRecOn with
  | nil => rfl
  | append_singleton vs v ih =>
      rw [rollup_concat, blocking_observe, ih,
        List.filter_append]
      cases hBlocked : isBlocked v with
      | false => simp [hBlocked]
      | true => simp [hBlocked]

end Rest

end EngenhoPromessa
