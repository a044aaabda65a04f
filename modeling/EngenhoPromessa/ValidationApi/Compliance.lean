import EngenhoPromessa.Controllers.GateSafety
import EngenhoPromessa.ValidationApi.Graphql
import EngenhoPromessa.ValidationApi.McpHttp

/-
  What the faces of the API say about compliance.

  REST folds over verdicts, GraphQL over printed severities;
  over decisions of the gate both name the worst severity.
  The counts of the REST and the MCP face are one count of
  the same snapshot.

  Key definitions include:
    * `worst`
    * `IsGated`
    * `Mcp.HasFilters`

  Key theorems include:
    * `Graphql.complianceState_eq_worst`
    * `Rest.complianceState_eq_worst`
    * `complianceState_rest_eq_graphql`
    * `faces_agree`
-/

------------------------------------------------------------
-- The Worst Severity
------------------------------------------------------------

namespace EngenhoPromessa

/- The worst of some severities, from `s` on. -/
def worst (s : Severity) (severities : List Severity) :
    Severity :=
  severities.foldl max s

@[simp] theorem worst_nil (s : Severity) :
    worst s [] = s := rfl

@[simp] theorem worst_cons
    (s t : Severity)
    (severities : List Severity) :
    worst s (t :: severities) = worst (max s t) severities :=
  rfl

/- Nothing is worse than critical. -/
theorem worst_critical (severities : List Severity) :
    worst .critical severities = .critical := by
  induction severities with
  | nil => rfl
  | cons t severities ih =>
      have hMax : max Severity.critical t = .critical := by
        cases t <;> decide
      rw [worst_cons, hMax, ih]

/- The severity a text prints, if it prints one. -/
def Severity.ofDebugName (s : String) : Option Severity :=
  [Severity.cosmetic, .functional, .critical].find?
    (fun severity => severity.debugName = s)

/- A text prints the one severity whose name it is. -/
theorem Severity.ofDebugName_eq_some_iff
    {s : String}
    {severity : Severity} :
    Severity.ofDebugName s = some severity ↔
      s = severity.debugName := by
  unfold Severity.ofDebugName
  constructor
  · intro hFind
    have hPrints := List.find?_some hFind
    exact (of_decide_eq_true hPrints).symm
  · rintro rfl
    cases severity <;> decide

/- The severity of a validation's gate decision. -/
def gateSeverity?
    (v : AkeylessImageValidation) : Option Severity :=
  v.gateDecision?.bind (fun gd =>
    Severity.ofDebugName gd.severity)

end EngenhoPromessa

------------------------------------------------------------
-- The Two Roll-Ups
------------------------------------------------------------

namespace EngenhoPromessa

/- A decision that prints no severity is passed over. -/
theorem severity_ne_of_ofDebugName_eq_none
    {s : String}
    (hNone : Severity.ofDebugName s = none) :
    s ≠ "Critical" ∧ s ≠ "Functional" := by
  have hNot : ∀ severity : Severity,
      s ≠ severity.debugName := by
    intro severity hEq
    have hSome := Severity.ofDebugName_eq_some_iff.mpr hEq
    simp [hNone] at hSome
  exact ⟨hNot .critical, hNot .functional⟩

namespace Graphql

/- One turn of the loop, by the severity it meets. -/
theorem complianceStateFrom_cons
    (s : Severity)
    (v : AkeylessImageValidation)
    (vs : List AkeylessImageValidation) :
    complianceStateFrom s.debugName (v :: vs) =
      match gateSeverity? v with
      | some .critical => "Critical"
      | some severity =>
          complianceStateFrom (max s severity).debugName vs
      | none => complianceStateFrom s.debugName vs := by
  unfold gateSeverity?
  cases hGate : v.gateDecision? with
  | none => simp [complianceStateFrom, hGate]
  | some gd =>
      cases hPrint : Severity.ofDebugName gd.severity with
      | none =>
          rcases severity_ne_of_ofDebugName_eq_none hPrint
            with ⟨hCritical, hFunctional⟩
          simp [complianceStateFrom, hGate, hPrint, hCritical,
            hFunctional]
      | some severity =>
          have hEq :=
            Severity.ofDebugName_eq_some_iff.mp hPrint
          simp only [complianceStateFrom, hGate,
            Option.bind_some, hPrint]
          rw [hEq]
          cases severity <;> cases s <;> rfl

/- The resolver names the worst severity it meets. -/
theorem complianceStateFrom_eq_worst
    (s : Severity)
    (vs : List AkeylessImageValidation) :
    complianceStateFrom s.debugName vs =
      (worst s (vs.filterMap gateSeverity?)).debugName := by
  induction vs generalizing s with
  | nil => rfl
  | cons v vs ih =>
      rw [complianceStateFrom_cons, List.filterMap_cons]
      cases hSeverity : gateSeverity? v with
      | none => exact ih s
      | some severity =>
          have hRest := ih (max s severity)
          cases severity with
          | critical =>
              have hMax : max s .critical = .critical := by
                cases s <;> decide
              simp only [worst_cons, hMax, worst_critical]
              rfl
          | functional => exact hRest
          | cosmetic => exact hRest

/- GraphQL names the worst severity of the snapshot. -/
theorem complianceState_eq_worst (p : ValidationProjection) :
    complianceState p =
      (worst .cosmetic
        (p.snapshot.validations.filterMap
          gateSeverity?)).debugName :=
  complianceStateFrom_eq_worst .cosmetic _

end Graphql

/-
  A decision as the gate takes it: the severity and the
  verdict are those of some validation and its children.
-/
def IsGated [PromessaSerde] (gd : GateDecision) : Prop :=
  ∃ ctx spec obj children,
    gd.severity =
        (gateDecisionOf ctx spec obj children).severity ∧
      gd.verdict =
        (gateDecisionOf ctx spec obj children).verdict

/- The gate fails an image exactly if it is critical. -/
theorem IsGated.exists_severity
    [PromessaSerde]
    {gd : GateDecision}
    (hGated : IsGated gd) :
    ∃ severity : Severity,
      gd.severity = severity.debugName ∧
        gd.verdict =
          if severity = .critical then .failed else .passed := by
  rcases hGated with
    ⟨ctx, spec, obj, children, hSeverity, hVerdict⟩
  exact ⟨_, hSeverity,
    hVerdict.trans
      (verdict_gateDecisionOf ctx spec obj children)⟩

namespace Rest

variable [PromessaSerde]

/- One turn of the fold moves to the worse severity. -/
theorem state_observe_of_isGated
    {v : AkeylessImageValidation}
    (hGated : ∀ gd, v.gateDecision? = some gd → IsGated gd)
    {r : Rollup}
    {s : Severity}
    (hState : r.state = s.debugName) :
    (r.observe v).state =
      (worst s (gateSeverity? v).toList).debugName := by
  unfold Rollup.observe gateSeverity?
  cases hGate : v.gateDecision? with
  | none => exact hState
  | some gd =>
      rcases (hGated gd hGate).exists_severity with
        ⟨severity, hSeverity, hVerdict⟩
      have hPrint :
          Severity.ofDebugName gd.severity = some severity :=
        Severity.ofDebugName_eq_some_iff.mpr hSeverity
      simp only [Option.bind_some, hPrint, hVerdict,
        Option.toList_some, worst_cons, worst_nil]
      rw [hSeverity, hState]
      cases severity <;> cases s <;> rfl

/- The fold names the worst severity it has met. -/
theorem state_foldl_observe
    {vs : List AkeylessImageValidation}
    (hGated : ∀ v ∈ vs, ∀ gd,
      v.gateDecision? = some gd → IsGated gd)
    {r : Rollup}
    {s : Severity}
    (hState : r.state = s.debugName) :
    (vs.foldl Rollup.observe r).state =
      (worst s (vs.filterMap gateSeverity?)).debugName := by
  induction vs generalizing r s with
  | nil => exact hState
  | cons v vs ih =>
      rcases List.forall_mem_cons.mp hGated with
        ⟨hFirst, hRest⟩
      rw [List.foldl_cons,
        ih hRest (state_observe_of_isGated hFirst hState),
        List.filterMap_cons]
      cases gateSeverity? v with
      | none => rfl
      | some severity => rfl

/- Over decisions of the gate REST names it, too. -/
theorem complianceState_eq_worst
    {p : ValidationProjection}
    (hGated : ∀ v ∈ p.snapshot.validations, ∀ gd,
      v.gateDecision? = some gd → IsGated gd)
    (now : DateTime) :
    (complianceSummary now p).complianceState =
      (worst .cosmetic
        (p.snapshot.validations.filterMap
          gateSeverity?)).debugName :=
  state_foldl_observe hGated rfl

end Rest

/-
  Over decisions of the gate both faces report one state,
  the worst severity of the snapshot.
-/
theorem complianceState_rest_eq_graphql
    [PromessaSerde]
    {p : ValidationProjection}
    (hGated : ∀ v ∈ p.snapshot.validations, ∀ gd,
      v.gateDecision? = some gd → IsGated gd)
    (now : DateTime) :
    (Rest.complianceSummary now p).complianceState =
      Graphql.complianceState p := by
  rw [Rest.complianceState_eq_worst hGated,
    Graphql.complianceState_eq_worst]

namespace Reference

/- A critical finding with a CVE. -/
def criticalCve : ScanFinding :=
  { verifiedSecret with
    scanner := .trivy
    cveId := some "CVE-2026-0001" }

/- The reference validation, gated over these children. -/
def gated (children : List ScanJob) :
    AkeylessImageValidation :=
  { validationAt .gating with
    status := some (gatedStatus ctx
      (securitySpecFor ctx.env validationSpec.promessaRef)
      (validationAt .gating) children) }

/- The projection after a list of one validation. -/
def projectionOf (v : AkeylessImageValidation) :
    ValidationProjection :=
  Run.run ValidationProjection.step .new
    [.validation .init, .validation (.initApply v),
      .validation .initDone]

/- The scan has found it. -/
def failedValidation : AkeylessImageValidation :=
  gated [childOf .trivy .attested [criticalCve]]

/- The same of another name. -/
def named
    (name : String)
    (v : AkeylessImageValidation) :
    AkeylessImageValidation :=
  { v with metadata := metadata name }

/- Nothing critical was found. -/
def passedValidation : AkeylessImageValidation :=
  named "api-01" (gated [childOf .trivy .attested []])

/- It has not been decided yet. -/
def undecidedValidation : AkeylessImageValidation :=
  named "auth-02" (validationAt .scanning)

/- The projection after a list of these validations. -/
def projectionOfAll
    (vs : List AkeylessImageValidation) :
    ValidationProjection :=
  Run.run ValidationProjection.step .new
    (.validation .init ::
      vs.map (fun v => .validation (.initApply v)) ++
        [.validation .initDone])

/- One that passed, one that failed, and one on its way. -/
def mixedValidations : List AkeylessImageValidation :=
  [passedValidation, failedValidation, undecidedValidation]

/- They are observed in the order of their names. -/
theorem validations_projectionOfAll_mixed :
    (projectionOfAll mixedValidations).snapshot.validations =
      mixedValidations := rfl

end Reference

/- Both faces call the three critical. -/
theorem complianceState_rest_eq_graphql_failed :
    let p := Reference.projectionOfAll
      Reference.mixedValidations
    (Rest.complianceSummary (Reference.second 0)
        p).complianceState = Graphql.complianceState p ∧
      Graphql.complianceState p = "Critical" := by
  intro p
  refine ⟨complianceState_rest_eq_graphql ?_
    (Reference.second 0), rfl⟩
  intro v hMem gd hGate
  rw [Reference.validations_projectionOfAll_mixed] at hMem
  simp only [Reference.mixedValidations, List.mem_cons,
    List.not_mem_nil, or_false] at hMem
  rcases hMem with rfl | rfl | rfl
  · obtain rfl := Option.some.inj hGate
    exact ⟨_, _, _, _, rfl, rfl⟩
  · obtain rfl := Option.some.inj hGate
    exact ⟨_, _, _, _, rfl, rfl⟩
  · cases hGate

end EngenhoPromessa

------------------------------------------------------------
-- Counts
------------------------------------------------------------

namespace EngenhoPromessa

/- The arguments carry the filters of the query. -/
def Mcp.HasFilters
    (args : Json)
    (q : Rest.ListValidationsQuery) : Prop :=
  Mcp.strArg args "phase" = q.phase ∧
    Mcp.strArg args "service" = q.service ∧
    Mcp.strArg args "promessa" = q.promessa

@[simp] theorem asStr_getD_null (filter : Option String) :
    ((filter.map Json.str).getD .null).asStr = filter := by
  cases filter with
  | none => rfl
  | some s => rfl

/- Every combination of filters can be asked for. -/
theorem Mcp.exists_hasFilters
    (q : Rest.ListValidationsQuery) :
    ∃ args, Mcp.HasFilters args q :=
  ⟨.obj
    [("phase", (q.phase.map Json.str).getD .null),
      ("service", (q.service.map Json.str).getD .null),
      ("promessa", (q.promessa.map Json.str).getD .null)],
    asStr_getD_null q.phase, asStr_getD_null q.service,
    asStr_getD_null q.promessa⟩

/- A filter that is missing lets everything pass. -/
theorem filter_all_eq_match
    {α : Type}
    (filter : Option String)
    (keeps : String → α → Bool)
    (items : List α) :
    items.filter (fun v => filter.all (fun s => keeps s v)) =
      match filter with
      | some s => items.filter (keeps s)
      | none => items := by
  cases filter with
  | none => simp
  | some s => simp

/- Both faces list the same validations in one order. -/
theorem listValidations_mcp_eq_rest
    {args : Json}
    {q : Rest.ListValidationsQuery}
    (hFilters : Mcp.HasFilters args q)
    (p : ValidationProjection) :
    Mcp.listValidations args p = Rest.listValidations p q := by
  rcases hFilters with ⟨hPhase, hService, hPromessa⟩
  simp only [Mcp.listValidations, hPhase, hService, hPromessa]
  rw [filter_all_eq_match q.promessa
      (fun s (v : AkeylessImageValidation) =>
        decide (v.spec.promessaRef = s)),
    filter_all_eq_match q.service
      (fun s (v : AkeylessImageValidation) =>
        decide (v.spec.service = s)),
    filter_all_eq_match q.phase Rest.matchesPhase]
  rfl

theorem complianceByService_eq (p : ValidationProjection) :
    Rest.complianceByService p =
      Tally.ofPairs (p.snapshot.validations.map (fun v =>
        (v.spec.service, phaseLabel v))) := by
  unfold Rest.complianceByService Tally.ofPairs
  rw [List.foldl_map]

/- The blocked ones are the failed and the quarantined. -/
theorem length_filter_isBlocked
    (vs : List AkeylessImageValidation) :
    (vs.filter isBlocked).length =
      (vs.filterMap verdictLabel?).count "Failed" +
        (vs.filterMap verdictLabel?).count "Quarantined" := by
  induction vs with
  | nil => rfl
  | cons v vs ih =>
      cases hGate : v.gateDecision? with
      | none =>
          simp [isBlocked, verdictLabel?, hGate, ih]
      | some gd =>
          cases hVerdict : gd.verdict with
          | passed =>
              simp [isBlocked, verdictLabel?, hGate, hVerdict,
                GateVerdict.debugName, ih]
          | failed =>
              simp [isBlocked, verdictLabel?, hGate, hVerdict,
                GateVerdict.debugName, ih]
              omega
          | quarantined =>
              simp [isBlocked, verdictLabel?, hGate, hVerdict,
                GateVerdict.debugName, ih]
              omega

/-
  What the faces count of a snapshot that 32 bits can count.
-/
structure CountsAgree
    (now : DateTime)
    (p : ValidationProjection) : Prop where
  phases_total :
    Tally.total (Rest.complianceSummary now p).byPhase =
      (Rest.complianceSummary now
        p).totalDigestsObserved.toNat
  phases_mcp :
    (Rest.complianceSummary now p).byPhase =
      (Mcp.complianceCounts p).byPhase
  phases_services : ∀ phase,
    Tally.countOf (Rest.complianceSummary now p).byPhase
        phase =
      Tally.totalOf (Rest.complianceByService p) phase
  verdicts_mcp :
    (Rest.complianceSummary now p).byVerdict =
      (Mcp.complianceCounts p).byVerdict
  verdicts_total :
    Tally.total (Rest.complianceSummary now p).byVerdict =
      (p.snapshot.validations.filter (fun v =>
        v.gateDecision?.isSome)).length
  blocking_verdicts :
    (Rest.complianceSummary now p).blocking.length =
      Tally.countOf (Rest.complianceSummary now p).byVerdict
          "Failed" +
        Tally.countOf
          (Rest.complianceSummary now p).byVerdict
          "Quarantined"
  blocking_mcp :
    (Rest.complianceSummary now p).blocking.length =
      (Mcp.listBlocked p).length

/- Every decision has a verdict to be counted. -/
theorem length_filterMap_verdictLabel
    (vs : List AkeylessImageValidation) :
    (vs.filterMap verdictLabel?).length =
      (vs.filter (fun v => v.gateDecision?.isSome)).length := by
  induction vs with
  | nil => rfl
  | cons v vs ih =>
      cases hGate : v.gateDecision? with
      | none => simp [verdictLabel?, hGate, ih]
      | some gd => simp [verdictLabel?, hGate, ih]

/- What 32 bits can count is counted alike. -/
theorem countsAgree_of_length_lt
    {p : ValidationProjection}
    (hLength : p.snapshot.validations.length < 2 ^ 32)
    (now : DateTime) : CountsAgree now p := by
  let vs := p.snapshot.validations
  have hPhases : (vs.map phaseLabel).length < 2 ^ 32 := by
    rwa [List.length_map]
  have hPairs :
      (vs.map (fun v =>
        (v.spec.service, phaseLabel v))).length < 2 ^ 32 := by
    rwa [List.length_map]
  have hVerdicts :
      (vs.filterMap verdictLabel?).length < 2 ^ 32 :=
    Nat.lt_of_le_of_lt (List.length_filterMap_le _ _) hLength
  have hByPhase :
      (Rest.complianceSummary now p).byPhase =
        Tally.ofList (vs.map phaseLabel) :=
    Rest.rollup_byPhase vs
  have hByVerdict :
      (Rest.complianceSummary now p).byVerdict =
        Tally.ofList (vs.filterMap verdictLabel?) :=
    Rest.rollup_byVerdict vs
  have hBlocking :
      (Rest.complianceSummary now p).blocking.length =
        (vs.filter isBlocked).length := by
    have hList := Rest.rollup_blocking vs
    exact (congrArg List.length hList).trans
      (List.length_map _)
  have hMcp := Mcp.foldl_observe vs
  constructor
  · rw [hByPhase, Tally.total_ofList hPhases,
      List.length_map]
    exact (UInt32.toNat_ofNat_of_lt' hLength).symm
  · rw [hByPhase]
    exact (congrArg Mcp.Counts.byPhase hMcp).symm
  · intro phase
    rw [hByPhase, complianceByService_eq,
      Tally.countOf_ofList hPhases,
      Tally.totalOf_ofPairs hPairs, List.map_map]
    rfl
  · rw [hByVerdict]
    exact (congrArg Mcp.Counts.byVerdict hMcp).symm
  · rw [hByVerdict, Tally.total_ofList hVerdicts,
      length_filterMap_verdictLabel]
  · rw [hBlocking, hByVerdict,
      Tally.countOf_ofList hVerdicts,
      Tally.countOf_ofList hVerdicts,
      length_filter_isBlocked]
  · rw [hBlocking, Mcp.listBlocked_eq]

/-
  The faces count one snapshot alike, and for every filter
  the two lists of validations are one list.
-/
theorem faces_agree
    {p : ValidationProjection}
    (hLength : p.snapshot.validations.length < 2 ^ 32)
    (now : DateTime) :
    CountsAgree now p ∧
      ∀ q : Rest.ListValidationsQuery,
        (∃ args, Mcp.HasFilters args q) ∧
          ∀ args, Mcp.HasFilters args q →
            Mcp.listValidations args p =
              Rest.listValidations p q :=
  ⟨countsAgree_of_length_lt hLength now,
    fun q => ⟨Mcp.exists_hasFilters q,
      fun _ hFilters =>
        listValidations_mcp_eq_rest hFilters p⟩⟩

namespace Reference

/- Whose decision someone else has set to quarantined. -/
def quarantinedValidation : AkeylessImageValidation :=
  let failed := gated [childOf .trivy .attested [criticalCve]]
  { named "auth-03" failed with
    status := failed.status.map (fun status =>
      { status with
        phase := some .quarantined
        gateDecision := status.gateDecision.map (fun gd =>
          { gd with verdict := .quarantined }) }) }

/- One of each kind. -/
def allValidations : List AkeylessImageValidation :=
  mixedValidations ++ [quarantinedValidation]

/- They are observed in the order of their names, too. -/
theorem validations_projectionOfAll_all :
    (projectionOfAll allValidations).snapshot.validations =
      allValidations := rfl

/- The failed validations of the service. -/
def failedQuery : Rest.ListValidationsQuery where
  phase := some "failed"
  service := some "auth"
  promessa := none
  since := none

/- The same filters as arguments. -/
def failedArgs : Json :=
  .obj [("phase", .str "failed"), ("service", .str "auth")]

theorem hasFilters_failedArgs :
    Mcp.HasFilters failedArgs failedQuery :=
  ⟨rfl, rfl, rfl⟩

end Reference

/- Counts and lists agree for the four. -/
theorem faces_agree_failed :
    let p := Reference.projectionOfAll
      Reference.allValidations
    CountsAgree (Reference.second 0) p ∧
      Mcp.listValidations Reference.failedArgs p =
        Rest.listValidations p Reference.failedQuery ∧
      Rest.listValidations p Reference.failedQuery =
        [Reference.failedValidation] := by
  intro p
  have hLength :
      p.snapshot.validations.length < 2 ^ 32 := by
    rw [Reference.validations_projectionOfAll_all]
    decide
  rcases faces_agree hLength (Reference.second 0) with
    ⟨hCounts, hLists⟩
  exact ⟨hCounts,
    (hLists Reference.failedQuery).2 Reference.failedArgs
      Reference.hasFilters_failedArgs,
    rfl⟩

end EngenhoPromessa
