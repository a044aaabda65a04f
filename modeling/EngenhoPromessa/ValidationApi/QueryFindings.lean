import EngenhoPromessa.ValidationApi.FindingScope
import EngenhoPromessa.ValidationApi.McpHandler

/-
  The filters of `query_findings`, as its entry of the
  catalog advertises them, against those its answer applies.

  The age filter is accepted and not applied.

  Key definitions include:
    * `Mcp.advertisedFindings`
    * `Mcp.AppliesFilters`

  Key theorems include:
    * `Mcp.queryFindings_eq`
    * `Mcp.appliesFilters_iff`
-/

------------------------------------------------------------
-- The Filters Of The Catalog
------------------------------------------------------------

namespace EngenhoPromessa

namespace Mcp

/- The names of the parameters a tool advertises. -/
def advertised (tool : String) : List String :=
  ((McpToolCatalog.canonical.tools.filter
    (fun t => t.name = tool)).flatMap McpTool.input).map
      ToolParam.name

example :
    advertised "query_findings" = ["severity", "age_days"] :=
  by decide

/- A severity in any letter case, if one is given. -/
def hasSeverity (args : Json) (f : ScanFinding) : Bool :=
  (strArg args "severity").all (fun sev =>
    Str.eqIgnoreAsciiCase f.severity.debugName sev)

/- The age that is asked for, if one is. -/
def ageDays (args : Json) : Option Int :=
  (args.get? "age_days").bind Json.asInt

/- `f` was first seen so many days ago, or earlier. -/
def isDaysOld
    (now : DateTime)
    (days : Int)
    (f : ScanFinding) : Bool :=
  days * DateTime.nanosPerDay ≤ now.nanos - f.firstSeen.nanos

/- The age, if one is given. -/
def hasAge
    (now : DateTime)
    (args : Json)
    (f : ScanFinding) : Bool :=
  (ageDays args).all (fun days => isDaysOld now days f)

/- The findings of all scan jobs, in order. -/
def allFindings (p : ValidationProjection) :
    List ScanFinding :=
  p.snapshot.scanJobs.flatMap childFindings

/- The findings that the description promises. -/
def advertisedFindings
    (now : DateTime)
    (args : Json)
    (p : ValidationProjection) : List ScanFinding :=
  (allFindings p).filter (fun f =>
    hasSeverity args f && hasAge now args f)

end Mcp

end EngenhoPromessa

------------------------------------------------------------
-- The Filters Of The Answer
------------------------------------------------------------

namespace EngenhoPromessa

namespace Mcp

/- The answer: these findings, and how many they are. -/
def findingsAnswer
    [ApiSerde] [Chrono] [SerdeJson]
    (id : Option Json)
    (args : Json)
    (findings : List ScanFinding) : McpResponse :=
  .ok id (wrapTextResult
    (findingsText (severityArg args) findings.length)
    (findingsToValue findings))

/- The answer is the one with these findings. -/
def AppliesFilters
    [ApiSerde] [Chrono] [SerdeJson]
    (id : Option Json)
    (now : DateTime)
    (args : Json)
    (p : ValidationProjection) : Prop :=
  executeQueryFindings id args p =
    findingsAnswer id args (advertisedFindings now args p)

/- The answer filters by severity only. -/
theorem queryFindings_eq
    (args : Json)
    (p : ValidationProjection) :
    queryFindings args p =
      (allFindings p).filter (hasSeverity args) := by
  have hFindings :
      allFindings p =
        p.snapshot.scanJobs.flatMap (fun j =>
          (j.status.map ScanJobStatus.findings).getD []) :=
    congrArg (fun f => p.snapshot.scanJobs.flatMap f)
      (funext fun j => (Rest.getD_findings j).symm)
  rw [hFindings]
  refine List.filter_congr fun f _ => ?_
  unfold hasSeverity severityArg
  cases strArg args "severity" with
  | none => rfl
  | some sev => rfl

/- What is promised is filtered by age, too. -/
theorem advertisedFindings_eq
    (now : DateTime)
    (args : Json)
    (p : ValidationProjection) :
    advertisedFindings now args p =
      (queryFindings args p).filter (hasAge now args) := by
  rw [queryFindings_eq, List.filter_filter]
  exact List.filter_congr fun f _ => Bool.and_comm _ _

/- A number is determined by its digits. -/
theorem natRepr_injective :
    Function.Injective Nat.repr := by
  intro n m hRepr
  have hDigits := congrArg String.toList hRepr
  rw [Nat.toList_repr, Nat.toList_repr] at hDigits
  have hValue :=
    congrArg (fun cs => Nat.ofDigitChars 10 cs 0) hDigits
  simpa using hValue

/- The text tells how many findings there are. -/
theorem findingsText_inj
    {severity : Option String}
    {n m : Nat}
    (hText : findingsText severity n =
      findingsText severity m) :
    n = m := by
  cases severity with
  | none =>
      have hRepr :=
        (String.append_right_inj _).mp
          ((String.append_left_inj _).mp hText)
      exact natRepr_injective hRepr
  | some sev =>
      have hRepr :=
        (String.append_right_inj _).mp
          ((String.append_left_inj _).mp
            ((String.append_left_inj _).mp
              ((String.append_left_inj _).mp hText)))
      exact natRepr_injective hRepr

/- Equal answers have equally many findings. -/
theorem length_eq_of_findingsAnswer_eq
    [ApiSerde] [Chrono] [SerdeJson]
    {id : Option Json}
    {args : Json}
    {fs gs : List ScanFinding}
    (hAnswer : findingsAnswer id args fs =
      findingsAnswer id args gs) :
    fs.length = gs.length := by
  have hResult :=
    Option.some.inj (congrArg McpResponse.result hAnswer)
  simp only [wrapTextResult, Json.obj.injEq,
    List.cons.injEq, Prod.mk.injEq, Json.arr.injEq,
    Json.str.injEq] at hResult
  exact findingsText_inj hResult.1.2.1.2.1.2

/-
  Every filter is applied exactly if no age is given, or all
  findings of the severity asked for are that old anyway.
-/
theorem appliesFilters_iff
    [ApiSerde] [Chrono] [SerdeJson]
    (id : Option Json)
    (now : DateTime)
    (args : Json)
    (p : ValidationProjection) :
    AppliesFilters id now args p ↔
      ∀ days, ageDays args = some days →
        ∀ f ∈ allFindings p, hasSeverity args f = true →
          isDaysOld now days f = true := by
  have hAnswer :
      executeQueryFindings id args p =
        findingsAnswer id args (queryFindings args p) := rfl
  have hAll :
      (∀ f ∈ queryFindings args p,
          hasAge now args f = true) ↔
        ∀ days, ageDays args = some days →
          ∀ f ∈ allFindings p, hasSeverity args f = true →
            isDaysOld now days f = true := by
    rw [queryFindings_eq]
    simp only [List.mem_filter, and_imp, hasAge]
    cases ageDays args with
    | none => simp
    | some days => simp
  unfold AppliesFilters
  rw [hAnswer, advertisedFindings_eq, ← hAll]
  constructor
  · intro hSame
    have hLength := length_eq_of_findingsAnswer_eq hSame
    exact List.length_filter_eq_length_iff.mp hLength.symm
  · intro hOld
    rw [List.filter_eq_self.mpr hOld]

open Reference

/- The arguments of a caller who asks for old findings. -/
def thirtyDays : Json :=
  .obj [("age_days", .ofInt 30)]

/- A finding of today is in the answer. -/
theorem not_appliesFilters_thirtyDays :
    ¬ AppliesFilters (some (.ofInt 1))
      criticalCve.firstSeen thirtyDays
      (projectionWith [foreignScan]) := by
  intro hApplies
  have hLength :
      (queryFindings thirtyDays
          (projectionWith [foreignScan])).length =
        (advertisedFindings criticalCve.firstSeen thirtyDays
          (projectionWith [foreignScan])).length :=
    length_eq_of_findingsAnswer_eq hApplies
  have hAnswered :
      queryFindings thirtyDays
        (projectionWith [foreignScan]) = [criticalCve] := rfl
  rw [advertisedFindings_eq, hAnswered] at hLength
  exact absurd hLength (by decide)

end Mcp

end EngenhoPromessa
