import EngenhoPromessa.ValidationApi.Rest

/-
  The MCP tools over HTTP: each reads one snapshot of the
  projection and wraps what it selected in a JSON-RPC result.

  Key definitions include:
    * `McpResponse`
    * `ApiSerde`
    * `Mcp.executeListValidations`
    * `Mcp.executeComplianceSummary`
    * `Mcp.executeListBlocked`
-/

------------------------------------------------------------
-- Responses
------------------------------------------------------------

namespace EngenhoPromessa

/- The error of a response. -/
structure McpError where
  code : Int
  message : String
deriving DecidableEq, Repr

/- A response: a result or an error, for one request. -/
structure McpResponse where
  jsonrpc : String
  id : Option Json
  result : Option Json
  error : Option McpError

namespace McpResponse

/- A response with a result. -/
def ok (id : Option Json) (result : Json) : McpResponse where
  jsonrpc := "2.0"
  id := id
  result := some result
  error := none

/- A response with an error. -/
def err
    (id : Option Json)
    (code : Int)
    (message : String) : McpResponse where
  jsonrpc := "2.0"
  id := id
  result := none
  error := some { code := code, message := message }

end McpResponse

/-
  The JSON form of a resource, which kube derives, and the
  indented text form of JSON.
-/
class ApiSerde where
  validationToValue : AkeylessImageValidation → Json
  toStringPretty : Json → String

namespace Mcp

open Std (ExtTreeMap)

/- `args.get(key).and_then(|v| v.as_str())`. -/
def strArg (args : Json) (name : String) : Option String :=
  (args.get? name).bind Json.asStr

/- A summary to read and the data, both as text blocks. -/
def wrapTextResult
    [ApiSerde]
    (summary : String)
    (data : Json) : Json :=
  .obj
    [("content", .arr
        [.obj [("type", .str "text"), ("text", .str summary)],
          .obj [("type", .str "text"),
            ("text", .str (ApiSerde.toStringPretty data))]]),
      ("isError", .bool false)]

/- The counters as a JSON object, in key order. -/
def countsToValue (m : ExtTreeMap String UInt32) : Json :=
  .obj (m.toList.map (fun entry =>
    (entry.1, .ofInt entry.2.toNat)))

/- `format!("{m:?}")`, for keys that need no escapes. -/
def debugCounts (m : ExtTreeMap String UInt32) : String :=
  "\x7b" ++ String.intercalate ", "
    (m.toList.map (fun entry =>
      "\"" ++ entry.1 ++ "\": " ++
        toString entry.2.toNat)) ++ "\x7d"

end Mcp

end EngenhoPromessa

------------------------------------------------------------
-- Tools
------------------------------------------------------------

namespace EngenhoPromessa

namespace Mcp

open Std (ExtTreeMap)

/- The validations that pass all three filters. -/
def listValidations
    (args : Json)
    (p : ValidationProjection) :
    List AkeylessImageValidation :=
  let phase := strArg args "phase"
  let service := strArg args "service"
  let promessa := strArg args "promessa"
  ((p.snapshot.validations.filter (fun v =>
      phase.all (fun ph => Rest.matchesPhase ph v))).filter
    (fun v => service.all (fun s => v.spec.service = s))).filter
    (fun v =>
      promessa.all (fun pr => v.spec.promessaRef = pr))

/- The listed validations, with their number. -/
def executeListValidations
    [ApiSerde]
    (id : Option Json)
    (args : Json)
    (p : ValidationProjection) : McpResponse :=
  let items := listValidations args p
  .ok id (wrapTextResult
    ("Returned " ++ toString items.length ++
      " AkeylessImageValidation(s).")
    (.arr (items.map ApiSerde.validationToValue)))

/- What the loop over the validations counts. -/
structure Counts where
  byPhase : ExtTreeMap String UInt32
  byVerdict : ExtTreeMap String UInt32

/- One turn of the loop. -/
def Counts.observe
    (c : Counts)
    (v : AkeylessImageValidation) : Counts :=
  let byPhase := Tally.increment c.byPhase (phaseLabel v)
  match v.gateDecision? with
  | none => { c with byPhase := byPhase }
  | some gd =>
      { byPhase := byPhase
        byVerdict :=
          Tally.increment c.byVerdict gd.verdict.debugName }

/- The counts of the loop over all validations. -/
def complianceCounts (p : ValidationProjection) : Counts :=
  p.snapshot.validations.foldl Counts.observe
    { byPhase := ∅, byVerdict := ∅ }

/- The counts by phase and by verdict. -/
def executeComplianceSummary
    [ApiSerde]
    (id : Option Json)
    (p : ValidationProjection) : McpResponse :=
  let counts := complianceCounts p
  let total := p.snapshot.validations.length
  .ok id (wrapTextResult
    ("Compliance summary: " ++ toString total ++
      " validation(s), by_phase=" ++
      debugCounts counts.byPhase ++ ", by_verdict=" ++
      debugCounts counts.byVerdict)
    (.obj
      [("total_validations", .ofInt total),
        ("by_phase", countsToValue counts.byPhase),
        ("by_verdict", countsToValue counts.byVerdict)]))

/- The validations whose verdict keeps them back. -/
def listBlocked
    (p : ValidationProjection) :
    List AkeylessImageValidation :=
  p.snapshot.validations.filter (fun v =>
    match v.gateDecision?.map GateDecision.verdict with
    | some .failed => true
    | some .quarantined => true
    | _ => false)

/- The blocked validations, with their number. -/
def executeListBlocked
    [ApiSerde]
    (id : Option Json)
    (p : ValidationProjection) : McpResponse :=
  let blocked := listBlocked p
  .ok id (wrapTextResult
    ("Returned " ++ toString blocked.length ++
      " blocked validation(s) (Failed/Quarantined).")
    (.arr (blocked.map ApiSerde.validationToValue)))

end Mcp

end EngenhoPromessa

------------------------------------------------------------
-- What The Loop Counts
------------------------------------------------------------

namespace EngenhoPromessa

namespace Mcp

/- One turn counts one phase and at most one verdict. -/
theorem observe_eq
    (c : Counts)
    (v : AkeylessImageValidation) :
    c.observe v =
      { byPhase := Tally.increment c.byPhase (phaseLabel v)
        byVerdict := (verdictLabel? v).elim c.byVerdict
          (Tally.increment c.byVerdict) } := by
  unfold Counts.observe verdictLabel?
  cases v.gateDecision? with
  | none => rfl
  | some gd => rfl

/- The loop counts what the lists count. -/
theorem foldl_observe (vs : List AkeylessImageValidation) :
    vs.foldl Counts.observe { byPhase := ∅, byVerdict := ∅ } =
      { byPhase := Tally.ofList (vs.map phaseLabel)
        byVerdict :=
          Tally.ofList (vs.filterMap verdictLabel?) } := by
  induction vs using List.reverseRecOn with
  | nil => rfl
  | append_singleton vs v ih =>
      rw [List.foldl_concat, ih, observe_eq, List.map_append,
        List.map_singleton, Tally.ofList_concat,
        List.filterMap_append]
      cases hLabel : verdictLabel? v with
      | none => simp [hLabel]
      | some label => simp [hLabel, Tally.ofList_concat]

/- Blocked is what the gate decided against. -/
theorem listBlocked_eq (p : ValidationProjection) :
    listBlocked p =
      p.snapshot.validations.filter isBlocked := by
  refine List.filter_congr (fun v _ => ?_)
  unfold isBlocked
  cases v.gateDecision? with
  | none => rfl
  | some gd =>
      cases hVerdict : gd.verdict with
      | passed => simp [hVerdict]
      | failed => simp [hVerdict]
      | quarantined => simp [hVerdict]

end Mcp

end EngenhoPromessa
