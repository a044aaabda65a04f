import EngenhoPromessa.Crds.ScanJobSerde
import EngenhoPromessa.External.Reference
import EngenhoPromessa.ValidationApi.McpAuth

/-
  The MCP endpoint: it checks the caller, then answers by the
  method of the request, and a tool call by the name of the
  tool.

  Key definitions include:
    * `Mcp.McpToolCatalog.canonical`
    * `Mcp.queryFindings`
    * `Mcp.toolsCallResponse`
    * `Mcp.handler`

  Key theorems include:
    * `Mcp.handler_of_refused`
    * `Mcp.authorization_exact`
-/

------------------------------------------------------------
-- The Catalog
------------------------------------------------------------

namespace EngenhoPromessa

namespace Mcp

/- How a server is spoken to. -/
inductive ServerTransport where
  | stdio
  | httpSse
deriving DecidableEq, Repr

/- What a server says of itself. -/
structure ServerInfo where
  name : String
  version : String
  transport : ServerTransport
  theoryRef : String
deriving DecidableEq, Repr

/- The types of parameters. -/
inductive ParamType where
  | string
  | int
  | bool
  | duration
  | severityEnum
  | phaseEnum
deriving DecidableEq, Repr

/- A parameter of a tool. -/
structure ToolParam where
  name : String
  ty : ParamType
  required : Bool
  description : String
deriving DecidableEq, Repr

/- What a tool answers with. -/
inductive ToolOutput where
  | validation
  | validationList
  | findingList
  | complianceSummary
  | acknowledgement
deriving DecidableEq, Repr

/- A tool that can be called. -/
structure McpTool where
  name : String
  description : String
  input : List ToolParam
  output : ToolOutput
deriving DecidableEq, Repr

/- The server and its tools. -/
structure McpToolCatalog where
  server : ServerInfo
  tools : List McpTool
deriving DecidableEq, Repr

/- `CARGO_PKG_VERSION` of the workspace. -/
def pkgVersion : String := "0.1.1"

/- The two parameters that name a validation. -/
def namespaceAndName : List ToolParam :=
  [⟨"namespace", .string, true, "K8s namespace"⟩,
    ⟨"name", .string, true, "CR name"⟩]

/- The tools of the platform, with their descriptions. -/
def McpToolCatalog.canonical : McpToolCatalog where
  server :=
    { name := "akeyless-validation-api"
      version := pkgVersion
      transport := .stdio
      theoryRef :=
        "pleme-io/theory/AKEYLESS-VALIDATION-PLATFORM.md" ++
          "#part-v-the-api-binary" }
  tools :=
    [{ name := "list_validations"
       description :=
         "List every AkeylessImageValidation the " ++
           "substrate has observed, optionally filtered " ++
           "by phase, service, or governing promessa."
       input :=
         [⟨"phase", .phaseEnum, false,
             "Filter by status.phase"⟩,
           ⟨"service", .string, false,
             "Filter by spec.service"⟩,
           ⟨"promessa", .string, false,
             "Filter by spec.promessaRef"⟩]
       output := .validationList },
     { name := "get_validation"
       description :=
         "Fetch the full AkeylessImageValidation CR " ++
           "(spec + status) by namespace + name."
       input := namespaceAndName
       output := .validation },
     { name := "query_findings"
       description :=
         "Return ScanFindings across all validations " ++
           "matching the given severity + age filters."
       input :=
         [⟨"severity", .severityEnum, false,
             "Critical | High | Medium | Low"⟩,
           ⟨"age_days", .int, false,
             "Minimum age in days"⟩]
       output := .findingList },
     { name := "trigger_rescan"
       description :=
         "Idempotently mark an AkeylessImageValidation " ++
           "for re-reconcile."
       input := namespaceAndName
       output := .acknowledgement },
     { name := "compliance_summary"
       description :=
         "Aggregate pipeline health across the whole " ++
           "projection — counts by phase + verdict + " ++
           "blocking digests."
       input := []
       output := .complianceSummary },
     { name := "list_blocked"
       description :=
         "Every validation whose gate verdict is Failed " ++
           "or Quarantined."
       input := []
       output := .validationList }]

end Mcp

end EngenhoPromessa

------------------------------------------------------------
-- Answers
------------------------------------------------------------

namespace EngenhoPromessa

/- `format!("{severity:?}")`. -/
def ScanFindingSeverity.debugName :
    ScanFindingSeverity → String
| .low => "Low"
| .medium => "Medium"
| .high => "High"
| .critical => "Critical"

namespace Mcp

/- The answer to `initialize`. -/
def initializeResponse (id : Option Json) : McpResponse :=
  .ok id (.obj
    [("protocolVersion", .str "2024-11-05"),
      ("serverInfo", .obj
        [("name", .str "akeyless-validation-api"),
          ("version", .str pkgVersion)]),
      ("capabilities", .obj
        [("tools", .obj [("listChanged", .bool false)])])])

/- The schema of a parameter; most are texts. -/
def ToolParam.schema (p : ToolParam) : Json :=
  .obj
    [("type",
        match p.ty with
        | .int => .str "integer"
        | .bool => .str "boolean"
        | _ => .str "string"),
      ("description", .str p.description)]

/- The answer to `tools/list`, with the schemas. -/
def toolsListResponse (id : Option Json) : McpResponse :=
  let tools := McpToolCatalog.canonical.tools.map (fun t =>
    let properties := t.input.map (fun p =>
      (p.name, p.schema))
    let required :=
      (t.input.filter ToolParam.required).map
        (fun p => Json.str p.name)
    Json.obj
      [("name", .str t.name),
        ("description", .str t.description),
        ("inputSchema", .obj
          [("type", .str "object"),
            ("properties", .obj properties),
            ("required", .arr required)])])
  .ok id (.obj [("tools", .arr tools)])

/- `format!("{:?}")` of a phase that may be missing. -/
def debugPhase :
    Option AkeylessImageValidationPhase → String
| some phase => "Some(" ++ phase.debugName ++ ")"
| none => "None"

/- One validation, by namespace and name. -/
def executeGetValidation
    [ApiSerde]
    (id : Option Json)
    (args : Json)
    (p : ValidationProjection) : McpResponse :=
  match strArg args "namespace" with
  | none =>
      .err id (-32602) "missing required arg: namespace"
  | some ns =>
      match strArg args "name" with
      | none => .err id (-32602) "missing required arg: name"
      | some name =>
          match p.getValidation ns name with
          | some v =>
              .ok id (wrapTextResult
                (ns ++ "/" ++ name ++ ": phase=" ++
                  debugPhase v.phase?)
                (ApiSerde.validationToValue v))
          | none =>
              .err id (-32004)
                ("not found: " ++ ns ++ "/" ++ name)

/- The severity to look for, in lower case. -/
def severityArg (args : Json) : Option String :=
  (strArg args "severity").map Str.toAsciiLowercase

/- `all_findings`. No other argument is looked at. -/
def queryFindings
    (args : Json)
    (p : ValidationProjection) : List ScanFinding :=
  let severity := severityArg args
  (p.snapshot.scanJobs.flatMap (fun j =>
      (j.status.map ScanJobStatus.findings).getD [])).filter
    (fun f =>
      severity.all (fun sev =>
        Str.toAsciiLowercase f.severity.debugName = sev))

/- How many findings there are, and of which severity. -/
def findingsText
    (severity : Option String)
    (n : Nat) : String :=
  match severity with
  | some sev =>
      "Returned " ++ toString n ++ " " ++ sev ++
        "-severity finding(s)."
  | none =>
      "Returned " ++ toString n ++
        " finding(s) across all severities."

/- The findings of all scan jobs that pass the filter. -/
def executeQueryFindings
    [ApiSerde] [Chrono] [SerdeJson]
    (id : Option Json)
    (args : Json)
    (p : ValidationProjection) : McpResponse :=
  let allFindings := queryFindings args p
  .ok id (wrapTextResult
    (findingsText (severityArg args) allFindings.length)
    (findingsToValue allFindings))

/- Only acknowledges the request. -/
def executeTriggerRescan
    [ApiSerde] [Chrono]
    (id : Option Json)
    (args : Json)
    (now : DateTime) : McpResponse :=
  match strArg args "namespace" with
  | none =>
      .err id (-32602) "missing required arg: namespace"
  | some ns =>
      match strArg args "name" with
      | none => .err id (-32602) "missing required arg: name"
      | some name =>
          .ok id (wrapTextResult
            ("Rescan request acknowledged for " ++ ns ++
              "/" ++ name ++ ".")
            (.obj
              [("acknowledged", .bool true),
                ("namespace", .str ns),
                ("name", .str name),
                ("ts", .str (Chrono.serialize now))]))

end Mcp

end EngenhoPromessa

------------------------------------------------------------
-- The Endpoint
------------------------------------------------------------

namespace EngenhoPromessa

namespace Mcp

/- A request as decoded; `params` is null where left out. -/
structure McpRequest where
  jsonrpc : String
  id : Option Json
  method : String
  params : Json

/- The status and the body of an answer. -/
structure HttpResponse where
  status : Nat
  body : McpResponse

section

variable [ApiSerde] [Chrono] [SerdeJson]

/- Calls the tool of that name, if there is one. -/
def toolsCallResponse
    (id : Option Json)
    (params : Json)
    (p : ValidationProjection)
    (now : DateTime) : McpResponse :=
  let name := (strArg params "name").getD ""
  let args := (params.get? "arguments").getD (.obj [])
  match name with
  | "list_validations" => executeListValidations id args p
  | "get_validation" => executeGetValidation id args p
  | "query_findings" => executeQueryFindings id args p
  | "compliance_summary" => executeComplianceSummary id p
  | "list_blocked" => executeListBlocked id p
  | "trigger_rescan" => executeTriggerRescan id args now
  | other => .err id (-32602) ("unknown tool: " ++ other)

/-
  One request: refused, malformed, or answered by its
  method.
-/
def handler
    (env : Env)
    (headers : HeaderMap)
    (req : McpRequest)
    (p : ValidationProjection)
    (now : DateTime) : HttpResponse :=
  match authorize headers (AuthConfig.fromEnv env) with
  | .error unauth => { status := 401, body := unauth }
  | .ok () =>
      if req.jsonrpc ≠ "2.0" then
        { status := 200
          body :=
            .err req.id (-32600) "jsonrpc must be 2.0" }
      else
        { status := 200
          body :=
            match req.method with
            | "initialize" => initializeResponse req.id
            | "tools/list" => toolsListResponse req.id
            | "tools/call" =>
                toolsCallResponse req.id req.params p now
            | method =>
                .err req.id (-32601)
                  ("method not found: " ++ method) }

/- A refusal says nothing but that it is one. -/
theorem handler_of_refused
    {env : Env}
    {headers : HeaderMap}
    {refusal : McpResponse}
    (hRefused :
      authorize headers (AuthConfig.fromEnv env) =
        .error refusal)
    (req : McpRequest)
    (p : ValidationProjection)
    (now : DateTime) :
    handler env headers req p now =
      { status := 401, body := refusal } := by
  rw [handler, hRefused]

/-
  The right callers pass, and to all others the endpoint is
  the same whatever is asked and whatever it holds.
-/
theorem authorization_exact
    {headers : HeaderMap}
    {cfg : AuthConfig}
    (hNul :
      ∀ t, cfg.expectedToken = some t → 0 ∉ asBytes t)
    (hVisible :
      ∀ v, headers.lookup "authorization" = some v →
        v.bytes.all HeaderValue.isVisibleAscii = true) :
    (authorize headers cfg = .ok () ↔
        MayCall headers cfg) ∧
      ∀ env refusal, AuthConfig.fromEnv env = cfg →
        authorize headers cfg = .error refusal →
          ∀ req p now,
            handler env headers req p now =
              { status := 401, body := refusal } := by
  refine ⟨authorize_eq_ok_iff hNul hVisible, ?_⟩
  rintro env refusal rfl hRefused req p now
  exact handler_of_refused hRefused req p now

end

end Mcp

namespace Reference

/- The pretty form of what has nothing to be indented. -/
def toStringPretty : Json → String
| .null => "null"
| .bool b => toString b
| .arr [] => "[]"
| .obj [] => "\x7b\x7d"
| _ => ""

instance apiSerde : ApiSerde where
  validationToValue v :=
    .obj
      [("apiVersion", .str "validation.pleme.io/v1"),
        ("kind", .str "AkeylessImageValidation"),
        ("metadata", .obj
          [("name", .str v.metadata.nameAny),
            ("namespace",
              .str v.metadata.namespaceOrDefault)])]
  toStringPretty := toStringPretty

/- Printable characters may stand in a header. -/
theorem valid_of_all
    {bytes : List UInt8}
    (hAll :
      bytes.all (fun b => 32 ≤ b && b != 127) = true) :
    ∀ b ∈ bytes, (32 ≤ b ∧ b ≠ 127) ∨ b = 9 := by
  intro b hb
  have hByte := List.all_eq_true.mp hAll b hb
  rw [Bool.and_eq_true, decide_eq_true_eq,
    bne_iff_ne] at hByte
  exact .inl hByte

/- The headers of a caller that shows a token. -/
def bearerHeaders : Mcp.HeaderMap :=
  [("authorization",
    { bytes := Mcp.asBytes "Bearer secret"
      valid := valid_of_all (by decide) })]

/- Those of a caller that guesses one of its length. -/
def guessHeaders : Mcp.HeaderMap :=
  [("authorization",
    { bytes := Mcp.asBytes "Bearer sacred"
      valid := valid_of_all (by decide) })]

/- The token is set, and no one passes without it. -/
def secretConfig : Mcp.AuthConfig where
  expectedToken := some "secret"
  allowAnonymous := false

end Reference

namespace Mcp

open Reference

theorem mayCall_bearerHeaders :
    MayCall bearerHeaders secretConfig :=
  .inl ⟨"secret", _, rfl, rfl, rfl⟩

theorem not_mayCall_guessHeaders :
    ¬ MayCall guessHeaders secretConfig := by
  rintro (⟨t, v, hToken, hHeader, hBytes⟩ | ⟨hNone, -⟩)
  · rw [← Option.some.inj hToken,
      ← Option.some.inj hHeader] at hBytes
    exact absurd hBytes (by decide)
  · cases hNone

/- One caller passes, and the other is told nothing. -/
theorem authorization_exact_secret :
    authorize bearerHeaders secretConfig = .ok () ∧
      ∃ refusal,
        authorize guessHeaders secretConfig =
            .error refusal ∧
          ∀ env, AuthConfig.fromEnv env = secretConfig →
            ∀ req p now,
              handler env guessHeaders req p now =
                { status := 401, body := refusal } := by
  have hNul :
      ∀ t, secretConfig.expectedToken = some t →
        0 ∉ asBytes t := by
    rintro t hToken
    rw [← Option.some.inj hToken]
    decide
  have hBearer :
      ∀ v, bearerHeaders.lookup "authorization" = some v →
        v.bytes.all HeaderValue.isVisibleAscii = true := by
    rintro v hHeader
    rw [← Option.some.inj hHeader]
    decide
  have hGuess :
      ∀ v, guessHeaders.lookup "authorization" = some v →
        v.bytes.all HeaderValue.isVisibleAscii = true := by
    rintro v hHeader
    rw [← Option.some.inj hHeader]
    decide
  rcases authorization_exact hNul hBearer with ⟨hPasses, _⟩
  rcases authorization_exact hNul hGuess with
    ⟨hRefused, hTold⟩
  refine ⟨hPasses.mpr mayCall_bearerHeaders, ?_⟩
  cases hAnswer : authorize guessHeaders secretConfig with
  | ok _ =>
      exact absurd (hRefused.mp hAnswer)
        not_mayCall_guessHeaders
  | error refusal =>
      exact ⟨refusal, rfl, fun env hEnv =>
        hTold env refusal hEnv hAnswer⟩

end Mcp

end EngenhoPromessa
