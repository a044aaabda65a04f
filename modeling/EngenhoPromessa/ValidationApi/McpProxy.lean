import EngenhoPromessa.ReconcilerEngine.HttpActs
import EngenhoPromessa.Text.Unlines
import EngenhoPromessa.ValidationApi.McpHandler

/-
  The bridge from standard input and output to the MCP
  endpoint: each line that is not blank is posted, and the
  answer is written on a line of its own.

  A request may not be sent, its answer may be lost, something
  on the way may refuse it, or the endpoint answers.

  Key definitions include:
    * `Mcp.forward`
    * `Mcp.makeProxyError`
    * `Mcp.bridge`
    * `Mcp.endpoint`
    * `Mcp.Exchange`
    * `Mcp.IsIdOf`
    * `Mcp.Answers`

  Key theorems include:
    * `Mcp.answers_handler`
    * `Mcp.bridge_network`
    * `Mcp.bridge_answers`
-/

------------------------------------------------------------
-- The Bridge
------------------------------------------------------------

namespace EngenhoPromessa

namespace Mcp

/- Where the endpoint is, and the token for it. -/
structure ProxyConfig where
  endpoint : String
  bearer : String
  timeoutSecs : Nat
deriving DecidableEq, Repr

/- A request that is posted. -/
structure PostRequest where
  url : String
  headers : List (String × String)
  body : String
deriving DecidableEq, Repr

/- A status, with the body or why it could not be read. -/
structure PostResponse where
  status : Nat
  text : Except String String

/- Sends a request, or says why it could not. -/
abbrev PostClient (m : Type → Type) :=
  PostRequest → m (Except String PostResponse)

/- The status is one of a success. -/
def isSuccess (status : Nat) : Bool :=
  200 ≤ status && status < 300

variable [HttpText] [SerdeJson]

/- The line as the body, with the token in a header. -/
def ProxyConfig.request
    (cfg : ProxyConfig)
    (body : String) : PostRequest where
  url := cfg.endpoint
  headers :=
    [("authorization", "Bearer " ++ cfg.bearer),
      ("content-type", "application/json")]
  body := body

/- Of an error, only its outermost context is shown. -/
def forwarded :
    Except String PostResponse → Except String String
| .error _ => .error "POST to MCP endpoint"
| .ok response =>
    match response.text with
    | .error _ => .error "read response body"
    | .ok text =>
        if isSuccess response.status then
          .ok text
        else
          .error ("MCP endpoint returned " ++
            HttpText.status response.status ++ ": " ++ text)

/- Posts one line, and reads the answer. -/
def forward
    {m : Type → Type}
    [Monad m]
    (client : PostClient m)
    (cfg : ProxyConfig)
    (body : String) : m (Except String String) := do
  return forwarded (← client (cfg.request body))

/- The identifier of a request, or null. -/
def requestId (reqLine : String) : Json :=
  match SerdeJson.fromStr reqLine with
  | .ok v => (v.get? "id").getD .null
  | .error _ => .null

/- The error that is written in place of an answer. -/
def makeProxyError (reqLine message : String) : String :=
  HttpText.json (.obj
    [("jsonrpc", .str "2.0"),
      ("id", requestId reqLine),
      ("error", .obj
        [("code", .ofInt (-32099)),
          ("message", .str ("mcp-proxy: " ++ message))])])

/- The line that is written for a request. -/
def respLine
    (line : String) : Except String String → String
| .ok body => body
| .error e => makeProxyError line e

/- `run`: the lines that are written for those read. -/
def bridge
    {m : Type → Type}
    [Monad m]
    (client : PostClient m)
    (cfg : ProxyConfig) : List String → m (List String)
| [] => return []
| line :: lines => do
    if Str.trim line = "" then
      bridge client cfg lines
    else
      let respBody ← forward client cfg line
      let rest ← bridge client cfg lines
      return respLine line respBody :: rest

end Mcp

end EngenhoPromessa

------------------------------------------------------------
-- The Endpoint Over HTTP
------------------------------------------------------------

namespace EngenhoPromessa

namespace Mcp

/- A missing or null identifier is none. -/
def notNull : Json → Option Json
| .null => none
| j => some j

/-
  A request is read from an object by its keys, or from an
  array, whose last element may be left out.
-/
def McpRequest.fromValue : Json → Option McpRequest
| .obj ms => do
    return {
      jsonrpc := ← (ms.lookup "jsonrpc").bind Json.asStr
      id := (ms.lookup "id").bind notNull
      method := ← (ms.lookup "method").bind Json.asStr
      params := (ms.lookup "params").getD .null }
| .arr (.str jsonrpc :: id :: .str method :: params) =>
    match params with
    | [] => some ⟨jsonrpc, notNull id, method, .null⟩
    | [params] => some ⟨jsonrpc, notNull id, method, params⟩
    | _ => none
| _ => none

/- The status and text of a body that is refused. -/
structure Rejection where
  status : Nat
  text : String
deriving DecidableEq, Repr

/- What axum makes of a body that should be a request. -/
class AxumJson where
  extract : String → Except Rejection McpRequest

/-
  Only what reads as a request is taken for one, and the rest
  is refused with an error.
-/
structure ExtractsRequests
    [SerdeJson] [AxumJson] : Prop where
  readable {body : String} {req : McpRequest}
    (hTaken : AxumJson.extract body = .ok req) :
    ∃ j, SerdeJson.fromStr body = .ok j ∧
      McpRequest.fromValue j = some req
  refused {body : String} {rejection : Rejection}
    (hRefused : AxumJson.extract body = .error rejection) :
    isSuccess rejection.status = false

/- An error as it is written. -/
def McpError.toValue (e : McpError) : Json :=
  .obj [("code", .ofInt e.code), ("message", .str e.message)]

/- The result and the error are left out when missing. -/
def responseToValue (r : McpResponse) : Json :=
  .record
    [("jsonrpc", some (.str r.jsonrpc)),
      ("id", some (r.id.getD .null)),
      ("result", r.result),
      ("error", r.error.map McpError.toValue)]

variable [ApiSerde] [Chrono] [SerdeJson] [HttpText] [AxumJson]

/- What the endpoint holds when a request reaches it. -/
structure Served where
  env : Env
  projection : ValidationProjection
  now : DateTime

/- The endpoint: refuses the body, or handles the request. -/
def endpoint
    (served : Served)
    (headers : HeaderMap)
    (body : String) : PostResponse :=
  match AxumJson.extract body with
  | .error rejection =>
      { status := rejection.status
        text := .ok rejection.text }
  | .ok req =>
      let response :=
        handler served.env headers req served.projection
          served.now
      { status := response.status
        text :=
          .ok (HttpText.json (responseToValue response.body)) }

end Mcp

end EngenhoPromessa

------------------------------------------------------------
-- The Network
------------------------------------------------------------

namespace EngenhoPromessa

namespace Mcp

namespace HeaderValue

/- No control character but tab. -/
def isAllowed (b : UInt8) : Bool :=
  (32 ≤ b && b != 127) || b == 9

/- What is checked byte by byte holds of each. -/
theorem allowed_of_isAllowed
    {bytes : List UInt8}
    (hAll : bytes.all isAllowed = true) :
    ∀ b ∈ bytes, (32 ≤ b ∧ b ≠ 127) ∨ b = 9 := by
  intro b hb
  have hByte := List.all_eq_true.mp hAll b hb
  rw [isAllowed, Bool.or_eq_true, Bool.and_eq_true,
    decide_eq_true_eq, bne_iff_ne, beq_iff_eq] at hByte
  exact hByte

/- The text as a header, if it may stand in one. -/
def ofText? (text : String) : Option HeaderValue :=
  if hAll : (asBytes text).all isAllowed = true then
    some
      { bytes := asBytes text
        valid := allowed_of_isAllowed hAll }
  else
    none

end HeaderValue

/- All headers, if each may stand in one. -/
def headersOf
    (headers : List (String × String)) : Option HeaderMap :=
  headers.mapM (fun header =>
    (HeaderValue.ofText? header.2).map (header.1, ·))

/-
  What becomes of one request. On its way to the endpoint its
  headers may be changed; what refuses it on the way answers
  with an error status.
-/
inductive Exchange where
  | unsent (text : String)
  | unread (status : Nat) (text : String)
  | refused
      (status : Nat)
      (text : String)
      (hStatus : isSuccess status = false)
  | served
      (state : Served)
      (via : HeaderMap → HeaderMap)

variable [ApiSerde] [Chrono] [SerdeJson] [HttpText] [AxumJson]

/- What the client gets to see of an exchange. -/
def Exchange.answer
    (exchange : Exchange)
    (request : PostRequest) : Except String PostResponse :=
  match headersOf request.headers with
  | none => .error "builder error"
  | some headers =>
      match exchange with
      | .unsent text => .error text
      | .unread status text =>
          .ok { status := status, text := .error text }
      | .refused status text _ =>
          .ok { status := status, text := .ok text }
      | .served state via =>
          .ok (endpoint state (via headers) request.body)

/- The state counts the requests so far. -/
def network (exchanges : Nat → Exchange) :
    PostClient (StateM Nat) :=
  fun request n =>
    ((exchanges n).answer request, n + 1)

/- The lines that are posted. -/
def requests (lines : List String) : List String :=
  lines.filter (fun line => Str.trim line ≠ "")

/- The line that one request leads to. -/
def reply
    (cfg : ProxyConfig)
    (exchange : Exchange)
    (line : String) : String :=
  respLine line
    (forwarded (exchange.answer (cfg.request line)))

/- One line for each request, in order. -/
theorem bridge_network
    (exchanges : Nat → Exchange)
    (cfg : ProxyConfig)
    (lines : List String)
    (n : Nat) :
    bridge (network exchanges) cfg lines n =
      ((requests lines).mapIdx (fun i line =>
          reply cfg (exchanges (n + i)) line),
        n + (requests lines).length) := by
  induction lines generalizing n with
  | nil => rfl
  | cons line lines ih =>
      by_cases hBlank : Str.trim line = ""
      · have hRequests :
            requests (line :: lines) = requests lines := by
          simp [requests, hBlank]
        rw [hRequests, bridge, if_pos hBlank, ih]
      · have hRequests :
            requests (line :: lines) =
              line :: requests lines := by
          simp [requests, hBlank]
        have hStep :
            bridge (network exchanges) cfg (line :: lines) n =
              (reply cfg (exchanges n) line ::
                  (bridge (network exchanges) cfg lines
                    (n + 1)).1,
                (bridge (network exchanges) cfg lines
                  (n + 1)).2) := by
          rw [bridge, if_neg hBlank]
          rfl
        rw [hStep, ih, hRequests, List.mapIdx_cons]
        simp [Nat.add_assoc, Nat.add_comm 1]

end Mcp

end EngenhoPromessa

------------------------------------------------------------
-- Answers
------------------------------------------------------------

namespace EngenhoPromessa

namespace Mcp

/- A response, and to which request. -/
structure IsResponse (id : Json) (v : Json) : Prop where
  jsonrpc : v.get? "jsonrpc" = some (.str "2.0")
  id_eq : v.get? "id" = some id
  result_or_error :
    (v.get? "result").isSome = !(v.get? "error").isSome

/- The same before it is written. -/
structure Responds
    (id : Option Json)
    (r : McpResponse) : Prop where
  jsonrpc : r.jsonrpc = "2.0"
  id_eq : r.id = id
  result_or_error : r.result.isSome = !r.error.isSome

/- A result is a response. -/
theorem responds_ok (id : Option Json) (result : Json) :
    Responds id (.ok id result) :=
  ⟨rfl, rfl, rfl⟩

/- So is an error. -/
theorem responds_err
    (id : Option Json)
    (code : Int)
    (message : String) :
    Responds id (.err id code message) :=
  ⟨rfl, rfl, rfl⟩

/- A written response has its members, and no others. -/
theorem Responds.isResponse
    {id : Option Json}
    {r : McpResponse}
    (hResponds : Responds id r) :
    IsResponse (id.getD .null) (responseToValue r) := by
  have hLookup (key : String) :
      (responseToValue r).get? key =
        (List.lookup key
          [("jsonrpc", some (Json.str r.jsonrpc)),
            ("id", some (r.id.getD .null)),
            ("result", r.result),
            ("error", r.error.map McpError.toValue)]).join :=
    Json.lookup_recordMembers (by simp) key
  refine ⟨?_, ?_, ?_⟩
  · rw [hLookup, hResponds.jsonrpc]
    simp
  · rw [hLookup, hResponds.id_eq]
    simp [List.lookup_cons]
  · rw [hLookup, hLookup]
    simpa [List.lookup_cons] using hResponds.result_or_error

variable [ApiSerde] [Chrono] [SerdeJson]

omit [Chrono] [SerdeJson] in
/- Reading one validation answers, found or not. -/
theorem responds_getValidation
    (id : Option Json)
    (args : Json)
    (p : ValidationProjection) :
    Responds id (executeGetValidation id args p) := by
  unfold executeGetValidation
  split
  · exact responds_err _ _ _
  · split
    · exact responds_err _ _ _
    · split
      · exact responds_ok _ _
      · exact responds_err _ _ _

omit [SerdeJson] in
/- So does asking for a scan. -/
theorem responds_triggerRescan
    (id : Option Json)
    (args : Json)
    (now : DateTime) :
    Responds id (executeTriggerRescan id args now) := by
  unfold executeTriggerRescan
  split
  · exact responds_err _ _ _
  · split
    · exact responds_err _ _ _
    · exact responds_ok _ _

/- Every tool answers the request it was called by. -/
theorem responds_toolsCall
    (id : Option Json)
    (params : Json)
    (p : ValidationProjection)
    (now : DateTime) :
    Responds id (toolsCallResponse id params p now) := by
  unfold toolsCallResponse
  dsimp only
  split
  · exact responds_ok _ _
  · exact responds_getValidation _ _ _
  · exact responds_ok _ _
  · exact responds_ok _ _
  · exact responds_ok _ _
  · exact responds_triggerRescan _ _ _
  · exact responds_err _ _ _

/- A caller that is not refused gets its answer. -/
theorem responds_handler
    {env : Env}
    {headers : HeaderMap}
    {req : McpRequest}
    {p : ValidationProjection}
    {now : DateTime}
    (hStatus :
      isSuccess (handler env headers req p now).status =
        true) :
    Responds req.id (handler env headers req p now).body := by
  unfold handler at hStatus ⊢
  split
  · rename_i hRefused
    rw [hRefused] at hStatus
    cases hStatus
  · split
    · exact responds_err _ _ _
    · dsimp only
      split
      · exact responds_ok _ _
      · exact responds_ok _ _
      · exact responds_toolsCall _ _ _ _
      · exact responds_err _ _ _

end Mcp

end EngenhoPromessa

------------------------------------------------------------
-- Every Request Is Answered
------------------------------------------------------------

namespace EngenhoPromessa

namespace Mcp

variable [ApiSerde] [Chrono] [SerdeJson] [HttpText] [AxumJson]

/-
  The identifier a line is answered under. The bridge looks
  for a member, which an array has none of; the endpoint
  takes an array for a request, by its second element.
-/
inductive IsIdOf (reqLine : String) : Json → Prop where
  | member : IsIdOf reqLine (requestId reqLine)
  | second
      {jsonrpc id : Json}
      {rest : List Json}
      (hParsed :
        SerdeJson.fromStr reqLine =
          .ok (.arr (jsonrpc :: id :: rest))) :
      IsIdOf reqLine id

/- The line is the text of a response to the request. -/
def Answers (reqLine out : String) : Prop :=
  ∃ id v, out = HttpText.json v ∧
    IsIdOf reqLine id ∧ IsResponse id v

omit [ApiSerde] [Chrono] [AxumJson] in
theorem answers_proxyError (line message : String) :
    Answers line (makeProxyError line message) :=
  ⟨_, _, rfl, .member,
    by simp,
    by simp [Json.lookup_cons_ite],
    by simp [Json.lookup_cons_ite]⟩

omit [ApiSerde] [Chrono] [SerdeJson] [HttpText]
  [AxumJson] in
/- A missing identifier is written as null. -/
theorem getD_notNull (v : Json) :
    (notNull v).getD .null = v := by
  cases v <;> rfl

omit [ApiSerde] [Chrono] [SerdeJson] [HttpText]
  [AxumJson] in
/- So it is for a member that may be missing. -/
theorem getD_bind_notNull (v : Option Json) :
    (v.bind notNull).getD .null = v.getD .null := by
  cases v with
  | none => rfl
  | some v => exact getD_notNull v

omit [ApiSerde] [Chrono] [HttpText] [AxumJson] in
/- An object is a request with the identifier in it. -/
theorem id_of_object
    {line : String}
    {ms : List (String × Json)}
    {req : McpRequest}
    (hParsed : SerdeJson.fromStr line = .ok (.obj ms))
    (hReq : McpRequest.fromValue (.obj ms) = some req) :
    req.id.getD .null = requestId line := by
  rw [requestId, hParsed]
  simp only [McpRequest.fromValue, Option.bind_eq_bind,
    Option.bind_eq_some_iff, Option.pure_def,
    Option.some.injEq] at hReq
  rcases hReq with ⟨_, _, _, _, rfl⟩
  exact getD_bind_notNull (ms.lookup "id")

omit [ApiSerde] [Chrono] [SerdeJson] [HttpText]
  [AxumJson] in
/- An array is one with its second element. -/
theorem id_of_array
    {elems : List Json}
    {req : McpRequest}
    (hReq : McpRequest.fromValue (.arr elems) = some req) :
    ∃ jsonrpc rest,
      elems = jsonrpc :: req.id.getD .null :: rest := by
  unfold McpRequest.fromValue at hReq
  split at hReq
  · rename_i hObject
    cases hObject
  · rename_i jsonrpc id method params hArray
    cases hArray
    refine ⟨.str jsonrpc, .str method :: params, ?_⟩
    have hId : req.id = notNull id := by
      split at hReq
      · cases hReq
        rfl
      · cases hReq
        rfl
      · cases hReq
    rw [hId, getD_notNull]
  · cases hReq

omit [ApiSerde] [Chrono] [HttpText] [AxumJson] in
/- A decoded request has an identifier of its line. -/
theorem isIdOf_of_fromValue
    {line : String}
    {j : Json}
    {req : McpRequest}
    (hParsed : SerdeJson.fromStr line = .ok j)
    (hReq : McpRequest.fromValue j = some req) :
    IsIdOf line (req.id.getD .null) := by
  cases j with
  | obj ms =>
      rw [id_of_object hParsed hReq]
      exact .member
  | arr elems =>
      rcases id_of_array hReq with ⟨jsonrpc, rest, rfl⟩
      exact .second hParsed
  | null => cases hReq
  | bool b => cases hReq
  | num n => cases hReq
  | str s => cases hReq

omit [ApiSerde] [Chrono] [SerdeJson] [AxumJson] in
/- Only the text of a success is passed on. -/
theorem forwarded_eq_ok
    {answer : Except String PostResponse}
    {text : String}
    (hForwarded : forwarded answer = .ok text) :
    ∃ status, isSuccess status = true ∧
      answer = .ok { status := status, text := .ok text } := by
  cases answer with
  | error e => cases hForwarded
  | ok response =>
      rcases response with ⟨status, e | body⟩
      · cases hForwarded
      · simp only [forwarded] at hForwarded
        split at hForwarded
        · rename_i hStatus
          cases hForwarded
          exact ⟨status, hStatus, rfl⟩
        · cases hForwarded

/- A success is the endpoint's own answer. -/
theorem exists_handler_of_success
    (hExtracts : ExtractsRequests)
    {exchange : Exchange}
    {request : PostRequest}
    {status : Nat}
    {text : String}
    (hStatus : isSuccess status = true)
    (hAnswer : exchange.answer request =
      .ok { status := status, text := .ok text }) :
    ∃ (state : Served) (headers : HeaderMap)
      (req : McpRequest),
      AxumJson.extract request.body = .ok req ∧
        isSuccess (handler state.env headers req
          state.projection state.now).status = true ∧
        text = HttpText.json (responseToValue
          (handler state.env headers req state.projection
            state.now).body) := by
  unfold Exchange.answer at hAnswer
  cases hHeaders : headersOf request.headers with
  | none =>
      rw [hHeaders] at hAnswer
      cases hAnswer
  | some headers =>
      rw [hHeaders] at hAnswer
      cases exchange with
      | unsent text' => cases hAnswer
      | unread status' text' => cases hAnswer
      | refused status' text' hRefused =>
          cases hAnswer
          rw [hRefused] at hStatus
          cases hStatus
      | served state via =>
          simp only [endpoint] at hAnswer
          cases hExtract : AxumJson.extract request.body with
          | error rejection =>
              rw [hExtract] at hAnswer
              cases hAnswer
              rw [hExtracts.refused hExtract] at hStatus
              cases hStatus
          | ok req =>
              rw [hExtract] at hAnswer
              cases hAnswer
              exact ⟨state, via headers, req, rfl, hStatus,
                rfl⟩

/- Whatever becomes of a request, its line is answered. -/
theorem answers_reply
    (hExtracts : ExtractsRequests)
    (cfg : ProxyConfig)
    (exchange : Exchange)
    (line : String) :
    Answers line (reply cfg exchange line) := by
  unfold reply
  cases hForwarded :
      forwarded (exchange.answer (cfg.request line)) with
  | error e => exact answers_proxyError _ _
  | ok text =>
      rcases forwarded_eq_ok hForwarded with
        ⟨status, hStatus, hAnswer⟩
      rcases exists_handler_of_success hExtracts hStatus
          hAnswer with
        ⟨state, headers, req, hTaken, hSuccess, rfl⟩
      rcases hExtracts.readable hTaken with
        ⟨j, hParsed, hReq⟩
      exact ⟨_, _, rfl, isIdOf_of_fromValue hParsed hReq,
        (responds_handler hSuccess).isResponse⟩

/- The endpoint answers a caller that it does not refuse. -/
theorem reply_of_authorized
    {cfg : ProxyConfig}
    {state : Served}
    {via : HeaderMap → HeaderMap}
    {line : String}
    {req : McpRequest}
    {headers : HeaderMap}
    (hTaken : AxumJson.extract line = .ok req)
    (hHeaders :
      headersOf (cfg.request line).headers = some headers)
    (hAuthorized :
      authorize (via headers) (AuthConfig.fromEnv state.env) =
        .ok ()) :
    reply cfg (.served state via) line =
      HttpText.json (responseToValue
        (handler state.env (via headers) req
          state.projection state.now).body) := by
  have hStatus :
      (handler state.env (via headers) req state.projection
        state.now).status = 200 := by
    unfold handler
    rw [hAuthorized]
    dsimp only
    split
    · rfl
    · rfl
  have hBody : (cfg.request line).body = line := rfl
  unfold reply Exchange.answer
  simp [hHeaders, endpoint, hBody, hTaken, forwarded,
    hStatus, isSuccess, respLine]

/- Standard output after all of standard input. -/
def proxy
    (exchanges : Nat → Exchange)
    (cfg : ProxyConfig)
    (stdin : String) : String :=
  Str.unlines
    (bridge (network exchanges) cfg (Str.lines stdin) 0).1

/- The text of a value is one line. -/
def WritesLines : Prop :=
  ∀ j, Str.IsLine (HttpText.json j)

omit [ApiSerde] [Chrono] [AxumJson] in
/- An answer is one line, if texts are. -/
theorem Answers.isLine
    (hText : WritesLines)
    {line out : String}
    (hAnswers : Answers line out) :
    Str.IsLine out := by
  rcases hAnswers with ⟨_, v, rfl, -, -⟩
  exact hText v

end Mcp

end EngenhoPromessa

------------------------------------------------------------
-- Four Requests
------------------------------------------------------------

namespace EngenhoPromessa

namespace Reference

open Mcp

/- A request for a method that there is not. -/
def ping : Json :=
  .obj
    [("jsonrpc", .str "2.0"), ("id", .ofInt 7),
      ("method", .str "ping")]

/- The request as a line. -/
def pingLine : String := String.ofList (compact ping)

/- The same request as an array. -/
def pingArray : Json :=
  .arr [.str "2.0", .ofInt 8, .str "ping"]

/- The array as a line. -/
def pingArrayLine : String :=
  String.ofList (compact pingArray)

/- What the endpoint reads from either. -/
def pingRequest (id : Int) : McpRequest where
  jsonrpc := "2.0"
  id := some (.ofInt id)
  method := "ping"
  params := .null

/- Reads these requests. -/
abbrev pingJson : SerdeJson where
  fromStr s :=
    if s = pingLine then .ok ping
    else if s = pingArrayLine then .ok pingArray
    else .error (syntaxError s)
  toVec := SerdeJson.toVec
  asF32 := SerdeJson.asF32
  ofF32 := SerdeJson.ofF32
  asF32_ofF32 := SerdeJson.asF32_ofF32

/- Writes values without line breaks. -/
abbrev lineText : HttpText where
  status status :=
    if status = 502 then "502 Bad Gateway"
    else toString status
  json j :=
    String.ofList
      ((compact j).filter (fun c => c ≠ '\n' ∧ c ≠ '\r'))

/- Reads a body as a request, or refuses it. -/
abbrev axumJson [SerdeJson] : AxumJson where
  extract body :=
    match SerdeJson.fromStr body with
    | .error e =>
        .error
          { status := 400
            text :=
              "Failed to parse the request body as JSON: " ++
                e }
    | .ok j =>
        match McpRequest.fromValue j with
        | none =>
            .error
              { status := 422
                text :=
                  "Failed to deserialize the JSON body " ++
                    "into the target type" }
        | some req => .ok req

/- It does no more than that. -/
theorem extractsRequests [SerdeJson] :
    @ExtractsRequests _ axumJson := by
  refine @ExtractsRequests.mk _ axumJson ?_ ?_
  · intro body req hTaken
    simp only [AxumJson.extract] at hTaken
    split at hTaken
    · cases hTaken
    · rename_i j hParsed
      split at hTaken
      · cases hTaken
      · rename_i req' hReq
        cases hTaken
        exact ⟨j, hParsed, hReq⟩
  · intro body rejection hRefused
    simp only [AxumJson.extract] at hRefused
    split at hRefused
    · cases hRefused
      rfl
    · split at hRefused
      · cases hRefused
        rfl
      · cases hRefused

/- The bridge of a cluster on this machine. -/
def proxyConfig : ProxyConfig where
  endpoint := "http://localhost:8080/v1/mcp"
  bearer := "secret"
  timeoutSecs := 30

/- The endpoint of an empty cluster, with the token. -/
def emptyEndpoint : Served where
  env := fun name =>
    if name = "MCP_BEARER_TOKEN" then some "secret" else none
  projection := .new
  now := second 0

/- The header of the content type. -/
def jsonType : HeaderValue where
  bytes := asBytes "application/json"
  valid := valid_of_all (by decide)

/- The headers the bridge sends. -/
def proxyHeaders : HeaderMap :=
  bearerHeaders ++ [("content-type", jsonType)]

/- Both headers may be sent. -/
theorem headersOf_request (line : String) :
    headersOf (proxyConfig.request line).headers =
      some proxyHeaders := by
  have hType :
      HeaderValue.ofText? "application/json" =
        some jsonType :=
    dif_pos (by decide)
  have hAuth :
      (HeaderValue.ofText? "Bearer secret").map
          ("authorization", ·) =
        bearerHeaders.head? :=
    congrArg (Option.map _) (dif_pos (by decide))
  have hBearer :
      "Bearer " ++ proxyConfig.bearer = "Bearer secret" := by
    decide
  rw [ProxyConfig.request, hBearer, headersOf]
  simp only [List.mapM_cons, List.mapM_nil, hAuth, hType]
  rfl

/- Two requests arrive, and no one is there later. -/
def twoArrive : Nat → Exchange
| 0 => .served emptyEndpoint id
| 1 => .unsent "connection refused"
| 2 => .served emptyEndpoint id
| _ => .refused 502 "" rfl

/- Three requests, and among them lines that are none. -/
def pingInput : String :=
  Str.unlines
    [pingLine, "", "hello", pingArrayLine, pingLine]

/- What the endpoint answers to a ping. -/
def pingAnswer [HttpText] (id : Json) : String :=
  HttpText.json (responseToValue
    (.err (some id) (-32601) "method not found: ping"))

end Reference

namespace Mcp

open Reference

end Mcp

end EngenhoPromessa
