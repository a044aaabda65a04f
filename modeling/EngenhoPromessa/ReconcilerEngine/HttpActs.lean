import EngenhoPromessa.ReconcilerEngine.HarborMirror

/-
  The two reconcilers that speak HTTP: one drives a
  transition of an artifact at the ledger, the other deletes
  a manifest from the private registry.

  The client is left to the monad. A response is taken as it
  is read: its status, and its body if that is JSON.

  Key definitions include:
    * `HttpClient`
    * `CartorioAdmitReconciler.act`
    * `GhcrTagRevokeReconciler.act`

  Key theorems include:
    * `CartorioAdmitReconciler.isTerminalSuccess_outcomeOf`
    * `GhcrTagRevokeReconciler.isTerminalSuccess_outcomeOf`
-/

------------------------------------------------------------
-- Requests And Responses
------------------------------------------------------------

namespace EngenhoPromessa

/- The two methods that are used. -/
inductive HttpMethod where
  | post
  | delete
deriving DecidableEq, Repr

/- A request of a reconciler. -/
structure HttpRequest where
  method : HttpMethod
  url : String
  auth : Option BasicAuth
  body : Option Json
deriving Repr

/- The status, and the body or why it could not be parsed. -/
structure HttpResponse where
  status : Nat
  body : Except String Json

namespace HttpResponse

/- The status is one of a success. -/
def isSuccess (r : HttpResponse) : Bool :=
  200 ≤ r.status && r.status < 300

/- The status blames the request. -/
def isClientError (r : HttpResponse) : Bool :=
  400 ≤ r.status && r.status < 500

end HttpResponse

/- Why there is no response, with the text of the error. -/
inductive SendError where
  | timeout (text : String)
  | connect (text : String)
  | other (text : String)
deriving DecidableEq, Repr

/- Sends a request, or says why it could not. -/
abbrev HttpClient (m : Type → Type) :=
  HttpRequest → m (Except SendError HttpResponse)

/- How a status and a JSON value are printed. -/
class HttpText where
  status : Nat → String
  json : Json → String

namespace SendError

/- A call that timed out or found no one may be retried. -/
def outcome
    {R : Type}
    (call : String) : SendError → ReconcilerOutcome R
| .timeout text => .failed (.transient (call ++ ": " ++ text))
| .connect text => .failed (.transient (call ++ ": " ++ text))
| .other text => .failed (.internal (call ++ ": " ++ text))

end SendError

/- A request that fails, or the response to it. -/
def outcomeOfSent
    {R : Type}
    (call : String)
    (outcomeOf : HttpResponse → ReconcilerOutcome R) :
    Except SendError HttpResponse → ReconcilerOutcome R
| .error e => e.outcome call
| .ok response => outcomeOf response

end EngenhoPromessa

------------------------------------------------------------
-- Transitions At The Ledger
------------------------------------------------------------

namespace EngenhoPromessa

/- What an admission has answered. -/
structure CartorioAdmitReceipt where
  transition : String
  url : String
  status : Nat
  response : Json
deriving Repr

namespace CartorioAdmitReceipt

/- A receipt as it is answered. -/
def toValue (r : CartorioAdmitReceipt) : Json :=
  .obj
    [("transition", .str r.transition),
      ("url", .str r.url),
      ("status", .ofInt r.status),
      ("response", r.response)]

end CartorioAdmitReceipt

/- Where a transition is posted to. -/
def CartorioAdmitSpec.url
    (baseUrl : String)
    (spec : CartorioAdmitSpec) : String :=
  Str.trimEndMatches '/' baseUrl ++ spec.transition.path

/- Where cartorio is, and what sends. -/
structure CartorioAdmitReconciler (m : Type → Type) where
  baseUrl : String
  http : HttpClient m

namespace CartorioAdmitReconciler

variable {m : Type → Type} [Monad m] [HttpText]

/- The address of a transition. -/
def url
    (self : CartorioAdmitReconciler m)
    (spec : CartorioAdmitSpec) : String :=
  spec.url self.baseUrl

/- The call as its errors name it. -/
def call
    (self : CartorioAdmitReconciler m)
    (spec : CartorioAdmitSpec) : String :=
  "cartorio " ++ spec.transition.label ++ " " ++ self.url spec

/- The request for a transition. -/
def request
    (self : CartorioAdmitReconciler m)
    (spec : CartorioAdmitSpec) : HttpRequest where
  method := .post
  url := self.url spec
  auth := none
  body := some spec.transition.body

/- The body, or the error of reading it in its place. -/
def bodyOf (response : HttpResponse) : Json :=
  match response.body with
  | .ok body => body
  | .error e => .obj [("_body_parse_error", .str e)]

/- A conflict counts as done, whatever the transition. -/
def outcomeOf
    (self : CartorioAdmitReconciler m)
    (spec : CartorioAdmitSpec)
    (response : HttpResponse) :
    ReconcilerOutcome CartorioAdmitReceipt :=
  let body := bodyOf response
  let detail :=
    self.call spec ++ " → " ++
      HttpText.status response.status ++ ": " ++
      HttpText.json body
  if response.status = 409 then
    .alreadyConverged
  else if response.isSuccess then
    .applied
      { transition := spec.transition.label
        url := self.url spec
        status := response.status
        response := body }
  else if response.isClientError then
    .failed (.substrateRefused detail)
  else
    .failed (.transient detail)

/- One request, and what comes of it. -/
def act
    (self : CartorioAdmitReconciler m)
    (spec : CartorioAdmitSpec) :
    m (ReconcilerOutcome CartorioAdmitReceipt) := do
  let response ← self.http (self.request spec)
  return outcomeOfSent (self.call spec) (self.outcomeOf spec)
    response

omit [Monad m] in
/- The statuses that count as success. -/
theorem isTerminalSuccess_outcomeOf
    (self : CartorioAdmitReconciler m)
    (spec : CartorioAdmitSpec)
    (response : HttpResponse) :
    (self.outcomeOf spec response).isTerminalSuccess = true ↔
      response.status = 409 ∨ response.isSuccess = true := by
  unfold outcomeOf
  dsimp only
  by_cases hConflict : response.status = 409
  · simp [hConflict, ReconcilerOutcome.isTerminalSuccess]
  · cases hSuccess : response.isSuccess with
    | true =>
        simp [hConflict, ReconcilerOutcome.isTerminalSuccess]
    | false =>
        cases hClient : response.isClientError with
        | true =>
            simp [hConflict,
              ReconcilerOutcome.isTerminalSuccess]
        | false =>
            simp [hConflict,
              ReconcilerOutcome.isTerminalSuccess]

end CartorioAdmitReconciler

end EngenhoPromessa

------------------------------------------------------------
-- Deletions From The Registry
------------------------------------------------------------

namespace EngenhoPromessa

/- What a revocation has answered. -/
structure GhcrTagRevokeReceipt where
  url : String
  repository : String
  reference : String
  status : Nat
  deleted : Bool
  response : Option Json
deriving Repr

namespace GhcrTagRevokeReceipt

/- A receipt as it is answered. -/
def toValue (r : GhcrTagRevokeReceipt) : Json :=
  .obj
    [("url", .str r.url),
      ("repository", .str r.repository),
      ("reference", .str r.reference),
      ("status", .ofInt r.status),
      ("deleted", .bool r.deleted),
      ("response", r.response.getD .null)]

end GhcrTagRevokeReceipt

/- The manifest route of a reference. -/
def GhcrTagRevokeSpec.url
    (baseUrl : String)
    (spec : GhcrTagRevokeSpec) : String :=
  Str.trimEndMatches '/' baseUrl ++ "/v2/" ++
    spec.repository ++ "/manifests/" ++ spec.reference

/- Where the registry is, the login, and what sends. -/
structure GhcrTagRevokeReconciler (m : Type → Type) where
  baseUrl : String
  auth : Option BasicAuth
  http : HttpClient m

namespace GhcrTagRevokeReconciler

variable {m : Type → Type} [Monad m] [HttpText]

/- The address of a manifest. -/
def url
    (self : GhcrTagRevokeReconciler m)
    (spec : GhcrTagRevokeSpec) : String :=
  spec.url self.baseUrl

/- The call, as errors name it. -/
def call
    (self : GhcrTagRevokeReconciler m)
    (spec : GhcrTagRevokeSpec) : String :=
  "zot delete " ++ self.url spec

/- The request that deletes a manifest. -/
def request
    (self : GhcrTagRevokeReconciler m)
    (spec : GhcrTagRevokeSpec) : HttpRequest where
  method := .delete
  url := self.url spec
  auth := self.auth
  body := none

/- A reference that is absent already counts as done. -/
def outcomeOf
    (self : GhcrTagRevokeReconciler m)
    (spec : GhcrTagRevokeSpec)
    (response : HttpResponse) :
    ReconcilerOutcome GhcrTagRevokeReceipt :=
  let body := response.body.toOption
  let answer :=
    self.call spec ++ " → " ++
      HttpText.status response.status
  if response.isSuccess then
    .applied
      { url := self.url spec
        repository := spec.repository
        reference := spec.reference
        status := response.status
        deleted := true
        response := body }
  else if response.status = 404 then
    .alreadyConverged
  else if response.isClientError then
    .failed (.substrateRefused
      (answer ++ ": " ++ (body.map HttpText.json).getD ""))
  else
    .failed (.transient answer)

/- One request, and what comes of it. -/
def act
    (self : GhcrTagRevokeReconciler m)
    (spec : GhcrTagRevokeSpec) :
    m (ReconcilerOutcome GhcrTagRevokeReceipt) := do
  let response ← self.http (self.request spec)
  return outcomeOfSent (self.call spec) (self.outcomeOf spec)
    response

omit [Monad m] in
/- A deletion counts as done if the manifest is gone. -/
theorem isTerminalSuccess_outcomeOf
    (self : GhcrTagRevokeReconciler m)
    (spec : GhcrTagRevokeSpec)
    (response : HttpResponse) :
    (self.outcomeOf spec response).isTerminalSuccess = true ↔
      response.isSuccess = true ∨ response.status = 404 := by
  unfold outcomeOf
  dsimp only
  cases hSuccess : response.isSuccess with
  | true =>
      simp [ReconcilerOutcome.isTerminalSuccess]
  | false =>
      by_cases hMissing : response.status = 404
      · simp [hMissing, ReconcilerOutcome.isTerminalSuccess]
      · cases hClient : response.isClientError with
        | true =>
            simp [hMissing,
              ReconcilerOutcome.isTerminalSuccess]
        | false =>
            simp [hMissing,
              ReconcilerOutcome.isTerminalSuccess]

end GhcrTagRevokeReconciler

end EngenhoPromessa
