import EngenhoPromessa.Crds.ImageValidation
import EngenhoPromessa.PrivatePush.Orchestrator

/-
  The submissions of `private-push`: a validation for each
  image pushed before, or for each image found in the
  catalog of the registry.

  Key definitions include:
    * `PrivatePush.buildCr`
    * `PrivatePush.applyPushed`
    * `PrivatePush.resolveLatestDigest`
    * `PrivatePush.submitValidations`

  Key theorems include:
    * `PrivatePush.emits_applied_applyCr`
    * `PrivatePush.emits_failed_applyCr`
-/

------------------------------------------------------------
-- Validations
------------------------------------------------------------

namespace EngenhoPromessa

namespace PrivatePush

/- The options of a submission. -/
structure SubmitArgs where
  zotEndpoint : String
  «namespace» : String
  promessaRef : String
  pack : String
  services : List String
  dryRun : Bool
deriving DecidableEq, Repr

/- A validation as it is applied, its status not yet there. -/
structure SubmittedCr where
  name : String
  «namespace» : String
  annotations : List (String × String)
  spec : AkeylessImageValidationSpec
deriving DecidableEq, Repr

/- The validation of an image, named by its digest. -/
def buildCr
    (args : SubmitArgs)
    (service repo digest : String) : SubmittedCr :=
  let suffix := String.ofList
    ((Str.trimStartMatches "sha256:" digest).toList.take 12)
  { name := repo ++ "-" ++ suffix
    «namespace» := args.namespace
    annotations := []
    spec :=
      { imageDigest := digest
        imageRepo := repo
        service := service
        promessaRef := args.promessaRef
        pack := args.pack
        keepFor := some "P30D" } }

/- A validation is stored, refused, or stored unawares. -/
structure ApplyFault where
  error : String
  stored : Bool
deriving DecidableEq, Repr

/- What the submissions leave outside. -/
structure Submissions where
  applied : List SubmittedCr
  failed : List SubmittedCr
  printed : List SubmittedCr
deriving DecidableEq, Repr

/- Submitting, with a log of what was sent. -/
abbrev Submit (α : Type) := Fallible Submissions Chain α

open Fallible

/- Applies a validation; a failed call may have stored it. -/
def applyCr
    (fault : Option ApplyFault)
    (cr : SubmittedCr) : Submit Unit :=
  ofExec (fun log =>
    match fault with
    | none =>
        (.ok (), { log with applied := log.applied ++ [cr] })
    | some f =>
        (.error
          ["apply AkeylessImageValidation " ++ cr.name,
            f.error],
          { log with
            applied :=
              if f.stored then log.applied ++ [cr]
              else log.applied
            failed := log.failed ++ [cr] }))

/- Prints a validation instead of applying it. -/
def printCr (cr : SubmittedCr) : Submit Unit :=
  ofExec (fun log =>
    (.ok (), { log with printed := log.printed ++ [cr] }))

/- `Client::try_default`, which a dry run does without. -/
def connect
    (args : SubmitArgs)
    (client : Option String) : Except Chain Unit :=
  if args.dryRun then
    .ok ()
  else
    match client with
    | none => .ok ()
    | some e => .error ["kube::Client::try_default", e]

/- Prints it in a dry run, and applies it else. -/
def submitCr
    (args : SubmitArgs)
    (fault : Option ApplyFault)
    (cr : SubmittedCr) : Submit Unit :=
  if args.dryRun then printCr cr else applyCr fault cr

/- The validation of an image pushed before. -/
def pushedCr
    (args : SubmitArgs)
    (attestationMode : String)
    (img : PushedImage) : SubmittedCr :=
  { buildCr args img.service img.repo img.digest with
    annotations :=
      [("validation.pleme.io/attestation-mode",
        attestationMode)] }

/- Submits what was pushed, up to the first failure. -/
def applyPushed
    (args : SubmitArgs)
    (attestationMode : String)
    (client : Option String)
    (apply : Nat → Option ApplyFault)
    (pushed : List PushedImage) : Submit Unit :=
  if pushed.isEmpty then
    ofResult
      (.error ["no images were pushed — nothing to submit"])
  else do
    ofResult (connect args client)
    pushed.zipIdx.forM (fun p =>
      submitCr args (apply p.2)
        (pushedCr args attestationMode p.1))

end PrivatePush

end EngenhoPromessa

------------------------------------------------------------
-- The Registry
------------------------------------------------------------

namespace EngenhoPromessa

namespace PrivatePush

/-
  An answer of the registry: its status, the digest header
  as text, the body as JSON, and what is said of a body that
  is not what was asked for.
-/
structure HttpResponse where
  status : Nat
  reason : String
  digest : Option (Except String String)
  body : Except String Json
  mismatch : String

/- A request is answered, or it could not be sent. -/
abbrev Answer := Except String HttpResponse

namespace HttpResponse

/- The status is one of a success. -/
def isSuccess (r : HttpResponse) : Bool :=
  200 ≤ r.status && r.status < 300

/- How a status is shown in an error. -/
def statusText (r : HttpResponse) : String :=
  toString r.status ++ " " ++ r.reason

/- `r.json()`, for a type with this reader. -/
def json
    {α : Type}
    (fromValue : Json → Option α)
    (what : String)
    (r : HttpResponse) : Except Chain α :=
  match r.body with
  | .error e => .error [what, e]
  | .ok j =>
      match fromValue j with
      | none => .error [what, r.mismatch]
      | some a => .ok a

end HttpResponse

/-
  A struct with one field, a list of texts; the text of the
  body may not give the field twice.
-/
def textsField
    (field : String)
    (j : Json) : Option (List String) := do
  if (j.members.filter (fun m => m.1 = field)).length > 1 then
    none
  else
    match ← j.structValues [field] with
    | [value] => (← value.asArray).mapM Json.asStr
    | _ => none

/- `CatalogResp`. -/
def catalogFromValue : Json → Option (List String) :=
  textsField "repositories"

/- `TagsResp`. -/
def tagsFromValue : Json → Option (List String) :=
  textsField "tags"

/- The answer, or why there is none. -/
def sent
    (request : String) : Answer → Except Chain HttpResponse
| .error e => .error [request, e]
| .ok r => .ok r

/- The repositories that the registry lists. -/
def fetchCatalog
    (args : SubmitArgs)
    (answer : Answer) : Except Chain (List String) := do
  let url :=
    "http://" ++ args.zotEndpoint ++ "/v2/_catalog?n=200"
  let r ← sent ("GET " ++ url) answer
  if !r.isSuccess then
    .error ["zot catalog: " ++ url ++ " " ++ r.statusText]
  else
    r.json catalogFromValue "parse /v2/_catalog json"

/- The answers to the requests about one repository. -/
structure RepoAnswers where
  tags : Answer
  manifest : Answer

/- The digest header of a manifest. -/
def digestHeader
    (murl : String)
    (r : HttpResponse) : Except Chain String :=
  if !r.isSuccess then
    .error ["zot manifest head: " ++ murl ++ " " ++
      r.statusText]
  else
    match r.digest with
    | none =>
        .error ["no docker-content-digest header from " ++
          murl]
    | some (.error e) => .error ["digest header non-ascii", e]
    | some (.ok digest) => .ok digest

/- The status of the answer with the tags is not looked at. -/
def resolveLatestDigest
    (args : SubmitArgs)
    (answers : RepoAnswers)
    (repo : String) : Except Chain (String × String) := do
  let base :=
    "http://" ++ args.zotEndpoint ++ "/v2/" ++ repo
  let resp ← sent ("GET " ++ base ++ "/tags/list")
    answers.tags
  let tags ← resp.json tagsFromValue "parse tags list"
  match tags.getLast? with
  | none => .error ["repo " ++ repo ++ " has no tags"]
  | some tag =>
      let murl := base ++ "/manifests/" ++ tag
      let head ← sent ("HEAD " ++ murl) answers.manifest
      let digest ← digestHeader murl head
      return (tag, digest)

end PrivatePush

end EngenhoPromessa

------------------------------------------------------------
-- Submitting What Is In The Catalog
------------------------------------------------------------

namespace EngenhoPromessa

namespace PrivatePush

open Fallible

/- What a run meets outside. -/
structure SubmitEnv where
  http : Option String
  catalog : Answer
  repos : Nat → RepoAnswers
  client : Option String
  apply : Nat → Option ApplyFault

/- `http_client`. -/
def httpClient (http : Option String) : Except Chain Unit :=
  match http with
  | none => .ok ()
  | some e => .error ["build reqwest client", e]

/- The repositories of the catalog that are submitted. -/
def akeylessRepos
    (args : SubmitArgs)
    (catalog : List String) : List String :=
  (catalog.filter (fun r =>
    Str.startsWith "akeyless-" r)).filter (fun r =>
      args.services.isEmpty ||
        args.services.any (fun s => r = "akeyless-" ++ s))

/- The service whose image a repository has. -/
def serviceOf (repo : String) : String :=
  (Str.stripPrefix "akeyless-" repo).getD repo

/- A repository that cannot be resolved is only logged. -/
def submitRepo
    (args : SubmitArgs)
    (env : SubmitEnv)
    (p : String × Nat) : Submit Unit :=
  match resolveLatestDigest args (env.repos p.2) p.1 with
  | .error _ => return ()
  | .ok (_, digest) =>
      submitCr args (env.apply p.2)
        (buildCr args (serviceOf p.1) p.1 digest)

/- `submit::run`. -/
def submitValidations
    (args : SubmitArgs)
    (env : SubmitEnv) : Submit Unit := do
  ofResult (httpClient env.http)
  let catalog ← ofResult (fetchCatalog args env.catalog)
  let repos := akeylessRepos args catalog
  ofResult
    (if repos.isEmpty then
      .error
        ["Zot catalog has no akeyless-* repos — run " ++
          "`private-push akeyless` first"]
    else
      .ok ())
  ofResult (connect args env.client)
  repos.zipIdx.forM (submitRepo args env)

end PrivatePush

end EngenhoPromessa

------------------------------------------------------------
-- What A Submission Leaves
------------------------------------------------------------

namespace EngenhoPromessa

namespace PrivatePush

open Fallible

/- One of the validations is of this image. -/
def PinnedIn
    (crs : List SubmittedCr)
    (repo digest : String) : Prop :=
  ∃ cr ∈ crs,
    cr.spec.imageRepo = repo ∧ cr.spec.imageDigest = digest

/- What a submission stores. -/
theorem emits_applied_applyCr
    (fault : Option ApplyFault)
    (cr : SubmittedCr) :
    Emits Submissions.applied (applyCr fault cr)
      (if fault.isNone then some () else none)
      (if fault.all ApplyFault.stored then [cr] else []) := by
  intro log
  rcases fault with _ | ⟨e, stored⟩
  · exact ⟨rfl, rfl⟩
  · cases stored with
    | true => exact ⟨rfl, rfl⟩
    | false => exact ⟨rfl, (List.append_nil _).symm⟩

/- What a submission fails with. -/
theorem emits_failed_applyCr
    (fault : Option ApplyFault)
    (cr : SubmittedCr) :
    Emits Submissions.failed (applyCr fault cr)
      (if fault.isNone then some () else none)
      (if fault.isSome then [cr] else []) := by
  intro log
  rcases fault with _ | ⟨e, stored⟩
  · exact ⟨rfl, (List.append_nil _).symm⟩
  · exact ⟨rfl, rfl⟩

/- Every validation tried is applied, or it failed. -/
theorem applied_or_failed (fault : Option ApplyFault) :
    fault.all ApplyFault.stored = true ∨
      fault.isSome = true := by
  rcases fault with _ | _
  · exact Or.inl rfl
  · exact Or.inr rfl

end PrivatePush

end EngenhoPromessa
