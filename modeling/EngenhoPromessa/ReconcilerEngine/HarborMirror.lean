import EngenhoPromessa.ReconcilerEngine.Executor
import EngenhoPromessa.Text.Str

/-
  The harbor mirror reconciler: it copies a digest from the
  private registry to the third party's, if its flag is on.

  The copy itself is done by a runner, which is left to the
  monad; everything around it is modelled.

  Key definitions include:
    * `SkopeoCopyRequest`
    * `HarborMirrorReconciler.act`
    * `EngineConfig.harborMirror`
-/

------------------------------------------------------------
-- Requests And Receipts
------------------------------------------------------------

namespace EngenhoPromessa

/- Name and password for a registry. -/
structure BasicAuth where
  username : String
  password : String
deriving DecidableEq, Repr

/- A copy that skopeo is asked for. -/
structure SkopeoCopyRequest where
  sourceUrl : String
  targetUrl : String
  preserveDigests : Bool
  srcCreds : Option BasicAuth
  destCreds : Option BasicAuth
deriving DecidableEq, Repr

/- The digest that skopeo has reported. -/
structure SkopeoCopyOutcome where
  digest : String
deriving DecidableEq, Repr

/- The side-effect boundary of a copy. -/
abbrev SkopeoRunner (m : Type → Type) :=
  SkopeoCopyRequest →
    m (Except ReconcilerError SkopeoCopyOutcome)

/- What a mirror has done, and when. -/
structure HarborMirrorReceipt where
  sourceUrl : String
  targetUrl : String
  sourceDigest : String
  targetDigest : String
  bytesCopied : Nat
  copiedAt : DateTime
deriving DecidableEq, Repr

namespace HarborMirrorReceipt

/- A receipt as it is answered. -/
def toValue
    [Chrono]
    (r : HarborMirrorReceipt) : Json :=
  .obj
    [("source_url", .str r.sourceUrl),
      ("target_url", .str r.targetUrl),
      ("source_digest", .str r.sourceDigest),
      ("target_digest", .str r.targetDigest),
      ("bytes_copied", .ofInt r.bytesCopied),
      ("copied_at", .str (Chrono.serialize r.copiedAt))]

end HarborMirrorReceipt

end EngenhoPromessa

------------------------------------------------------------
-- The Reconciler
------------------------------------------------------------

namespace EngenhoPromessa

/- The flag that turns forwarding on. -/
def harborFlag : String := "gameWardenForwarding.enabled"

/- A registry's bare host, as skopeo's transport takes it. -/
def stripScheme (url : String) : String :=
  Str.trimStartMatches "http://"
    (Str.trimStartMatches "https://"
      (Str.trimEndMatches '/' url))

/- The name of an image, without what is before it. -/
def imageNameFor (sourceRepo : String) : String :=
  Str.afterLast '/' sourceRepo

/- The registries, their logins, and what copies. -/
structure HarborMirrorReconciler (m : Type → Type) where
  harborBaseUrl : String
  harborAuth : Option BasicAuth
  zotBaseUrl : String
  zotAuth : Option BasicAuth
  runner : SkopeoRunner m

namespace HarborMirrorReconciler

variable {m : Type → Type} [Monad m]

/- The image by its digest, in the source registry. -/
def sourceUrl
    (self : HarborMirrorReconciler m)
    (spec : HarborMirrorSpec) : String :=
  "docker://" ++ stripScheme self.zotBaseUrl ++ "/" ++
    spec.sourceRepo ++ "@" ++ spec.sourceDigest

/- The same digest in the project of the target. -/
def targetUrl
    (self : HarborMirrorReconciler m)
    (spec : HarborMirrorSpec) : String :=
  "docker://" ++ stripScheme self.harborBaseUrl ++ "/" ++
    spec.targetProject ++ "/" ++
    imageNameFor spec.sourceRepo ++ "@" ++ spec.sourceDigest

/- The copy between the two. -/
def request
    (self : HarborMirrorReconciler m)
    (spec : HarborMirrorSpec) : SkopeoCopyRequest where
  sourceUrl := self.sourceUrl spec
  targetUrl := self.targetUrl spec
  preserveDigests := spec.preserveDigest
  srcCreds := self.zotAuth
  destCreds := self.harborAuth

/- Another digest than the one that was asked for. -/
def digestMismatch
    (self : HarborMirrorReconciler m)
    (spec : HarborMirrorSpec)
    (digest : String) : ReconcilerError :=
  .internal
    ("harbor-mirror: skopeo reported target digest " ++
      digest ++ " but expected " ++ spec.sourceDigest ++
      " (preserve-digests violated) — source=" ++
      self.sourceUrl spec ++ " target=" ++
      self.targetUrl spec)

/- The flag is looked at before anything else is done. -/
def act
    (self : HarborMirrorReconciler m)
    (now : m DateTime)
    (spec : HarborMirrorSpec) :
    m (ReconcilerOutcome HarborMirrorReceipt) := do
  if !spec.flagEnabled then
    return .flagGated harborFlag
  else
    match ← self.runner (self.request spec) with
    | .ok outcome =>
        if outcome.digest ≠ spec.sourceDigest then
          return .failed
            (self.digestMismatch spec outcome.digest)
        else
          let copiedAt ← now
          return .applied
            { sourceUrl := self.sourceUrl spec
              targetUrl := self.targetUrl spec
              sourceDigest := spec.sourceDigest
              targetDigest := outcome.digest
              bytesCopied := 0
              copiedAt := copiedAt }
    | .error error => return .failed error

end HarborMirrorReconciler

/- The part of the boot-time configuration a mirror uses. -/
structure EngineConfig where
  zotBaseUrl : String
  zotBasicAuth : Option BasicAuth
  harborBaseUrl : String
  harborBasicAuth : Option BasicAuth

namespace EngineConfig

/- The reconciler as the engine is configured. -/
def harborMirror
    {m : Type → Type}
    (config : EngineConfig)
    (runner : SkopeoRunner m) : HarborMirrorReconciler m where
  harborBaseUrl := config.harborBaseUrl
  harborAuth := config.harborBasicAuth
  zotBaseUrl := config.zotBaseUrl
  zotAuth := config.zotBasicAuth
  runner := runner

end EngineConfig

end EngenhoPromessa
