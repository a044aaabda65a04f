import EngenhoPromessa.PromessaTypes.Action
import Mathlib.Control.Basic

/-
  The typed specs of the default reconcilers and how they
  are read from JSON. No field has a default, so a spec that
  lacks one is refused.

  Key definitions include:
    * `CartorioTransition`
    * `CartorioAdmitSpec.fromValue`
    * `GhcrTagRevokeSpec.fromValue`
    * `HarborMirrorSpec.fromValue`
-/

------------------------------------------------------------
-- Cartorio Admit
------------------------------------------------------------

namespace EngenhoPromessa

/- What cartorio is asked to do with an artifact. -/
inductive CartorioTransition where
  | admitArtifact (body : Json)
  | revoke (artifactId : String) (body : Json)
  | quarantine (artifactId : String) (body : Json)
  | reactivate (artifactId : String) (body : Json)
  | supersede (artifactId : String) (body : Json)
deriving Repr

namespace CartorioTransition

/- The path of a transition. -/
def path : CartorioTransition → String
| .admitArtifact _ => "/api/v1/artifacts"
| .revoke id _ => "/api/v1/artifacts/" ++ id ++ "/revoke"
| .quarantine id _ =>
    "/api/v1/artifacts/" ++ id ++ "/quarantine"
| .reactivate id _ =>
    "/api/v1/artifacts/" ++ id ++ "/reactivate"
| .supersede id _ =>
    "/api/v1/artifacts/" ++ id ++ "/supersede"

/- The body of a transition. -/
def body : CartorioTransition → Json
| .admitArtifact body => body
| .revoke _ body => body
| .quarantine _ body => body
| .reactivate _ body => body
| .supersede _ body => body

/- The name of a transition, as errors have it. -/
def label : CartorioTransition → String
| .admitArtifact _ => "admit"
| .revoke _ _ => "revoke"
| .quarantine _ _ => "quarantine"
| .reactivate _ _ => "reactivate"
| .supersede _ _ => "supersede"

/- The fields of every variant but the admission. -/
def artifactFields
    (transition : String → Json → CartorioTransition)
    (content : Json) : Option CartorioTransition := do
  match ← content.structValues ["artifact_id", "body"] with
  | [artifactId, body] =>
      return transition (← artifactId.asStr) body
  | _ => none

/- The variant a tag names, read from the other content. -/
def fromTagged
    (tag : String)
    (content : Json) : Option CartorioTransition :=
  match tag with
  | "admit" => do
      match ← content.structValues ["body"] with
      | [body] => return .admitArtifact body
      | _ => none
  | "revoke" => artifactFields .revoke content
  | "quarantine" => artifactFields .quarantine content
  | "reactivate" => artifactFields .reactivate content
  | "supersede" => artifactFields .supersede content
  | _ => none

/-
  The tag is the member `kind`, or the first element of an
  array whose other elements are the fields.
-/
def fromValue : Json → Option CartorioTransition
| .obj ms => do
    let tag ← (← ms.lookup "kind").asStr
    fromTagged tag (.obj (Json.removeMember "kind" ms))
| .arr (tag :: fields) => do
    fromTagged (← tag.asStr) (.arr fields)
| _ => none

end CartorioTransition

/- The spec of an admission. -/
structure CartorioAdmitSpec where
  transition : CartorioTransition
deriving Repr

namespace CartorioAdmitSpec

/- The transition must be there. -/
def fromValue (j : Json) : Option CartorioAdmitSpec := do
  match ← j.structValues ["transition"] with
  | [transition] =>
      return ⟨← CartorioTransition.fromValue transition⟩
  | _ => none

end CartorioAdmitSpec

end EngenhoPromessa

------------------------------------------------------------
-- Ghcr Tag Revoke
------------------------------------------------------------

namespace EngenhoPromessa

/- The spec of a revocation. -/
structure GhcrTagRevokeSpec where
  repository : String
  reference : String
deriving DecidableEq, Repr

namespace GhcrTagRevokeSpec

/- Repository and reference must be there. -/
def fromValue (j : Json) : Option GhcrTagRevokeSpec := do
  match ← j.structValues ["repository", "reference"] with
  | [repository, reference] =>
      return ⟨← repository.asStr, ← reference.asStr⟩
  | _ => none

end GhcrTagRevokeSpec

end EngenhoPromessa

------------------------------------------------------------
-- Harbor Mirror
------------------------------------------------------------

namespace EngenhoPromessa

/- The spec of a mirror. -/
structure HarborMirrorSpec where
  sourceRepo : String
  sourceDigest : String
  targetProject : String
  preserveDigest : Bool
  flagEnabled : Bool
deriving DecidableEq, Repr

namespace HarborMirrorSpec

/- All of the members must be there. -/
def fromValue (j : Json) : Option HarborMirrorSpec := do
  match ← j.structValues
      ["source_repo", "source_digest", "target_project",
        "preserve_digest", "flag_enabled"] with
  | [sourceRepo, sourceDigest, targetProject,
      preserveDigest, flagEnabled] =>
      return ⟨← sourceRepo.asStr, ← sourceDigest.asStr,
        ← targetProject.asStr, ← preserveDigest.asBool,
        ← flagEnabled.asBool⟩
  | _ => none

end HarborMirrorSpec

end EngenhoPromessa

------------------------------------------------------------
-- Flux Commit
------------------------------------------------------------

namespace EngenhoPromessa

/- What is to be committed, and where. -/
structure FluxCommitSpec where
  repoUrl : String
  branch : String
  path : String
  patch : Json
  commitMessage : Option String
deriving Repr

namespace FluxCommitSpec

/- The branch that is taken without another one. -/
def defaultBranch : String := "main"

end FluxCommitSpec

end EngenhoPromessa
