import EngenhoPromessa.Controllers.ImageValidation

/-
  The two rewrites of an image reference to the mirror.

  The image under test and the images of the scanners are
  both pulled from `SCANNER_REGISTRY_MIRROR`. The scanners'
  rewrite drops the registry host of the reference and takes
  an empty variable for a mirror; that of the image under
  test does neither.

  Key definitions include:
    * `Catalog.HasRegistryHost`
    * `ImageValidation.MirrorsAlike`

  Key theorems include:
    * `Catalog.mirrorImage_of_host`
    * `ImageValidation.mirrorsAlike_iff`
-/

------------------------------------------------------------
-- Registry Hosts
------------------------------------------------------------

namespace EngenhoPromessa

namespace Catalog

/- What the scanners' rewrite takes for a registry host. -/
def IsRegistryHost (segment : String) : Prop :=
  '.' ∈ segment.toList ∨ ':' ∈ segment.toList ∨
    segment = "localhost"

/- The reference starts with a registry host and a slash. -/
def HasRegistryHost (reference : String) : Prop :=
  ∃ host path : String,
    reference.toList = host.toList ++ '/' :: path.toList ∧
      '/' ∉ host.toList ∧ IsRegistryHost host

/-
  The source's test of a first segment says what a registry
  host is.
-/
theorem isRegistryHost_iff (segment : String) :
    (segment.toList.contains '.' ||
        segment.toList.contains ':' ||
        segment == "localhost") = true ↔
      IsRegistryHost segment := by
  simp [IsRegistryHost, or_assoc]

/- The host gives way to the mirror. -/
theorem mirrorImage_of_host
    {reference host path : String}
    (hText :
      reference.toList = host.toList ++ '/' :: path.toList)
    (hNot : '/' ∉ host.toList)
    (hHost : IsRegistryHost host)
    (mirror : String) :
    mirrorImage reference (some mirror) =
      Str.trimEndMatches '/' mirror ++ "/" ++ path := by
  rw [mirrorImage, Str.splitOnce_of_toList_eq hText hNot]
  simp only [(isRegistryHost_iff host).mpr hHost, if_true]

/- A reference without a host is kept whole. -/
theorem mirrorImage_of_no_host
    {reference : String}
    (hNone : ¬ HasRegistryHost reference)
    (mirror : String) :
    mirrorImage reference (some mirror) =
      Str.trimEndMatches '/' mirror ++ "/" ++ reference := by
  rw [mirrorImage]
  by_cases hSlash : '/' ∈ reference.toList
  · rcases Str.exists_parts_of_mem hSlash with
      ⟨host, path, hText, hNot⟩
    have hPlain : ¬ IsRegistryHost host :=
      fun hHost => hNone ⟨host, path, hText, hNot, hHost⟩
    rw [← isRegistryHost_iff] at hPlain
    rw [Str.splitOnce_of_toList_eq hText hNot]
    simp only [hPlain]
    rfl
  · rw [Str.splitOnce_of_not_mem hSlash]

/- Behind the host there is less than the reference. -/
theorem ne_path_of_host
    {reference host path : String}
    (hText :
      reference.toList = host.toList ++ '/' :: path.toList) :
    reference ≠ path := by
  rintro rfl
  have hLength := congrArg List.length hText
  simp only [List.length_append, List.length_cons] at hLength
  omega

/- A slash before the rest of a reference is not it. -/
theorem slash_append_ne
    {reference host path : String}
    (hText :
      reference.toList = host.toList ++ '/' :: path.toList)
    (hHost : IsRegistryHost host) :
    reference ≠ "/" ++ path := by
  intro hEq
  have hEmpty : host.toList = [] := by
    rw [hEq] at hText
    have hLength := congrArg List.length hText
    simp at hLength
    exact List.length_eq_zero_iff.mp (by simpa using hLength)
  rcases hHost with hDot | hColon | hLocal
  · simp [hEmpty] at hDot
  · simp [hEmpty] at hColon
  · subst hLocal
    exact absurd hEmpty (by decide)

/- With an empty variable a slash is put before it. -/
theorem mirrorImage_empty_ne (reference : String) :
    mirrorImage reference (some "") ≠ reference := by
  have hTrim : Str.trimEndMatches '/' "" = "" := by decide
  intro hEq
  by_cases hHost : HasRegistryHost reference
  · rcases hHost with ⟨host, path, hText, hNot, hHost⟩
    rw [mirrorImage_of_host hText hNot hHost, hTrim] at hEq
    exact slash_append_ne hText hHost (by simpa using hEq.symm)
  · rw [mirrorImage_of_no_host hHost, hTrim] at hEq
    have hLength := congrArg String.length hEq
    simp at hLength

end Catalog

end EngenhoPromessa

------------------------------------------------------------
-- When The Rewrites Agree
------------------------------------------------------------

namespace EngenhoPromessa

namespace ImageValidation

open Catalog

/-
  An image is looked up where the scanners' rewrite, given
  the variable as it stands, looks up the same reference.
-/
def MirrorsAlike (env : Env) (repo digest : String) : Prop :=
  pullableImageRef env repo digest =
    mirrorImage (repo ++ "@" ++ digest)
      (env "SCANNER_REGISTRY_MIRROR")

/- With a mirror set, the reference goes through it. -/
theorem pullableImageRef_of_mirror
    {env : Env}
    {mirror : String}
    (hMirror : env "SCANNER_REGISTRY_MIRROR" = some mirror)
    (hSome : mirror ≠ "")
    (repo digest : String) :
    pullableImageRef env repo digest =
      Str.trimEndMatches '/' mirror ++ "/" ++
        (repo ++ "@" ++ digest) := by
  have hNonempty :
      env.nonempty "SCANNER_REGISTRY_MIRROR" = some mirror := by
    simp [Env.nonempty, hMirror, Option.filter, hSome]
  simp only [pullableImageRef, hNonempty, String.append_assoc]

/- With none set, or an empty one, it does not. -/
theorem pullableImageRef_of_no_mirror
    {env : Env}
    (hNone :
      env "SCANNER_REGISTRY_MIRROR" = none ∨
        env "SCANNER_REGISTRY_MIRROR" = some "")
    (repo digest : String) :
    pullableImageRef env repo digest = repo ++ "@" ++ digest := by
  have hNonempty :
      env.nonempty "SCANNER_REGISTRY_MIRROR" = none := by
    rcases hNone with hNone | hEmpty
    · simp [Env.nonempty, hNone]
    · simp [Env.nonempty, hEmpty, Option.filter]
  simp only [pullableImageRef, hNonempty]

/-
  The rewrites agree without a mirror, and with one that is
  not empty on references that name no registry host.
-/
theorem mirrorsAlike_iff
    (env : Env)
    (repo digest : String) :
    MirrorsAlike env repo digest ↔
      ∀ mirror,
        env "SCANNER_REGISTRY_MIRROR" = some mirror →
          mirror ≠ "" ∧
            ¬ HasRegistryHost (repo ++ "@" ++ digest) := by
  unfold MirrorsAlike
  cases hEnv : env "SCANNER_REGISTRY_MIRROR" with
  | none =>
      rw [pullableImageRef_of_no_mirror (Or.inl hEnv)]
      simp [mirrorImage]
  | some mirror =>
      by_cases hEmpty : mirror = ""
      · subst hEmpty
        rw [pullableImageRef_of_no_mirror (Or.inr hEnv)]
        refine iff_of_false
          (mirrorImage_empty_ne _).symm ?_
        intro hAll
        exact (hAll "" rfl).1 rfl
      · rw [pullableImageRef_of_mirror hEnv hEmpty]
        by_cases hHost : HasRegistryHost (repo ++ "@" ++ digest)
        · refine iff_of_false ?_ ?_
          · rcases hHost with ⟨host, path, hText, hNot, hHost⟩
            rw [mirrorImage_of_host hText hNot hHost]
            intro hEq
            exact ne_path_of_host hText
              ((String.append_right_inj _).mp hEq)
          · intro hAll
            exact (hAll mirror rfl).2 hHost
        · rw [mirrorImage_of_no_host hHost]
          refine iff_of_true rfl ?_
          rintro _ ⟨rfl⟩
          exact ⟨hEmpty, hHost⟩

/- A documented repository with the mirror of the cluster. -/
theorem not_mirrorsAlike_ghcr :
    ¬ MirrorsAlike
      (fun _ => some "zot.zot-system.svc.cluster.local:5000")
      "ghcr.io/akeylesslabs/akeyless-auth" "sha256:abc123" := by
  unfold MirrorsAlike
  decide

end ImageValidation

end EngenhoPromessa
