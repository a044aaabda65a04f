import EngenhoPromessa.Collections.Cuts
import EngenhoPromessa.Collections.Upserts
import EngenhoPromessa.Controllers.Cluster
import EngenhoPromessa.PrivatePush.PushAndSubmit
import EngenhoPromessa.PrivatePush.SubmitValidations

/-
  The names of submitted validations, over any number of
  `push-and-submit` and `submit-validations` runs.

  A name is the repository, a hyphen and the first twelve
  characters of the digest. A forced apply replaces the spec
  of whatever has the name.

  Key definitions include:
    * `PrivatePush.LookAlike`
    * `PrivatePush.Invocation`
    * `PrivatePush.clusterAfter`
    * `PrivatePush.KeepsApart`

  Key theorems include:
    * `PrivatePush.crName_eq_iff`
    * `PrivatePush.map_image_applied`
    * `PrivatePush.keepsApart_iff`
-/

------------------------------------------------------------
-- Names
------------------------------------------------------------

namespace EngenhoPromessa

namespace PrivatePush

/- A repository and a digest. -/
abbrev Image := String × String

/- The part of a digest that is in the name. -/
def crSuffix (digest : String) : String :=
  String.ofList
    ((Str.trimStartMatches "sha256:" digest).toList.take 12)

/-
  The repository goes on after the other one with a hyphen,
  and what it has more opens the digest of the other.
-/
def RunsInto (p q : Image) : Prop :=
  ∃ rest,
    p.1 = q.1 ++ "-" ++ rest ∧
      crSuffix q.2 = rest ++ "-" ++ crSuffix p.2

/-
  The images are of one repository and their digests begin
  alike, or one repository runs into the other's digest.
-/
def LookAlike (p q : Image) : Prop :=
  (p.1 = q.1 ∧ crSuffix p.2 = crSuffix q.2) ∨
    RunsInto p q ∨ RunsInto q p

/-
  The name of an image's validation: its repository and the
  start of its digest.
-/
def crName (p : Image) : String :=
  p.1 ++ "-" ++ crSuffix p.2

theorem name_buildCr
    (args : SubmitArgs)
    (service repo digest : String) :
    (buildCr args service repo digest).name =
      crName (repo, digest) := rfl

theorem hyphenated_toList (a b : String) :
    (a ++ "-" ++ b).toList = a.toList ++ '-' :: b.toList := by
  simp

/-
  The longer repository goes on with the shorter one's
  suffix.
-/
theorem runsInto_iff (p q : Image) :
    RunsInto p q ↔
      ∃ z,
        p.1.toList = q.1.toList ++ '-' :: z ∧
          (crSuffix q.2).toList =
            z ++ '-' :: (crSuffix p.2).toList := by
  constructor
  · rintro ⟨rest, hRepo, hDigest⟩
    refine ⟨rest.toList, ?_, ?_⟩
    · rw [hRepo, hyphenated_toList]
    · rw [hDigest, hyphenated_toList]
  · rintro ⟨z, hRepo, hDigest⟩
    refine ⟨String.ofList z, ?_, ?_⟩
    · rw [← String.toList_inj, hyphenated_toList, hRepo,
        String.toList_ofList]
    · rw [← String.toList_inj, hyphenated_toList, hDigest,
        String.toList_ofList]

/- Images have one name if they look alike. -/
theorem crName_eq_iff (p q : Image) :
    crName p = crName q ↔ LookAlike p q := by
  unfold crName LookAlike
  rw [← String.toList_inj, hyphenated_toList,
    hyphenated_toList, Cuts.append_cons_eq_iff,
    String.toList_inj, String.toList_inj, runsInto_iff,
    runsInto_iff]
  exact or_congr_right or_comm

end PrivatePush

end EngenhoPromessa

------------------------------------------------------------
-- What An Invocation Applies
------------------------------------------------------------

namespace EngenhoPromessa

namespace PrivatePush

open Fallible

/- A call of `apply_pushed` or `run`, and what it meets. -/
inductive Invocation where
  | applyPushed
      (args : SubmitArgs)
      (attestationMode : String)
      (client : Option String)
      (apply : Nat → Option ApplyFault)
      (pushed : List PushedImage)
  | run (args : SubmitArgs) (env : SubmitEnv)

namespace Invocation

/- What the invocation was asked for. -/
def args : Invocation → SubmitArgs
| .applyPushed args _ _ _ _ => args
| .run args _ => args

/- The submission that an invocation makes. -/
def submit : Invocation → Submit Unit
| .applyPushed args mode client apply pushed =>
    PrivatePush.applyPushed args mode client apply pushed
| .run args env => submitValidations args env

/- The validations the API server stored, in their order. -/
def applied (inv : Invocation) : List SubmittedCr :=
  (inv.submit.exec ⟨[], [], []⟩).2.applied

end Invocation

/- The image a validation is of. -/
def SubmittedCr.image (cr : SubmittedCr) : Image :=
  (cr.spec.imageRepo, cr.spec.imageDigest)

/- The image of a repository, if its digest could be found. -/
def resolvedImage
    (args : SubmitArgs)
    (env : SubmitEnv)
    (p : String × Nat) : Option Image :=
  (resolveLatestDigest args (env.repos p.2) p.1).toOption.map
    (fun found => (p.1, found.2))

/- What the loop of `run` gets to of these repositories. -/
def reachedOf
    (args : SubmitArgs)
    (env : SubmitEnv)
    (repos : List String) : List (String × Nat) :=
  if env.client.isNone then
    repos.zipIdx.upToFailure (goesOn args env)
  else
    []

/- What `run` gets to of the catalog, if it has one. -/
def reached
    (args : SubmitArgs)
    (env : SubmitEnv) : List (String × Nat) :=
  if env.http.isNone then
    reachedOf args env
      (akeylessRepos args
        ((fetchCatalog args env.catalog).toOption.getD []))
  else
    []

/-
  The cluster has stored it, though the call may have
  failed.
-/
def wasStored
    (apply : Nat → Option ApplyFault)
    (position : Nat) : Bool :=
  (apply position).all ApplyFault.stored

namespace Invocation

/- The images whose validations the API server stores. -/
def images : Invocation → List Image
| .applyPushed args _ client apply pushed =>
    if args.dryRun || client.isSome then
      []
    else
      ((triedOf apply pushed).filter (fun p =>
        wasStored apply p.2)).map (fun p =>
          (p.1.repo, p.1.digest))
| .run args env =>
    if args.dryRun then
      []
    else
      ((reached args env).filter (fun p =>
        wasStored env.apply p.2)).filterMap
          (resolvedImage args env)

end Invocation

/- A dry run only prints. -/
theorem keeps_submitCr_dry
    {args : SubmitArgs}
    (hDry : args.dryRun = true)
    (fault : Option ApplyFault)
    (cr : SubmittedCr) :
    Keeps Submissions.applied (submitCr args fault cr) := by
  rw [submitCr, if_pos hDry]
  exact fun _ => rfl

/- A dry run stores nothing. -/
theorem applied_of_dry
    {inv : Invocation}
    (hDry : inv.args.dryRun = true) :
    inv.applied = [] := by
  have hResult {α : Type} (r : Except Chain α) :
      Keeps Submissions.applied (ofResult r : Submit α) :=
    fun _ => rfl
  cases inv with
  | applyPushed args mode client apply pushed =>
      have hKeeps :
          Keeps Submissions.applied
            (applyPushed args mode client apply pushed) := by
        unfold applyPushed
        split
        · exact hResult _
        · refine keeps_bind (hResult _) fun _ => ?_
          exact keeps_forM
            (fun p => keeps_submitCr_dry hDry _ _) _
      exact hKeeps ⟨[], [], []⟩
  | run args env =>
      have hKeeps :
          Keeps Submissions.applied
            (submitValidations args env) := by
        refine keeps_bind (hResult _) fun _ => ?_
        refine keeps_bind (hResult _) fun catalog => ?_
        refine keeps_bind (hResult _) fun _ => ?_
        refine keeps_bind (hResult _) fun _ => ?_
        refine keeps_forM (fun p => ?_) _
        unfold submitRepo
        split
        · exact keeps_pure _ ()
        · exact keeps_submitCr_dry hDry _ _
      exact hKeeps ⟨[], [], []⟩

/- The pushed images are stored up to the first failure. -/
theorem applied_applyPushed
    {args : SubmitArgs}
    (hDry : args.dryRun = false)
    (mode : String)
    (client : Option String)
    (apply : Nat → Option ApplyFault)
    (pushed : List PushedImage) :
    (Invocation.applyPushed args mode client apply
        pushed).applied =
      if client.isNone then
        (triedOf apply pushed).flatMap (fun p =>
          if wasStored apply p.2 then
            [pushedCr args mode p.1] else [])
      else [] := by
  rcases emits_applyPushed emits_applied_applyCr hDry mode
    client apply pushed with ⟨_, hEmits⟩
  exact (hEmits ⟨[], [], []⟩).2

/- What `run` does once it has the catalog. -/
def submitRepos
    (args : SubmitArgs)
    (env : SubmitEnv)
    (repos : List String) : Submit Unit := do
  ofResult
    (if repos.isEmpty then
      .error
        ["Zot catalog has no akeyless-* repos — run " ++
          "`private-push akeyless` first"]
    else
      .ok ())
  ofResult (connect args env.client)
  repos.zipIdx.forM (submitRepo args env)

/- The steps of a submission, from the catalog on. -/
theorem submitValidations_eq
    (args : SubmitArgs)
    (env : SubmitEnv) :
    submitValidations args env =
      (do
        ofResult (httpClient env.http)
        let catalog ←
          ofResult (fetchCatalog args env.catalog)
        submitRepos args env (akeylessRepos args catalog)) :=
  rfl

theorem reachedOf_nil (args : SubmitArgs) (env : SubmitEnv) :
    reachedOf args env [] = [] := by
  unfold reachedOf
  split
  · rfl
  · rfl

/- What a repository that is got to leaves stored. -/
def storedCrs
    (args : SubmitArgs)
    (env : SubmitEnv)
    (p : String × Nat) : List SubmittedCr :=
  if wasStored env.apply p.2 then
    (resolvedCr args env p).toList
  else
    []

/- The repositories are submitted up to the first failure. -/
theorem emits_submitRepos
    {args : SubmitArgs}
    (hDry : args.dryRun = false)
    (env : SubmitEnv)
    (repos : List String) :
    ∃ result,
      Emits Submissions.applied (submitRepos args env repos)
        result
        ((reachedOf args env repos).flatMap
          (storedCrs args env)) := by
  have hLoop :=
    emits_forM (emits_submitRepo hDry env) repos.zipIdx
  unfold submitRepos connect
  rw [hDry]
  cases repos with
  | nil =>
      rw [reachedOf_nil]
      exact ⟨none,
        emits_bind_none (emits_ofResult (.error _)) _⟩
  | cons repo repos =>
      unfold reachedOf
      cases env.client with
      | some e =>
          exact ⟨none, emits_bind_some
            (emits_ofResult (.ok ()))
            (emits_bind_none (emits_ofResult (.error _)) _)⟩
      | none =>
          exact ⟨_, emits_bind_some
            (emits_ofResult (.ok ()))
            (emits_bind_some (emits_ofResult (.ok ()))
              hLoop)⟩

/- The same from the catalog on. -/
theorem emits_submitValidations
    {args : SubmitArgs}
    (hDry : args.dryRun = false)
    (env : SubmitEnv) :
    ∃ result,
      Emits Submissions.applied (submitValidations args env)
        result
        ((reached args env).flatMap (storedCrs args env)) := by
  rw [submitValidations_eq]
  unfold reached
  cases env.http with
  | some e =>
      exact ⟨none,
        emits_bind_none (emits_ofResult (.error _)) _⟩
  | none =>
      cases fetchCatalog args env.catalog with
      | error chain =>
          change ∃ result, Emits Submissions.applied _ result
            ((reachedOf args env []).flatMap
              (storedCrs args env))
          rw [reachedOf_nil]
          exact ⟨none, emits_bind_some
            (emits_ofResult (.ok ()))
            (emits_bind_none (emits_ofResult (.error _)) _)⟩
      | ok catalog =>
          rcases emits_submitRepos hDry env
            (akeylessRepos args catalog) with
            ⟨result, hRepos⟩
          exact ⟨result,
            emits_bind_some (emits_ofResult (.ok ()))
              (emits_bind_some
                (emits_ofResult (.ok catalog)) hRepos)⟩

/- What a run has stored are the images it reached. -/
theorem applied_run
    {args : SubmitArgs}
    (hDry : args.dryRun = false)
    (env : SubmitEnv) :
    (Invocation.run args env).applied =
      (reached args env).flatMap (storedCrs args env) := by
  rcases emits_submitValidations hDry env with ⟨_, hEmits⟩
  exact (hEmits ⟨[], [], []⟩).2

/- What is left where some elements leave nothing. -/
theorem map_flatMap_ite
    {α β γ : Type}
    {test : α → Bool}
    {f : α → List β}
    {g : β → γ}
    {h : α → Option γ}
    (hOne : ∀ a, (f a).map g = (h a).toList)
    (as : List α) :
    (as.flatMap (fun a =>
        if test a then f a else [])).map g =
      (as.filter test).filterMap h := by
  induction as with
  | nil => rfl
  | cons a as ih =>
      rw [List.flatMap_cons, List.map_append, ih]
      by_cases hTest : test a = true
      · rw [if_pos hTest, hOne,
          List.filter_cons_of_pos hTest]
        cases hFound : h a with
        | none => simp [hFound]
        | some c => simp [hFound]
      · rw [if_neg hTest, List.filter_cons_of_neg hTest]
        rfl

/- The validations stored are of the images stored. -/
theorem map_image_applied (inv : Invocation) :
    inv.applied.map SubmittedCr.image = inv.images := by
  cases hDry : inv.args.dryRun with
  | true =>
      rw [applied_of_dry hDry]
      cases inv with
      | applyPushed args mode client apply pushed =>
          have hDry : args.dryRun = true := hDry
          simp [Invocation.images, hDry]
      | run args env =>
          have hDry : args.dryRun = true := hDry
          simp [Invocation.images, hDry]
  | false =>
      cases inv with
      | applyPushed args mode client apply pushed =>
          have hDry : args.dryRun = false := hDry
          rw [applied_applyPushed hDry, Invocation.images,
            hDry]
          cases client with
          | some e => rfl
          | none =>
              have hOne :
                  ∀ p : PushedImage × Nat,
                    [pushedCr args mode p.1].map
                        SubmittedCr.image =
                      (some (p.1.repo, p.1.digest)).toList :=
                fun _ => rfl
              exact (map_flatMap_ite hOne _).trans
                (congrFun List.filterMap_eq_map _)
      | run args env =>
          have hDry : args.dryRun = false := hDry
          rw [applied_run hDry, Invocation.images, hDry]
          refine map_flatMap_ite (fun p => ?_) _
          unfold resolvedCr resolvedImage
          cases resolveLatestDigest args (env.repos p.2)
              p.1 with
          | error chain => rfl
          | ok found => rfl

/- A validation that was built for its image. -/
def IsBuilt (cr : SubmittedCr) : Prop :=
  cr.name = crName cr.image

/- What is stored was built from an image. -/
theorem isBuilt_of_mem_applied
    {inv : Invocation}
    {cr : SubmittedCr}
    (hMem : cr ∈ inv.applied) :
    IsBuilt cr := by
  cases hDry : inv.args.dryRun with
  | true =>
      rw [applied_of_dry hDry] at hMem
      simp at hMem
  | false =>
      cases inv with
      | applyPushed args mode client apply pushed =>
          have hDry : args.dryRun = false := hDry
          rw [applied_applyPushed hDry] at hMem
          split at hMem
          · rcases List.mem_flatMap.mp hMem with ⟨p, -, hp⟩
            split at hp
            · rw [List.mem_singleton.mp hp]
              exact name_buildCr args p.1.service p.1.repo
                p.1.digest
            · simp at hp
          · simp at hMem
      | run args env =>
          have hDry : args.dryRun = false := hDry
          rw [applied_run hDry] at hMem
          rcases List.mem_flatMap.mp hMem with ⟨p, -, hp⟩
          unfold storedCrs resolvedCr at hp
          split at hp
          · rcases Option.map_eq_some_iff.mp
              (Option.mem_toList.mp hp) with ⟨found, -, rfl⟩
            exact name_buildCr args (serviceOf p.1) p.1
              found.2
          · simp at hp

/- Validations have one name if their images look alike. -/
theorem name_eq_iff
    {cr cr' : SubmittedCr}
    (hBuilt : IsBuilt cr)
    (hBuilt' : IsBuilt cr') :
    cr.name = cr'.name ↔ LookAlike cr.image cr'.image := by
  rw [hBuilt, hBuilt']
  exact crName_eq_iff cr.image cr'.image

end PrivatePush

end EngenhoPromessa

------------------------------------------------------------
-- Invocations Over Time
------------------------------------------------------------

namespace EngenhoPromessa

namespace PrivatePush

/- The image a stored object is of. -/
def storedImage
    (o : Stored AkeylessImageValidationSpec) : Image :=
  (o.spec.imageRepo, o.spec.imageDigest)

/-
  A forced apply replaces the spec of the object with its
  name, or creates the object.
-/
def crTable :
    Upserts (String × String)
      (Stored AkeylessImageValidationSpec) SubmittedCr where
  key o := (o.metadata.namespaceOrDefault, o.metadata.nameAny)
  target cr := (cr.namespace, cr.name)
  insert cr :=
    { metadata :=
        { name := some cr.name
          «namespace» := some cr.namespace
          labels := []
          ownerReferences := []
          uid := none
          generation := none }
      spec := cr.spec
      status := none }
  update cr o := { o with spec := cr.spec }
  key_insert _ := rfl
  key_update _ _ := rfl

/- What a sequence of invocations makes of the cluster. -/
def clusterAfter
    (rows : List (Stored AkeylessImageValidationSpec))
    (invs : List Invocation) :
    List (Stored AkeylessImageValidationSpec) :=
  Run.run
    (fun rows inv => Run.run crTable.upsert rows inv.applied)
    rows invs

/-
  Stored validations of different images have different
  names, and in the end the object of each is of its image.
-/
def KeepsApart
    (rows : List (Stored AkeylessImageValidationSpec))
    (invs : List Invocation) : Prop :=
  (∀ cr ∈ invs.flatMap Invocation.applied,
    ∀ cr' ∈ invs.flatMap Invocation.applied,
      cr.image ≠ cr'.image → cr.name ≠ cr'.name) ∧
  ∀ cr ∈ invs.flatMap Invocation.applied,
    ∃ o,
      crTable.row (clusterAfter rows invs)
          (cr.namespace, cr.name) = some o ∧
        storedImage o = cr.image

/- The invocations as one run of upserts. -/
theorem clusterAfter_eq
    (rows : List (Stored AkeylessImageValidationSpec))
    (invs : List Invocation) :
    clusterAfter rows invs =
      Run.run crTable.upsert rows
        (invs.flatMap Invocation.applied) := by
  induction invs generalizing rows with
  | nil => rfl
  | cons inv invs ih =>
      rw [clusterAfter, Run.run_cons, ← clusterAfter, ih,
        List.flatMap_cons, Run.run_append]

/- An image is one that some validation was stored for. -/
theorem mem_images_iff
    (invs : List Invocation)
    (p : Image) :
    p ∈ invs.flatMap Invocation.images ↔
      ∃ cr ∈ invs.flatMap Invocation.applied,
        cr.image = p := by
  rw [← List.mem_map, List.map_flatMap]
  simp only [map_image_applied]

/- So it is over all invocations. -/
theorem isBuilt_of_mem
    {invs : List Invocation}
    {cr : SubmittedCr}
    (hMem : cr ∈ invs.flatMap Invocation.applied) :
    IsBuilt cr := by
  rcases List.mem_flatMap.mp hMem with ⟨inv, -, hApplied⟩
  exact isBuilt_of_mem_applied hApplied

/-
  Validations never overwrite each other exactly if no two
  of the images stored look alike.
-/
theorem keepsApart_iff
    (rows : List (Stored AkeylessImageValidationSpec))
    (invs : List Invocation) :
    KeepsApart rows invs ↔
      ∀ p ∈ invs.flatMap Invocation.images,
        ∀ q ∈ invs.flatMap Invocation.images,
          p ≠ q → ¬ LookAlike p q := by
  constructor
  · rintro ⟨hNames, -⟩ p hp q hq hNe hAlike
    rcases (mem_images_iff invs p).mp hp with ⟨cr, hcr, rfl⟩
    rcases (mem_images_iff invs q).mp hq with
      ⟨cr', hcr', rfl⟩
    exact hNames cr hcr cr' hcr' hNe
      ((name_eq_iff (isBuilt_of_mem hcr)
        (isBuilt_of_mem hcr')).mpr hAlike)
  · intro hApart
    have hNames :
        ∀ cr ∈ invs.flatMap Invocation.applied,
          ∀ cr' ∈ invs.flatMap Invocation.applied,
            cr.image ≠ cr'.image → cr.name ≠ cr'.name := by
      intro cr hcr cr' hcr' hNe hName
      refine hApart cr.image
        ((mem_images_iff invs _).mpr ⟨cr, hcr, rfl⟩)
        cr'.image
        ((mem_images_iff invs _).mpr ⟨cr', hcr', rfl⟩) hNe ?_
      exact (name_eq_iff (isBuilt_of_mem hcr)
        (isBuilt_of_mem hcr')).mp hName
    refine ⟨hNames, fun cr hcr => ?_⟩
    -- The last write under the name is of the same image.
    have hInsert :
        ∀ w, storedImage (crTable.insert w) = w.image :=
      fun _ => rfl
    have hUpdate :
        ∀ w o, storedImage (crTable.update w o) = w.image :=
      fun _ _ => rfl
    rcases Upserts.exists_write_of_mem storedImage hInsert
      hUpdate rows hcr with
      ⟨o, hRow, last, hLast, hKey, hImage⟩
    have hSame : last.image = cr.image := by
      by_contra hNe
      exact hNames last hLast cr hcr hNe
        (congrArg Prod.snd hKey)
    rw [clusterAfter_eq]
    exact ⟨o, hRow, hImage.trans hSame⟩

/- A digest of 64 digits that ends in this one. -/
def digestEndingIn (last : Char) : String :=
  "sha256:abcdef012345" ++
    String.ofList (List.replicate 51 '0' ++ [last])

/- Digests that differ behind the twelve characters only. -/
theorem crSuffix_digestEndingIn (last : Char) :
    crSuffix (digestEndingIn last) = "abcdef012345" := by
  have hList :
      (digestEndingIn last).toList =
        "sha256:abcdef012345".toList ++
          (List.replicate 51 '0' ++ [last]) :=
    String.toList_append.trans
      (congrArg _ String.toList_ofList)
  rw [crSuffix, Str.trimStartMatches, String.toList_ofList,
    ← String.length_toList, hList]
  rfl

/- An image with such a digest. -/
def authImage (last : Char) : PushedImage where
  service := "auth"
  repo := "akeyless-auth"
  digest := digestEndingIn last

/- Two pushes of one service; the digests begin alike. -/
def pushedTwice : Invocation :=
  .applyPushed submitTwo "scan-only" none (fun _ => none)
    [authImage '1', authImage '2']

/- The first validation is redirected to the second image. -/
theorem not_keepsApart_pushedTwice :
    ¬ KeepsApart [] [pushedTwice] := by
  intro hApart
  have hApplied :
      [pushedTwice].flatMap Invocation.applied =
        [pushedCr submitTwo "scan-only" (authImage '1'),
          pushedCr submitTwo "scan-only" (authImage '2')] := by
    rw [List.flatMap_singleton, pushedTwice,
      applied_applyPushed rfl]
    rfl
  have hSuffix := (crSuffix_digestEndingIn '1').trans
    (crSuffix_digestEndingIn '2').symm
  have hNames := hApart.1
  rw [hApplied] at hNames
  exact hNames _ List.mem_cons_self _
    (List.mem_cons_of_mem _ List.mem_cons_self)
    (by decide +kernel)
    (congrArg (fun suffix => "akeyless-auth-" ++ suffix)
      hSuffix)

end PrivatePush

end EngenhoPromessa
