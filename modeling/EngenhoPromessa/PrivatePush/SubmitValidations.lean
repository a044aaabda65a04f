import EngenhoPromessa.PrivatePush.Submit

/-
  What the success of the `submit-validations` command says
  of the catalog.

  A repository whose digest cannot be resolved is skipped,
  and a service without a repository is never looked for; a
  validation that is not applied ends the command.

  Key definitions include:
    * `PrivatePush.reportsSuccess`
    * `PrivatePush.CoversCatalog`

  Key theorems include:
    * `PrivatePush.applied_of_success`
    * `PrivatePush.coversCatalog_iff`
    * `PrivatePush.resolved_pinned_of_success`
-/

------------------------------------------------------------
-- What A Successful Run Applies
------------------------------------------------------------

namespace EngenhoPromessa

namespace PrivatePush

open Fallible

/- A run of the command, from empty logs. -/
def runSubmit
    (args : SubmitArgs)
    (env : SubmitEnv) : Except Chain Unit × Submissions :=
  (submitValidations args env).exec ⟨[], [], []⟩

/- The command ends without an error. -/
def reportsSuccess
    (args : SubmitArgs)
    (env : SubmitEnv) : Bool :=
  (runSubmit args env).1.isOk

/- The validation of a repository, if its digest is found. -/
def resolvedCr
    (args : SubmitArgs)
    (env : SubmitEnv)
    (p : String × Nat) : Option SubmittedCr :=
  (resolveLatestDigest args (env.repos p.2) p.1).toOption.map
    (fun found => buildCr args (serviceOf p.1) p.1 found.2)

/- The loop ends only at a validation that is not applied. -/
def goesOn
    (args : SubmitArgs)
    (env : SubmitEnv)
    (p : String × Nat) : Bool :=
  (resolvedCr args env p).isNone || (env.apply p.2).isNone

/- A repository adds its validation, if its digest is found. -/
theorem emits_submitRepo
    {args : SubmitArgs}
    (hDry : args.dryRun = false)
    (env : SubmitEnv)
    (p : String × Nat) :
    Emits Submissions.applied (submitRepo args env p)
      (if goesOn args env p then some () else none)
      (if (env.apply p.2).all ApplyFault.stored then
        (resolvedCr args env p).toList else []) := by
  unfold submitRepo goesOn resolvedCr
  cases resolveLatestDigest args (env.repos p.2) p.1 with
  | error chain =>
      simp only [Except.toOption, Option.map_none,
        Option.toList_none, ite_self, Option.isNone_none,
        Bool.true_or, if_true]
      exact emits_pure ()
  | ok found =>
      simp only [Except.toOption, Option.map_some,
        Option.toList_some, Option.isNone_some,
        Bool.false_or, submitCr, hDry]
      exact emits_applied_applyCr _ _

/- They are the validations of the repositories resolved. -/
theorem applied_of_success
    {args : SubmitArgs}
    (hDry : args.dryRun = false)
    {env : SubmitEnv}
    (hOk : reportsSuccess args env = true) :
    ∃ catalog,
      fetchCatalog args env.catalog = .ok catalog ∧
      akeylessRepos args catalog ≠ [] ∧
      (runSubmit args env).2.applied =
        (akeylessRepos args catalog).zipIdx.flatMap (fun p =>
          (resolvedCr args env p).toList) := by
  unfold reportsSuccess at hOk
  rcases hRun : runSubmit args env with ⟨chain | ⟨⟩, log⟩
  · simp [hRun, Except.isOk, Except.toBool] at hOk
  · unfold runSubmit submitValidations at hRun
    rcases exec_ofResult_bind_eq_ok.mp hRun with
      ⟨_, _, hRest⟩
    rcases exec_ofResult_bind_eq_ok.mp hRest with
      ⟨catalog, hFetch, hRest⟩
    rcases exec_ofResult_bind_eq_ok.mp hRest with
      ⟨_, hSome, hRest⟩
    rcases exec_ofResult_bind_eq_ok.mp hRest with
      ⟨_, _, hLoop⟩
    rcases view_of_exec_forM_eq_ok
      (emits_submitRepo hDry env) hLoop with ⟨hAll, hApplied⟩
    refine ⟨catalog, hFetch, ?_, ?_⟩
    · intro hEmpty
      simp [hEmpty] at hSome
    · rw [hApplied, List.nil_append]
      apply List.flatMap_congr
      intro p hp
      -- A resolved repository passed, so it was applied.
      rcases Bool.or_eq_true _ _ ▸ hAll p hp with
        hSkipped | hStored
      · rw [Option.isNone_iff_eq_none.mp hSkipped]
        simp
      · rw [Option.isNone_iff_eq_none.mp hStored]
        rfl

/- After a success exactly the resolved digests are pinned. -/
theorem pinnedIn_applied_iff
    {args : SubmitArgs}
    (hDry : args.dryRun = false)
    {env : SubmitEnv}
    (hOk : reportsSuccess args env = true) :
    ∃ catalog,
      fetchCatalog args env.catalog = .ok catalog ∧
      akeylessRepos args catalog ≠ [] ∧
      ∀ repo digest,
        PinnedIn (runSubmit args env).2.applied repo digest ↔
          ∃ position tag,
            (repo, position) ∈
              (akeylessRepos args catalog).zipIdx ∧
            resolveLatestDigest args (env.repos position)
              repo = .ok (tag, digest) := by
  rcases applied_of_success hDry hOk with
    ⟨catalog, hFetch, hSome, hApplied⟩
  refine ⟨catalog, hFetch, hSome, ?_⟩
  intro repo digest
  rw [hApplied, PinnedIn]
  constructor
  · rintro ⟨cr, hcr, hRepo, hDigest⟩
    rcases List.mem_flatMap.mp hcr with
      ⟨⟨name, position⟩, hp, hIn⟩
    unfold resolvedCr at hIn
    rcases hFound :
        resolveLatestDigest args (env.repos position) name with
      chain | ⟨tag, found⟩
    · simp [hFound, Except.toOption] at hIn
    · simp only [hFound, Except.toOption, Option.map_some,
        Option.toList_some, List.mem_singleton] at hIn
      obtain rfl : name = repo := by rw [← hRepo, hIn]; rfl
      obtain rfl : found = digest := by
        rw [← hDigest, hIn]; rfl
      exact ⟨position, tag, hp, hFound⟩
  · rintro ⟨position, tag, hp, hFound⟩
    refine ⟨buildCr args (serviceOf repo) repo digest,
      List.mem_flatMap.mpr ⟨_, hp, ?_⟩, rfl, rfl⟩
    simp [resolvedCr, hFound, Except.toOption]

end PrivatePush

end EngenhoPromessa

------------------------------------------------------------
-- What Success Says Of The Catalog
------------------------------------------------------------

namespace EngenhoPromessa

namespace PrivatePush

/-
  After a success that is not of a dry run, each repository
  of the catalog that the services admit has a validation
  under its resolved digest, and each service a repository.
-/
def CoversCatalog
    (args : SubmitArgs)
    (env : SubmitEnv) : Prop :=
  args.dryRun = false →
    reportsSuccess args env = true →
    ∃ catalog,
      fetchCatalog args env.catalog = .ok catalog ∧
      (∀ p ∈ (akeylessRepos args catalog).zipIdx,
        ∃ tag digest,
          resolveLatestDigest args (env.repos p.2) p.1 =
              .ok (tag, digest) ∧
            PinnedIn (runSubmit args env).2.applied p.1
              digest) ∧
      ∀ service ∈ args.services,
        "akeyless-" ++ service ∈ catalog

/- Success covers the catalog if nothing is passed over. -/
theorem coversCatalog_iff
    {args : SubmitArgs}
    (hDry : args.dryRun = false)
    {env : SubmitEnv}
    (hOk : reportsSuccess args env = true) :
    CoversCatalog args env ↔
      ∃ catalog,
        fetchCatalog args env.catalog = .ok catalog ∧
        (∀ p ∈ (akeylessRepos args catalog).zipIdx,
          (resolveLatestDigest args (env.repos p.2) p.1).isOk =
            true) ∧
        ∀ service ∈ args.services,
          "akeyless-" ++ service ∈ catalog := by
  constructor
  · intro hCovers
    rcases hCovers hDry hOk with
      ⟨catalog, hFetch, hRepos, hServices⟩
    refine ⟨catalog, hFetch, ?_, hServices⟩
    intro p hp
    rcases hRepos p hp with ⟨tag, digest, hFound, _⟩
    rw [hFound]
    rfl
  · rintro ⟨catalog, hFetch, hRepos, hServices⟩ _ _
    refine ⟨catalog, hFetch, ?_, hServices⟩
    rcases pinnedIn_applied_iff hDry hOk with
      ⟨catalog', hFetch', _, hPinned⟩
    obtain rfl : catalog = catalog' := by
      simpa [hFetch] using hFetch'
    intro p hp
    have hIsOk := hRepos p hp
    rcases hFound :
        resolveLatestDigest args (env.repos p.2) p.1 with
      chain | ⟨tag, digest⟩
    · simp [hFound, Except.isOk, Except.toBool] at hIsOk
    · exact ⟨tag, digest, rfl,
        (hPinned p.1 digest).mpr ⟨p.2, tag, hp, hFound⟩⟩

/- Two services, to be submitted for good. -/
def submitTwo : SubmitArgs where
  zotEndpoint := "localhost:5000"
  «namespace» := "default"
  promessaRef := "akeyless"
  pack := "akeyless-saas@1"
  services := ["auth", "uam"]
  dryRun := false

/- An answer that lists some texts. -/
def jsonAnswer
    (field : String)
    (texts : List String) : Answer :=
  .ok
    { status := 200
      reason := "OK"
      digest := none
      body := .ok (.obj [(field, .arr (texts.map .str))])
      mismatch := "" }

/- An answer to a question for a digest. -/
def manifestAnswer (digest : String) : Answer :=
  .ok
    { status := 200
      reason := "OK"
      digest := some (.ok digest)
      body := .error "EOF while parsing a value"
      mismatch := "" }

/- Of the two repositories the second has no tags. -/
def secondUntagged : SubmitEnv where
  http := none
  catalog :=
    jsonAnswer "repositories" ["akeyless-auth", "akeyless-uam"]
  repos := fun position =>
    { tags :=
        jsonAnswer "tags" (if position = 0 then ["1.0"] else [])
      manifest := manifestAnswer "sha256:aa" }
  client := none
  apply := fun _ => none

/- The second is not in the catalog at all. -/
def secondAbsent : SubmitEnv :=
  { secondUntagged with
    catalog := jsonAnswer "repositories" ["akeyless-auth"] }

/- Either way the command succeeds without the second. -/
theorem not_coversCatalog_second :
    ¬ CoversCatalog submitTwo secondUntagged ∧
      ¬ CoversCatalog submitTwo secondAbsent := by
  constructor
  · intro hCovers
    have hFetched :
        fetchCatalog submitTwo secondUntagged.catalog =
          .ok ["akeyless-auth", "akeyless-uam"] := by
      rfl
    have hSkipped :
        (resolveLatestDigest submitTwo
          (secondUntagged.repos 1) "akeyless-uam").isOk =
            false := by
      decide +kernel
    rcases hCovers rfl (by decide +kernel) with
      ⟨catalog, hFetch, hRepos, _⟩
    obtain rfl :
        ["akeyless-auth", "akeyless-uam"] = catalog := by
      simpa [hFetched] using hFetch
    rcases hRepos ("akeyless-uam", 1) (by decide +kernel) with
      ⟨tag, digest, hFound, _⟩
    rw [hFound] at hSkipped
    simp [Except.isOk, Except.toBool] at hSkipped
  · intro hCovers
    have hFetched :
        fetchCatalog submitTwo secondAbsent.catalog =
          .ok ["akeyless-auth"] := by
      rfl
    rcases hCovers rfl (by decide +kernel) with
      ⟨catalog, hFetch, _, hServices⟩
    obtain rfl : ["akeyless-auth"] = catalog := by
      simpa [hFetched] using hFetch
    have hAbsent := hServices "uam" (by decide)
    revert hAbsent
    decide

/-
  Success passes over nothing but what it cannot resolve, and
  the services admit some repository of the catalog.
-/
theorem resolved_pinned_of_success
    (args : SubmitArgs)
    (env : SubmitEnv)
    (hDry : args.dryRun = false)
    (hOk : reportsSuccess args env = true) :
    ∃ catalog,
      fetchCatalog args env.catalog = .ok catalog ∧
      akeylessRepos args catalog ≠ [] ∧
      ∀ p ∈ (akeylessRepos args catalog).zipIdx,
        ∀ tag digest,
          resolveLatestDigest args (env.repos p.2) p.1 =
              .ok (tag, digest) →
            PinnedIn (runSubmit args env).2.applied p.1
              digest := by
  rcases pinnedIn_applied_iff hDry hOk with
    ⟨catalog, hFetch, hSome, hPinned⟩
  refine ⟨catalog, hFetch, hSome, ?_⟩
  intro p hp tag digest hFound
  exact (hPinned p.1 digest).mpr ⟨p.2, tag, hp, hFound⟩

/- One repository has no tag, and the other is pinned. -/
theorem resolved_pinned_secondUntagged :
    ∃ catalog,
      fetchCatalog submitTwo secondUntagged.catalog =
        .ok catalog ∧
      akeylessRepos submitTwo catalog ≠ [] ∧
      ∀ p ∈ (akeylessRepos submitTwo catalog).zipIdx,
        ∀ tag digest,
          resolveLatestDigest submitTwo
              (secondUntagged.repos p.2) p.1 =
              .ok (tag, digest) →
            PinnedIn
              (runSubmit submitTwo secondUntagged).2.applied
              p.1 digest :=
  resolved_pinned_of_success submitTwo secondUntagged rfl
    (by decide +kernel)

end PrivatePush

end EngenhoPromessa
