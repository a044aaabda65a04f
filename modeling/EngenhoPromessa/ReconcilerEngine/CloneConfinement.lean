import EngenhoPromessa.ReconcilerEngine.FluxCommitConvergence
import EngenhoPromessa.ReconcilerEngine.FluxCommitHost

/-
  Whether a flux commit stays inside its clone.

  Every file a run opens is the one the target path leads
  to, and nothing keeps that path inside the clone: an
  absolute path replaces the clone's, and `..` goes up. The
  write comes before git could refuse the path.

  Key definitions include:
    * `FluxHost.StaysInClone`
    * `FluxHost.Opens`

  Key theorems include:
    * `FluxHost.exec_runFluxCommit_of_opens`
    * `FluxHost.staysInClone_iff`
-/

------------------------------------------------------------
-- What A Run Opens
------------------------------------------------------------

namespace EngenhoPromessa

open Path (Place)

namespace FluxHost

open Fallible Git

/- Where a run has cloned the branch. -/
def withClone
    (h : FluxHost)
    (spec : FluxCommitSpec)
    (b : Branch) : FluxHost :=
  { h with git :=
    FluxCommit.withClone h.git spec.repoUrl spec.branch b }

/-
  The run gets to the file of the target: it has its clone,
  the path leads to a file, and reading is not refused.
-/
def OpensAt
    (attempt : CloneAttempt)
    (spec : FluxCommitSpec)
    (h : FluxHost)
    (place : Place) : Prop :=
  attempt.Reads ∧ ∃ b content,
    h.git.remotes spec.repoUrl spec.branch = some b ∧
    (h.withClone spec b).target attempt spec.path =
      .ok (place, content)

/- Where that is, the text of the path decides. -/
theorem place_of_opensAt
    {attempt : CloneAttempt}
    {spec : FluxCommitSpec}
    {h : FluxHost}
    {place : Place}
    (hOpens : OpensAt attempt spec h place) :
    place =
      Path.place
        (FluxCommit.targetPath attempt.toAttempt
          spec.path) := by
  rcases hOpens with ⟨_, b, content, _, hTarget⟩
  exact Path.eq_place_of_openFile hTarget

/- From `h` to `h'`, nothing but the one file is opened. -/
structure OpensOnly
    (attempt : CloneAttempt)
    (place : Place)
    (h h' : FluxHost) : Prop where
  opened_eq :
    ∃ n, h'.opened = h.opened ++ List.replicate n place
  outside_eq :
    attempt.cloneDir <+: place → h'.outside = h.outside

theorem opensOnly_refl
    (attempt : CloneAttempt)
    (place : Place)
    (h : FluxHost) :
    OpensOnly attempt place h h :=
  ⟨⟨0, by simp⟩, fun _ => rfl⟩

/- What stages of git alone do not touch. -/
def files (h : FluxHost) : HostFiles × List Place :=
  (h.outside, h.opened)

/- What leaves the files alone opens none. -/
theorem opensOnly_of_files_eq
    {attempt : CloneAttempt}
    {place : Place}
    {h h₁ h₂ : FluxHost}
    (hOnly : OpensOnly attempt place h h₁)
    (hFiles : h₂.files = h₁.files) :
    OpensOnly attempt place h h₂ := by
  rcases Prod.mk.inj hFiles with ⟨hOutside, hOpened⟩
  exact ⟨by rw [hOpened]; exact hOnly.opened_eq,
    fun hInside => hOutside.trans (hOnly.outside_eq hInside)⟩

theorem keeps_files_onGit
    {α : Type}
    (x : GitRun α) :
    Keeps files (onGit x) := by
  apply keeps_zoom
  intro g h
  rfl

/- Writing to the clone leaves the rest of the host alone. -/
theorem opensOnly_writeTarget
    {attempt : CloneAttempt}
    {path : String}
    {h : FluxHost}
    {place : Place}
    {content : Option String}
    (hTarget :
      h.target attempt path = .ok (place, content))
    (text : String) :
    OpensOnly attempt place h
      ((writeTarget attempt path text).exec h).2 := by
  simp only [writeTarget, exec_ofExec]
  cases attempt.write with
  | some e => exact opensOnly_refl attempt place h
  | none =>
      simp only [hTarget]
      refine ⟨⟨1, rfl⟩, ?_⟩
      rintro ⟨names, rfl⟩
      simp [setText, CloneAttempt.nameOf]

/- Adding and committing open none either. -/
theorem keeps_files_gitAddCommit
    (config : FluxCommitConfig)
    (attempt : CloneAttempt)
    (path message : String) :
    Keeps files
      (gitAddCommit config attempt path message) := by
  refine keeps_bind ?_ (fun _ => keeps_files_onGit _)
  intro h
  simp only [gitAdd, exec_ofExec]
  exact keeps_files_onGit _ h

/- A known result leaves the host as it is. -/
theorem exec_onGit_liftExcept
    {α : Type}
    (x : Except ReconcilerError α)
    (h : FluxHost) :
    (onGit (FluxCommit.liftExcept x)).exec h = (x, h) := by
  cases x with
  | error e => rfl
  | ok a => rfl

variable [SerdeYaml]

/- After the read only the same place is opened again. -/
theorem opensOnly_commitAndPush
    {attempt : CloneAttempt}
    {spec : FluxCommitSpec}
    {h : FluxHost}
    {place : Place}
    {content : Option String}
    (hTarget :
      h.target attempt spec.path = .ok (place, content))
    (config : FluxCommitConfig)
    (patchedJson : Json) :
    OpensOnly attempt place h
      ((commitAndPush config attempt spec patchedJson).exec
        h).2 := by
  rw [commitAndPush, exec_bind, exec_onGit_liftExcept]
  cases FluxCommit.jsonToYamlStr patchedJson with
  | error e => exact opensOnly_refl attempt place h
  | ok text =>
      refine opensOnly_of_files_eq
        (opensOnly_writeTarget hTarget text) ?_
      refine view_exec_bind _ (fun _ => ?_) h
      refine keeps_bind (keeps_files_gitAddCommit _ _ _ _)
        (fun _ => keeps_bind (keeps_files_onGit _)
          (fun sha => ?_))
      split
      · exact keeps_pure _ _
      · exact keeps_bind (keeps_files_onGit _)
          (fun _ => keeps_pure _ _)

end FluxHost

end EngenhoPromessa

------------------------------------------------------------
-- Runs
------------------------------------------------------------

namespace EngenhoPromessa

open Path (Place)

namespace FluxHost

open Fallible Git

/- A success of git is one on its part of the host. -/
theorem exec_onGit_eq_ok
    {α : Type}
    {x : GitRun α}
    {h h' : FluxHost}
    {a : α} :
    (onGit x).exec h = (.ok a, h') ↔
      ∃ g, x.exec h.git = (.ok a, g) ∧
        h' = { h with git := g } := by
  simp only [onGit, zoom, exec_ofExec, Prod.mk.injEq]
  constructor
  · rintro ⟨hResult, rfl⟩
    exact ⟨_, Prod.ext hResult rfl, rfl⟩
  · rintro ⟨g, hRun, rfl⟩
    rw [hRun]
    exact ⟨rfl, rfl⟩

/- A run up to its clone. -/
def clone
    (attempt : CloneAttempt)
    (spec : FluxCommitSpec) : FluxRun Unit := do
  onGit (FluxCommit.createTempdir attempt.toAttempt)
  onGit (runGit "clone" attempt.clone attempt.refusal
    (cloned spec.repoUrl spec.branch))

theorem keeps_files_clone
    (attempt : CloneAttempt)
    (spec : FluxCommitSpec) :
    Keeps files (clone attempt spec) :=
  keeps_bind (keeps_files_onGit _)
    (fun _ => keeps_files_onGit _)

/- A clone that succeeds is one of the remote branch. -/
theorem exec_clone_eq_ok
    {attempt : CloneAttempt}
    {spec : FluxCommitSpec}
    {h h' : FluxHost}
    {u : Unit} :
    (clone attempt spec).exec h = (.ok u, h') ↔
      attempt.tempdir = none ∧ attempt.clone = none ∧
        ∃ b, h.git.remotes spec.repoUrl spec.branch =
            some b ∧
          h' = h.withClone spec b := by
  simp only [clone, exec_bind_eq_ok, exec_onGit_eq_ok,
    exec_runGit_eq_ok, FluxCommit.createTempdir, exec_ofExec,
    cloned, Option.map_eq_some_iff]
  constructor
  · rintro ⟨_, _, ⟨g, hTempdir, rfl⟩, g', ⟨hClone, b,
      hBranch, rfl⟩, rfl⟩
    cases hTemp : attempt.tempdir with
    | some e => simp [hTemp] at hTempdir
    | none =>
        rw [hTemp] at hTempdir
        rw [← (Prod.mk.inj hTempdir).2] at hBranch ⊢
        exact ⟨rfl, hClone, b, hBranch, rfl⟩
  · rintro ⟨hTempdir, hClone, b, hBranch, rfl⟩
    rw [hTempdir]
    exact ⟨(), _, ⟨_, rfl, rfl⟩, _,
      ⟨hClone, b, hBranch, rfl⟩, rfl⟩

/- A read opens the place its path leads to. -/
theorem exec_readTarget_of_target
    {attempt : CloneAttempt}
    (hRead : attempt.read = none)
    {path : String}
    {h : FluxHost}
    {place : Place}
    {content : Option String}
    (hTarget :
      h.target attempt path = .ok (place, content)) :
    ((readTarget attempt path).exec h).2 =
      { h with opened := h.opened ++ [place] } := by
  simp only [readTarget, exec_ofExec, hRead, hTarget]
  cases content with
  | none => rfl
  | some text => rfl

/- Otherwise there is an error, and nothing was opened. -/
theorem exec_readTarget_of_not_target
    {attempt : CloneAttempt}
    {path : String}
    {h : FluxHost}
    (hNot :
      ∀ found, attempt.read = none →
        h.target attempt path ≠ .ok found) :
    ∃ e, (readTarget attempt path).exec h =
      (.error e, h) := by
  simp only [readTarget, exec_ofExec]
  cases hRead : attempt.read with
  | some e => exact ⟨_, rfl⟩
  | none =>
      cases hTarget : h.target attempt path with
      | error e => exact ⟨_, rfl⟩
      | ok found => exact absurd hTarget (hNot found hRead)

variable [SerdeYaml]

/- What a run does with the text of its target. -/
def patchDocument
    (config : FluxCommitConfig)
    (attempt : CloneAttempt)
    (spec : FluxCommitSpec)
    (original : String) :
    FluxRun (ReconcilerOutcome FluxCommitReceipt) := do
  let originalJson ←
    onGit (FluxCommit.liftExcept
      (FluxCommit.yamlStrToJson original))
  let patchedJson :=
    FluxCommit.mergeJson originalJson spec.patch
  if patchedJson.equals originalJson then
    return .alreadyConverged
  else
    commitAndPush config attempt spec patchedJson

/- The steps of a commit: clone, read, and patch. -/
theorem runFluxCommit_eq
    (config : FluxCommitConfig)
    (attempt : CloneAttempt)
    (spec : FluxCommitSpec) :
    runFluxCommit config attempt spec = (do
      clone attempt spec
      let original ← readTarget attempt spec.path
      patchDocument config attempt spec original) := by
  simp only [runFluxCommit, clone, bind_assoc]
  rfl

/- The patch opens no other place. -/
theorem opensOnly_patchDocument
    {attempt : CloneAttempt}
    {spec : FluxCommitSpec}
    {h : FluxHost}
    {place : Place}
    {content : Option String}
    (hTarget :
      h.target attempt spec.path = .ok (place, content))
    (config : FluxCommitConfig)
    (original : String) :
    OpensOnly attempt place h
      ((patchDocument config attempt spec original).exec
        h).2 := by
  rw [patchDocument, exec_bind, exec_onGit_liftExcept]
  cases FluxCommit.yamlStrToJson original with
  | error e => exact opensOnly_refl attempt place h
  | ok document =>
      dsimp only
      split
      · exact opensOnly_refl attempt place h
      · exact opensOnly_commitAndPush hTarget config _

/- A run that does not get to its target opens nothing. -/
theorem files_exec_runFluxCommit_of_not_opensAt
    {attempt : CloneAttempt}
    {spec : FluxCommitSpec}
    {h : FluxHost}
    (hNot : ∀ place, ¬ OpensAt attempt spec h place)
    (config : FluxCommitConfig) :
    ((runFluxCommit config attempt spec).exec h).2.files =
      h.files := by
  have hClone := keeps_files_clone attempt spec h
  rw [runFluxCommit_eq, exec_bind]
  rcases hRun : (clone attempt spec).exec h with ⟨e | u, h'⟩
  · rwa [hRun] at hClone
  · rw [hRun] at hClone
    rcases exec_clone_eq_ok.mp hRun with
      ⟨hTempdir, hCloned, b, hBranch, rfl⟩
    have hNone :
        ∀ found, attempt.read = none →
          (h.withClone spec b).target attempt spec.path ≠
            .ok found := by
      rintro ⟨place, content⟩ hRead hTarget
      exact hNot place
        ⟨⟨hTempdir, hCloned, hRead⟩, b, content, hBranch,
          hTarget⟩
    rcases exec_readTarget_of_not_target hNone with ⟨e, hRead⟩
    dsimp only
    rw [exec_bind, hRead]
    exact hClone

/-
  A run that gets to its target opens it, maybe twice, and
  no other file.
-/
theorem exec_runFluxCommit_of_opensAt
    {attempt : CloneAttempt}
    {spec : FluxCommitSpec}
    {h : FluxHost}
    {place : Place}
    (hOpens : OpensAt attempt spec h place)
    (config : FluxCommitConfig) :
    let h' := ((runFluxCommit config attempt spec).exec h).2
    (∃ n, h'.opened =
        h.opened ++ List.replicate (n + 1) place) ∧
      (attempt.cloneDir <+: place →
        h'.outside = h.outside) := by
  intro h'
  rcases hOpens with
    ⟨⟨hTempdir, hClone, hRead⟩, b, content, hBranch, hTarget⟩
  let h₂ : FluxHost :=
    { h.withClone spec b with opened := h.opened ++ [place] }
  have hCloned :
      (clone attempt spec).exec h =
        (.ok (), h.withClone spec b) :=
    exec_clone_eq_ok.mpr
      ⟨hTempdir, hClone, b, hBranch, rfl⟩
  have hAfter := exec_readTarget_of_target hRead hTarget
  have hOnly : OpensOnly attempt place h₂ h' := by
    simp only [h', runFluxCommit_eq]
    rw [exec_bind_ok hCloned, exec_bind]
    rcases hRun : (readTarget attempt spec.path).exec
        (h.withClone spec b) with ⟨e | original, h₃⟩
    · rw [hRun] at hAfter
      obtain rfl : h₃ = h₂ := hAfter
      exact opensOnly_refl attempt place h₂
    · rw [hRun] at hAfter
      obtain rfl : h₃ = h₂ := hAfter
      have hStill :
          h₂.target attempt spec.path =
            .ok (place, content) := hTarget
      exact opensOnly_patchDocument hStill config original
  rcases hOnly.opened_eq with ⟨n, hOpened⟩
  refine ⟨⟨n, ?_⟩, hOnly.outside_eq⟩
  rw [hOpened, List.replicate_succ]
  simp [h₂]

end FluxHost

end EngenhoPromessa

------------------------------------------------------------
-- Confinement
------------------------------------------------------------

namespace EngenhoPromessa

open Path (Place)

namespace FluxHost

open Fallible Git

/-
  Between `h` and `h'`, only files in the clone were opened,
  and no other file has changed.
-/
structure StaysInClone
    (attempt : CloneAttempt)
    (h h' : FluxHost) : Prop where
  opened_inside :
    ∀ place ∈ h'.opened.drop h.opened.length,
      attempt.cloneDir <+: place
  outside_unchanged : h'.outside = h.outside

/- A path that only goes down leads into the clone. -/
theorem cloneDir_isPrefix_place
    (attempt : CloneAttempt)
    {path : String}
    (hRelative : Path.isAbsolute path = false)
    (hDown : ∀ part ∈ Path.parts path, part ≠ "..") :
    attempt.cloneDir <+:
      Path.place
        (FluxCommit.targetPath attempt.toAttempt path) := by
  have hRoot :
      Path.placeFrom [] ("" :: attempt.cloneDir) =
        attempt.cloneDir :=
    Path.placeFrom_names attempt.isNames_cloneDir []
  rw [Path.place,
    attempt.parts_targetPath_of_relative hRelative,
    Path.placeFrom_append, hRoot]
  exact Path.isPrefix_placeFrom hDown attempt.cloneDir

/- Staying in the clone is about the files alone. -/
theorem staysInClone_of_files_eq
    {attempt : CloneAttempt}
    {h h₁ h₂ : FluxHost}
    (hFiles : files h₁ = files h₂) :
    StaysInClone attempt h h₁ ↔ StaysInClone attempt h h₂ := by
  rcases Prod.mk.inj hFiles with ⟨hOutside, hOpened⟩
  constructor
  · rintro ⟨hInside, hSame⟩
    exact ⟨by rwa [← hOpened], hOutside.symm.trans hSame⟩
  · rintro ⟨hInside, hSame⟩
    exact ⟨by rwa [hOpened], hOutside.trans hSame⟩

variable [SerdeYaml]

/- It is opened, so it has to be inside. -/
theorem staysInClone_iff_of_opensAt
    {attempt : CloneAttempt}
    {spec : FluxCommitSpec}
    {h : FluxHost}
    {place : Place}
    (hOpens : OpensAt attempt spec h place)
    (config : FluxCommitConfig) :
    StaysInClone attempt h
        ((runFluxCommit config attempt spec).exec h).2 ↔
      attempt.cloneDir <+: place := by
  rcases exec_runFluxCommit_of_opensAt hOpens config with
    ⟨⟨n, hOpened⟩, hOutside⟩
  constructor
  · intro hStays
    apply hStays.opened_inside
    rw [hOpened]
    simp
  · intro hInside
    refine ⟨?_, hOutside hInside⟩
    intro opened hMem
    rw [hOpened, List.drop_left] at hMem
    rwa [(List.mem_replicate.mp hMem).2]

/- Without a place to open nothing is opened. -/
theorem staysInClone_of_not_opensAt
    {attempt : CloneAttempt}
    {spec : FluxCommitSpec}
    {h : FluxHost}
    (hNot : ∀ place, ¬ OpensAt attempt spec h place)
    (config : FluxCommitConfig) :
    StaysInClone attempt h
      ((runFluxCommit config attempt spec).exec h).2 := by
  rw [staysInClone_of_files_eq
    (files_exec_runFluxCommit_of_not_opensAt hNot config)]
  exact ⟨by simp, rfl⟩

variable [Chrono] [ErrorText] [PromessaSerde]

/- The spec the executor makes of a flux commit. -/
def specOf
    (env : Env)
    (path : String)
    (patch : Json) : FluxCommitSpec where
  repoUrl :=
    (env "FLUX_COMMIT_REPO_URL").getD
      "git@github.com:pleme-io/k8s.git"
  branch :=
    (env "FLUX_COMMIT_BRANCH").getD
      FluxCommitSpec.defaultBranch
  path := path
  patch := patch
  commitMessage := none

/- What the execution of a flux commit leaves of the host. -/
theorem files_execute
    (engine : ReconcilerEngine (StateM FluxHost))
    (config : FluxCommitConfig)
    (attempt : CloneAttempt)
    (env : Env)
    (path : String)
    (patch : Json)
    (h : FluxHost) :
    files (((executor engine config attempt).execute env
        (.fluxCommit path patch)).run h).2 =
      files ((runFluxCommit config attempt
        (specOf env path patch)).exec h).2 := rfl

/-
  The execution of a flux commit stays inside its clone
  exactly if its path leads there, or it opens no file.
-/
theorem staysInClone_iff
    (engine : ReconcilerEngine (StateM FluxHost))
    (config : FluxCommitConfig)
    (attempt : CloneAttempt)
    (env : Env)
    (path : String)
    (patch : Json)
    (h : FluxHost) :
    StaysInClone attempt h
        (((executor engine config attempt).execute env
          (.fluxCommit path patch)).run h).2 ↔
      attempt.cloneDir <+:
          Path.place
            (FluxCommit.targetPath attempt.toAttempt path) ∨
        ∀ place,
          ¬ OpensAt attempt (specOf env path patch) h place := by
  rw [staysInClone_of_files_eq
    (files_execute engine config attempt env path patch h)]
  by_cases hOpens :
      ∃ place, OpensAt attempt (specOf env path patch) h place
  · rcases hOpens with ⟨place, hAt⟩
    rw [staysInClone_iff_of_opensAt hAt config,
      place_of_opensAt hAt]
    constructor
    · exact Or.inl
    · rintro (hInside | hNone)
      · exact hInside
      · exact absurd hAt (hNone place)
  · have hNone := not_exists.mp hOpens
    exact iff_of_true
      (staysInClone_of_not_opensAt hNone config)
      (Or.inr hNone)

end FluxHost

namespace Reference

/- A clone into a directory of its own. -/
def cloneAttempt : CloneAttempt :=
  { attempt with
    dir := ["tmp", "flux"]
    is_names := by simp [Path.IsName]
    dir_ne_nil := by simp
    workdir_eq := by decide }

/- A host with a document of its own under `/etc`. -/
def fluxHost : FluxHost where
  git := gitWorld
  outside :=
    { dirs := [["etc"]]
      files := [(["etc", "engenho.yaml"],
        some "tag: 0.10.0\n")] }
  opened := []

/- An engine that only commits. -/
def fluxEngine : ReconcilerEngine (StateM FluxHost) :=
  .builder

/- What a flux commit of the new tag leaves of the host. -/
def afterFluxCommit (path : String) : FluxHost :=
  (((FluxHost.executor fluxEngine fluxCommitConfig
    cloneAttempt).execute (fun _ => none)
      (.fluxCommit path fluxCommitSpec.patch)).run
        fluxHost).2

end Reference

namespace FluxHost

/- The host's own document is read and overwritten. -/
theorem not_staysInClone_absolute :
    ¬ StaysInClone Reference.cloneAttempt Reference.fluxHost
        (Reference.afterFluxCommit "/etc/engenho.yaml") ∧
      (Reference.afterFluxCommit
        "/etc/engenho.yaml").outside.files =
        [(["etc", "engenho.yaml"], some "tag: 0.11.0\n")] := by
  have hWritten :
      (Reference.afterFluxCommit
        "/etc/engenho.yaml").outside.files =
        [(["etc", "engenho.yaml"],
          some "tag: 0.11.0\n")] := by
    decide +kernel
  refine ⟨?_, hWritten⟩
  intro hStays
  rw [hStays.outside_unchanged] at hWritten
  revert hWritten
  decide

end FluxHost

end EngenhoPromessa
