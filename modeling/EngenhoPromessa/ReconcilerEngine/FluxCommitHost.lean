import EngenhoPromessa.ReconcilerEngine.Executor
import EngenhoPromessa.ReconcilerEngine.FluxCommitReconciler
import EngenhoPromessa.Text.Path

/-
  The flux commit reconciler on the file system it runs on.

  The target of a flux commit is the clone's path joined
  with the one of the action, and the operating system finds
  it wherever that leads, in the clone or not. For the name
  of a tracked file the run is the one on the repository
  alone.

  Key definitions include:
    * `FluxHost`
    * `CloneAttempt`
    * `FluxHost.runFluxCommit`
    * `FluxHost.executor`

  Key theorems include:
    * `FluxHost.simulates_runFluxCommit`
-/

------------------------------------------------------------
-- The File System
------------------------------------------------------------

namespace EngenhoPromessa

open Path (Place FileTree)

/- What is outside of the temporary directory. -/
structure HostFiles where
  dirs : List Place
  files : List (Place × Option String)

/- `opened` has the files opened so far, in their order. -/
structure FluxHost where
  git : GitWorld
  outside : HostFiles
  opened : List Place

/-
  The temporary directory of an attempt is made for it, at
  an absolute path.
-/
structure CloneAttempt extends Attempt where
  dir : Place
  is_names : ∀ name ∈ dir, Path.IsName name
  dir_ne_nil : dir ≠ []
  workdir_eq : workdir = "/" ++ Path.relative dir

namespace CloneAttempt

/- Where the clone is. -/
def cloneDir (attempt : CloneAttempt) : Place :=
  attempt.dir ++ ["repo"]

/- The name in the clone of a place in it. -/
def nameOf
    (attempt : CloneAttempt)
    (place : Place) : Option String :=
  (Path.namesBelow attempt.cloneDir place).map
    Path.relative

end CloneAttempt

namespace HostFiles

/- Overwrite the text of a file. -/
def setText
    (place : Place)
    (text : String)
    (outside : HostFiles) : HostFiles :=
  { outside with
    files := outside.files.map (fun f =>
      if f.1 = place then (place, some text) else f) }

end HostFiles

namespace GitWorld

/- A directory that holds one of the clone's files. -/
def isCloneDir (g : GitWorld) (names : Place) : Bool :=
  g.workingCopy.any (fun copy =>
    copy.files.any (fun f =>
      names.isPrefixOf (Path.parts f.1) &&
        names ≠ Path.parts f.1))

end GitWorld

namespace FluxHost

/- The clone at its place, and everything else around it. -/
def tree
    (attempt : CloneAttempt)
    (h : FluxHost) : FileTree where
  isDir place :=
    place.isPrefixOf attempt.cloneDir ||
      match Path.namesBelow attempt.cloneDir place with
      | some names => h.git.isCloneDir names
      | none => h.outside.dirs.contains place
  file place :=
    match Path.namesBelow attempt.cloneDir place with
    | some [] => none
    | some names =>
        h.git.workingCopy.bind (fun copy =>
          (copy.files.lookup (Path.relative names)).map some)
    | none => h.outside.files.lookup place

/- The file the target of a path leads to, with its place. -/
def target
    (attempt : CloneAttempt)
    (path : String)
    (h : FluxHost) :
    Except String (Place × Option String) :=
  Path.openFile (h.tree attempt)
    (FluxCommit.targetPath attempt.toAttempt path)

/- A text at a place, in the clone or beside it. -/
def setText
    (attempt : CloneAttempt)
    (place : Place)
    (text : String)
    (h : FluxHost) : FluxHost :=
  match attempt.nameOf place with
  | some name =>
      { h with git :=
        { h.git with
          workingCopy := h.git.workingCopy.map (fun copy =>
            { copy with
              files := Git.setFile name text copy.files }) } }
  | none =>
      { h with outside := h.outside.setText place text }

end FluxHost

end EngenhoPromessa

------------------------------------------------------------
-- The Pipeline
------------------------------------------------------------

namespace EngenhoPromessa

/- A computation on git and on the files of the host. -/
abbrev FluxRun (α : Type) := Fallible FluxHost ReconcilerError α

namespace FluxHost

open Fallible Git FluxCommit

/- A stage that only deals with git. -/
def onGit {α : Type} (x : GitRun α) : FluxRun α :=
  zoom FluxHost.git (fun g h => { h with git := g }) x

/- Reads the file that the path leads to, wherever that is. -/
def readTarget
    (attempt : CloneAttempt)
    (path : String) : FluxRun String :=
  let refused (e : String) : ReconcilerError :=
    .substrateRefused ("read " ++
      targetPath attempt.toAttempt path ++
      " after clone failed: " ++ e)
  ofExec (fun h =>
    match attempt.read with
    | some e => (.error (refused e), h)
    | none =>
        match h.target attempt path with
        | .error e => (.error (refused e), h)
        | .ok (place, content) =>
            let h' := { h with opened := h.opened ++ [place] }
            match content with
            | none =>
                (.error (refused
                  "stream did not contain valid UTF-8"), h')
            | some text => (.ok text, h'))

/- The file is there, since it has been read. -/
def writeTarget
    (attempt : CloneAttempt)
    (path text : String) : FluxRun Unit :=
  let failed (e : String) : ReconcilerError :=
    .internal ("write " ++
      targetPath attempt.toAttempt path ++
      " failed: " ++ e)
  ofExec (fun h =>
    match attempt.write with
    | some e => (.error (failed e), h)
    | none =>
        match h.target attempt path with
        | .error e => (.error (failed e), h)
        | .ok (place, _) =>
            (.ok (), { h.setText attempt place text with
              opened := h.opened ++ [place] }))

/- `git add` refuses what is outside of the repository. -/
def gitAdd
    (attempt : CloneAttempt)
    (path : String) : FluxRun Unit :=
  ofExec (fun h =>
    (onGit (runGit "add" attempt.add attempt.refusal
      (fun g => do
        let (place, _) ← (h.target attempt path).toOption
        added (← attempt.nameOf place) g))).exec h)

/- Adds the file and commits it. -/
def gitAddCommit
    (config : FluxCommitConfig)
    (attempt : CloneAttempt)
    (path message : String) : FluxRun Unit := do
  gitAdd attempt path
  onGit (runGit "commit" attempt.commit attempt.refusal
    (committed config.authorName config.authorEmail message
      attempt.sha))

variable [SerdeYaml]

/-
  Writes the document, commits it and, unless dry, pushes
  it.
-/
def commitAndPush
    (config : FluxCommitConfig)
    (attempt : CloneAttempt)
    (spec : FluxCommitSpec)
    (patchedJson : Json) :
    FluxRun (ReconcilerOutcome FluxCommitReceipt) := do
  let patchedYaml ←
    onGit (FluxCommit.liftExcept (jsonToYamlStr patchedJson))
  writeTarget attempt spec.path patchedYaml
  gitAddCommit config attempt spec.path (messageOf spec)
  let sha ← onGit (gitHeadSha attempt.toAttempt)
  if config.dryRun then
    return .applied
      (receiptOf config attempt.toAttempt spec sha)
  else
    onGit (runGit "push" attempt.push attempt.refusal
      (pushed spec.branch))
    return .applied
      (receiptOf config attempt.toAttempt spec sha)

/- One commit from the clone to the push. -/
def runFluxCommit
    (config : FluxCommitConfig)
    (attempt : CloneAttempt)
    (spec : FluxCommitSpec) :
    FluxRun (ReconcilerOutcome FluxCommitReceipt) := do
  onGit (createTempdir attempt.toAttempt)
  onGit (runGit "clone" attempt.clone attempt.refusal
    (cloned spec.repoUrl spec.branch))
  let original ← readTarget attempt spec.path
  let originalJson ←
    onGit (FluxCommit.liftExcept (yamlStrToJson original))
  let patchedJson := mergeJson originalJson spec.patch
  if patchedJson.equals originalJson then
    return .alreadyConverged
  else
    commitAndPush config attempt spec patchedJson

/- The clone is gone afterwards, whatever has happened. -/
def act
    (config : FluxCommitConfig)
    (attempt : CloneAttempt)
    (spec : FluxCommitSpec) :
    StateM FluxHost (ReconcilerOutcome FluxCommitReceipt) :=
  fun h =>
    let (result, h') :=
      (runFluxCommit config attempt spec).exec h
    (match result with
      | .ok outcome => outcome
      | .error error => .failed error,
      { h' with git := { h'.git with workingCopy := none } })

end FluxHost

namespace FluxCommitReceipt

/- A receipt as it is answered. -/
def toValue [Chrono] (r : FluxCommitReceipt) : Json :=
  .obj
    [("commit_sha", .str r.commitSha),
      ("repo_url", .str r.repoUrl),
      ("branch", .str r.branch),
      ("path", .str r.path),
      ("committed_at",
        .str (Chrono.serialize r.committedAt)),
      ("dry_run", .bool r.dryRun)]

end FluxCommitReceipt

namespace FluxHost

/- The executor with the flux commit reconciler attached. -/
def executor
    [Chrono]
    [SerdeYaml]
    (engine : ReconcilerEngine (StateM FluxHost))
    (config : FluxCommitConfig)
    (attempt : CloneAttempt) :
    ActionExecutor (StateM FluxHost) where
  engine := engine
  fluxCommit := some (fun spec => do
    let outcome ← act config attempt spec
    return outcome.mapReceipt FluxCommitReceipt.toValue)

end FluxHost

end EngenhoPromessa

------------------------------------------------------------
-- The Target In The Tree
------------------------------------------------------------

namespace EngenhoPromessa

namespace CloneAttempt

/- The clone is reached by proper names. -/
theorem isNames_cloneDir
    (attempt : CloneAttempt) :
    ∀ name ∈ attempt.cloneDir, Path.IsName name := by
  intro name hName
  rcases List.mem_append.mp hName with hDir | hRepo
  · exact attempt.is_names name hDir
  · rw [List.mem_singleton.mp hRepo]
    exact ⟨by decide, by decide, by decide, by decide⟩

/- The parts of the clone's parent. -/
theorem parts_workdir (attempt : CloneAttempt) :
    Path.parts attempt.workdir = "" :: attempt.dir := by
  have hText :
      attempt.workdir =
        "" ++ "/" ++ Path.relative attempt.dir := by
    simpa using attempt.workdir_eq
  rw [hText, Path.parts_append,
    Path.parts_relative attempt.is_names attempt.dir_ne_nil]
  rfl

/- It does not end with a slash. -/
theorem getLast?_workdir_ne (attempt : CloneAttempt) :
    attempt.workdir.toList.getLast? ≠ some '/' := by
  intro hSlash
  have hLast := Path.getLast?_parts_of_slash hSlash
  rw [attempt.parts_workdir,
    List.getLast?_cons_of_ne_nil attempt.dir_ne_nil] at hLast
  exact (attempt.is_names "" (List.mem_of_getLast? hLast)).1
    rfl

/- From the root down to the clone, and on from there. -/
theorem parts_targetPath_of_relative
    (attempt : CloneAttempt)
    {path : String}
    (hRelative : Path.isAbsolute path = false) :
    Path.parts
        (FluxCommit.targetPath attempt.toAttempt path) =
      "" :: attempt.cloneDir ++ Path.parts path := by
  have hRepo :
      Path.join attempt.workdir "repo" =
        attempt.workdir ++ "/" ++ "repo" := by
    have hSome : attempt.workdir ≠ "" := by
      rw [attempt.workdir_eq]
      simp
    rw [Path.join, if_neg (by decide),
      if_neg (by simp [hSome, attempt.getLast?_workdir_ne])]
  rw [FluxCommit.targetPath, hRepo,
    Path.parts_join_of_relative hRelative,
    Path.parts_append, attempt.parts_workdir]
  · rfl
  · simp
  · simp

end CloneAttempt

end EngenhoPromessa

------------------------------------------------------------
-- Names Of Tracked Files
------------------------------------------------------------

namespace EngenhoPromessa

namespace FluxHost

/- The clone has a file whose name is the path. -/
structure Tracks (h : FluxHost) (path text : String) : Prop where
  is_names : ∀ part ∈ Path.parts path, Path.IsName part
  has_text :
    h.git.workingCopy.bind (fun copy =>
      copy.files.lookup path) = some text

/- The directories on the way to a tracked file. -/
theorem isDir_tree_of_tracks
    {h : FluxHost}
    {path text : String}
    (hTracks : h.Tracks path text)
    (attempt : CloneAttempt)
    {n : Nat}
    (hn : n < (attempt.cloneDir ++ Path.parts path).length) :
    (h.tree attempt).isDir
        ((attempt.cloneDir ++ Path.parts path).take n) =
      true := by
  rcases Option.bind_eq_some_iff.mp hTracks.has_text with
    ⟨copy, hCopy, hLookup⟩
  rw [List.take_append]
  by_cases hAbove : n ≤ attempt.cloneDir.length
  · have hNone : n - attempt.cloneDir.length = 0 := by omega
    simp [tree, hNone, List.take_prefix]
  · have hAll :
        attempt.cloneDir.take n = attempt.cloneDir :=
      List.take_of_length_le (by omega)
    have hMem : (path, text) ∈ copy.files := by
      rcases List.lookup_eq_some_iff.mp hLookup with
        ⟨before, after, hFiles, _⟩
      simp [hFiles]
    have hProper :
        (Path.parts path).take
            (n - attempt.cloneDir.length) ≠
          Path.parts path := by
      intro hSame
      have hLength := congrArg List.length hSame
      rw [List.length_append] at hn
      rw [List.length_take] at hLength
      omega
    simp only [tree, hAll, Path.namesBelow_append,
      Bool.or_eq_true]
    right
    simp only [GitWorld.isCloneDir, hCopy, Option.any_some,
      List.any_eq_true]
    refine ⟨_, hMem, ?_⟩
    simp [hProper, List.take_prefix]

/- The target of a tracked name is the tracked file. -/
theorem target_of_tracks
    {h : FluxHost}
    {path text : String}
    (hTracks : h.Tracks path text)
    (attempt : CloneAttempt) :
    h.target attempt path =
      .ok (attempt.cloneDir ++ Path.parts path,
        some text) := by
  have hNames :
      ∀ name ∈ attempt.cloneDir ++ Path.parts path,
        Path.IsName name := by
    intro name hName
    rcases List.mem_append.mp hName with hDir | hPart
    · exact attempt.isNames_cloneDir name hDir
    · exact hTracks.is_names name hPart
  rw [target, Path.openFile_eq_ok_iff,
    attempt.parts_targetPath_of_relative
      (Path.isAbsolute_eq_false_of_isNames hTracks.is_names)]
  constructor
  · have hRoot : (h.tree attempt).isDir [] = true := by
      simp [tree]
    rw [List.cons_append, Path.walk, if_pos hRoot]
    exact Path.walk_names hNames
      (fun _ hn => isDir_tree_of_tracks hTracks attempt hn)
  · rcases Option.bind_eq_some_iff.mp hTracks.has_text with
      ⟨copy, hCopy, hLookup⟩
    have hSome : Path.parts path ≠ [] := by
      simp [Path.parts]
    simp only [tree, Path.namesBelow_append]
    rw [hCopy, Path.relative_parts]
    simp [hLookup]

end FluxHost

end EngenhoPromessa

------------------------------------------------------------
-- The Run On The Repository
------------------------------------------------------------

namespace EngenhoPromessa

namespace FluxHost

open Fallible Git

theorem simulates_onGit
    {α : Type}
    (x : GitRun α)
    (h : FluxHost) :
    Simulates FluxHost.git (onGit x) x h :=
  simulates_zoom (fun _ _ => rfl) x h

theorem tracks_of_git_eq
    {h h' : FluxHost}
    {path text : String}
    (hTracks : h.Tracks path text)
    (hGit : h'.git = h.git) :
    h'.Tracks path text :=
  ⟨hTracks.is_names, by rw [hGit]; exact hTracks.has_text⟩

/- In the clone the read is that of git alone. -/
theorem simulates_readTarget
    {h : FluxHost}
    {path text : String}
    (hTracks : h.Tracks path text)
    (attempt : CloneAttempt) :
    Simulates FluxHost.git (readTarget attempt path)
      (FluxCommit.readTarget attempt.toAttempt path) h := by
  simp only [Simulates, readTarget, FluxCommit.readTarget,
    exec_ofExec]
  cases attempt.read with
  | some e => rfl
  | none =>
      simp only [hTracks.has_text,
        target_of_tracks hTracks attempt]

/- And so is the write. -/
theorem simulates_writeTarget
    {h : FluxHost}
    {path text : String}
    (hTracks : h.Tracks path text)
    (attempt : CloneAttempt)
    (written : String) :
    Simulates FluxHost.git (writeTarget attempt path written)
      (FluxCommit.writeTarget attempt.toAttempt path
        written) h := by
  simp only [Simulates, writeTarget, FluxCommit.writeTarget,
    exec_ofExec]
  cases attempt.write with
  | some e => rfl
  | none =>
      simp only [target_of_tracks hTracks attempt, setText,
        CloneAttempt.nameOf, Path.namesBelow_append,
        Option.map_some, Path.relative_parts]

/- And so are adding and committing. -/
theorem simulates_gitAddCommit
    {h : FluxHost}
    {path text : String}
    (hTracks : h.Tracks path text)
    (config : FluxCommitConfig)
    (attempt : CloneAttempt)
    (message : String) :
    Simulates FluxHost.git
      (gitAddCommit config attempt path message)
      (FluxCommit.gitAddCommit config attempt.toAttempt path
        message) h := by
  apply simulates_bind
  · have hCommand :
        (fun g => do
          let (place, _) ←
            (h.target attempt path).toOption
          added (← attempt.nameOf place) g) =
          added path := by
      funext g
      simp [target_of_tracks hTracks attempt,
        CloneAttempt.nameOf, Path.relative_parts,
        Except.toOption]
    have hAdd :
        (gitAdd attempt path).exec h =
          (onGit (runGit "add" attempt.add attempt.refusal
            (added path))).exec h := by
      simp only [gitAdd, exec_ofExec, hCommand]
    rw [Simulates, hAdd]
    exact simulates_onGit _ h
  · intro _ h' _
    exact simulates_onGit _ h'

/- A written file is tracked with its new text. -/
theorem tracks_of_exec_writeTarget
    {h h' : FluxHost}
    {path text written : String}
    (hTracks : h.Tracks path text)
    {attempt : CloneAttempt}
    {u : Unit}
    (hRun :
      (writeTarget attempt path written).exec h =
        (.ok u, h')) :
    h'.Tracks path written := by
  refine ⟨hTracks.is_names, ?_⟩
  rcases Option.bind_eq_some_iff.mp hTracks.has_text with
    ⟨copy, hCopy, _⟩
  have hWritten :=
    exec_eq_of_simulates
      (simulates_writeTarget hTracks attempt written) hRun
  simp only [FluxCommit.writeTarget, exec_ofExec, hCopy]
    at hWritten
  cases hWrite : attempt.write with
  | some e => simp [hWrite] at hWritten
  | none =>
      rw [hWrite] at hWritten
      rw [← (Prod.mk.inj hWritten).2]
      simp [lookup_setFile]

variable [SerdeYaml]

/- And so is all that follows the read. -/
theorem simulates_commitAndPush
    {h : FluxHost}
    {text : String}
    {spec : FluxCommitSpec}
    (hTracks : h.Tracks spec.path text)
    (config : FluxCommitConfig)
    (attempt : CloneAttempt)
    (patchedJson : Json) :
    Simulates FluxHost.git
      (commitAndPush config attempt spec patchedJson)
      (FluxCommit.commitAndPush config attempt.toAttempt spec
        patchedJson) h := by
  apply simulates_bind (simulates_onGit _ h)
  intro written h₁ hLift
  have hGit :=
    (FluxCommit.exec_liftExcept_eq_ok.mp
      (exec_eq_of_simulates (simulates_onGit _ h) hLift)).2
  have hTracks₁ := tracks_of_git_eq hTracks hGit.symm
  apply simulates_bind
    (simulates_writeTarget hTracks₁ attempt written)
  intro _ h₂ hWrite
  have hTracks₂ := tracks_of_exec_writeTarget hTracks₁ hWrite
  apply simulates_bind
    (simulates_gitAddCommit hTracks₂ config attempt _)
  intro _ h₃ _
  apply simulates_bind (simulates_onGit _ h₃)
  intro sha h₄ _
  split
  · exact simulates_pure _ _ h₄
  · exact simulates_bind (simulates_onGit _ h₄)
      (fun _ h₅ _ => simulates_pure _ _ h₅)

/-
  For the name of a file of the branch, the run on the host
  is the run on the repository.
-/
theorem simulates_runFluxCommit
    (config : FluxCommitConfig)
    (attempt : CloneAttempt)
    {spec : FluxCommitSpec}
    (hNames :
      ∀ part ∈ Path.parts spec.path, Path.IsName part)
    {h : FluxHost}
    (hTracked :
      ∀ b, h.git.remotes spec.repoUrl spec.branch = some b →
        (b.head.files.lookup spec.path).isSome = true) :
    Simulates FluxHost.git (runFluxCommit config attempt spec)
      (FluxCommit.runFluxCommit config attempt.toAttempt spec)
      h := by
  apply simulates_bind (simulates_onGit _ h)
  intro _ h₁ hTempdir
  have hRemotes :
      h₁.git.remotes = h.git.remotes :=
    keeps_of_exec_eq
      (FluxCommit.keeps_remotes_createTempdir _)
      (exec_eq_of_simulates (simulates_onGit _ h) hTempdir)
  apply simulates_bind (simulates_onGit _ h₁)
  intro _ h₂ hClone
  have hCloned :=
    (exec_runGit_eq_ok.mp
      (exec_eq_of_simulates (simulates_onGit _ h₁) hClone)).2
  rcases Option.map_eq_some_iff.mp hCloned with
    ⟨b, hBranch, hCopy⟩
  rw [hRemotes] at hBranch
  rcases Option.isSome_iff_exists.mp (hTracked b hBranch) with
    ⟨text, hText⟩
  have hTracks : h₂.Tracks spec.path text :=
    ⟨hNames, by rw [← hCopy]; exact hText⟩
  apply simulates_bind (simulates_readTarget hTracks attempt)
  intro original h₃ hRead
  have hSame :=
    (FluxCommit.exec_readTarget_eq_ok.mp
      (exec_eq_of_simulates
        (simulates_readTarget hTracks attempt) hRead)).2.1
  apply simulates_bind (simulates_onGit _ h₃)
  intro document h₄ hLift
  have hSame' :=
    (FluxCommit.exec_liftExcept_eq_ok.mp
      (exec_eq_of_simulates (simulates_onGit _ h₃) hLift)).2
  dsimp only
  split
  · exact simulates_pure _ _ h₄
  · exact simulates_commitAndPush
      (tracks_of_git_eq hTracks
        (hSame'.symm.trans hSame.symm)) config attempt _

end FluxHost

end EngenhoPromessa
