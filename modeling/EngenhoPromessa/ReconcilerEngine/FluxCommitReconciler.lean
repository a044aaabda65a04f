import EngenhoPromessa.Json.Equal
import EngenhoPromessa.ReconcilerEngine.FluxCommit
import EngenhoPromessa.ReconcilerEngine.Git
import EngenhoPromessa.ReconcilerEngine.Specs
import EngenhoPromessa.Text.Path

/-
  The flux commit reconciler: it clones a branch, merges a
  patch into one file, and commits and pushes the result if
  the document has changed. Here the path of a spec is the
  name of a file of the repository.

  Key definitions include:
    * `SerdeYaml`
    * `FluxCommit.runFluxCommit`
    * `FluxCommit.act`

  Key theorems include:
    * `FluxCommit.exec_readTarget_eq_ok`
    * `FluxCommit.keeps_remotes_gitAddCommit`
-/

------------------------------------------------------------
-- Documents
------------------------------------------------------------

namespace EngenhoPromessa

/- The YAML crate, and its values as JSON and back. -/
class SerdeYaml where
  Value : Type
  fromStr : String → Except String Value
  toString : Value → Except String String
  toJson : Value → Except String Json
  ofJson : Json → Except String Value

namespace FluxCommit

variable [SerdeYaml]

/- The document in a YAML text. -/
def yamlStrToJson
    (yamlInput : String) : Except ReconcilerError Json :=
  match SerdeYaml.fromStr yamlInput with
  | .error e =>
      .error (.internal ("yaml parse failed: " ++ e))
  | .ok yamlVal =>
      match SerdeYaml.toJson yamlVal with
      | .error e =>
          .error (.internal
            ("yaml→json conversion failed: " ++ e))
      | .ok jsonVal => .ok jsonVal

/- A document as a YAML text. -/
def jsonToYamlStr
    (jsonVal : Json) : Except ReconcilerError String :=
  match SerdeYaml.ofJson jsonVal with
  | .error e =>
      .error (.internal
        ("json→yaml conversion failed: " ++ e))
  | .ok yamlVal =>
      match SerdeYaml.toString yamlVal with
      | .error e =>
          .error (.internal
            ("yaml serialize failed: " ++ e))
      | .ok text => .ok text

/- A document is read if both conversions succeed. -/
theorem yamlStrToJson_eq_ok_iff
    {yamlInput : String}
    {document : Json} :
    yamlStrToJson yamlInput = .ok document ↔
      ∃ yamlVal, SerdeYaml.fromStr yamlInput = .ok yamlVal ∧
        SerdeYaml.toJson yamlVal = .ok document := by
  unfold yamlStrToJson
  cases SerdeYaml.fromStr yamlInput with
  | error e => simp
  | ok yamlVal =>
      cases hJson : SerdeYaml.toJson yamlVal with
      | error e => simp [hJson]
      | ok jsonVal => simp [hJson]

/- It is written if both of these do. -/
theorem jsonToYamlStr_eq_ok_iff
    {document : Json}
    {text : String} :
    jsonToYamlStr document = .ok text ↔
      ∃ yamlVal, SerdeYaml.ofJson document = .ok yamlVal ∧
        SerdeYaml.toString yamlVal = .ok text := by
  unfold jsonToYamlStr
  cases SerdeYaml.ofJson document with
  | error e => simp
  | ok yamlVal =>
      cases hText : SerdeYaml.toString yamlVal with
      | error e => simp [hText]
      | ok text' => simp [hText]

/- What a document is written as reads back equal to it. -/
def YamlRoundTrips : Prop :=
  ∀ document text, jsonToYamlStr document = .ok text →
    ∃ read, yamlStrToJson text = .ok read ∧
      read.Equal document

end FluxCommit

end EngenhoPromessa

------------------------------------------------------------
-- The Pipeline
------------------------------------------------------------

namespace EngenhoPromessa

/- Who commits, and whether it is pushed. -/
structure FluxCommitConfig where
  authorName : String
  authorEmail : String
  dryRun : Bool
deriving DecidableEq, Repr

/- What a commit has done, and where. -/
structure FluxCommitReceipt where
  commitSha : String
  repoUrl : String
  branch : String
  path : String
  committedAt : DateTime
  dryRun : Bool
deriving DecidableEq, Repr

namespace FluxCommit

open Fallible Git

/- A fresh directory, without a clone in it. -/
def createTempdir (attempt : Attempt) : GitRun Unit :=
  ofExec (fun w =>
    match attempt.tempdir with
    | some e =>
        (.error (.internal ("tempdir create failed: " ++ e)),
          w)
    | none => (.ok (), { w with workingCopy := none }))

/- `clone_dir.join(&spec.path)`. -/
def targetPath
    (attempt : Attempt)
    (path : String) : String :=
  Path.join (Path.join attempt.workdir "repo") path

/- Reads a file of the clone. -/
def readTarget
    (attempt : Attempt)
    (path : String) : GitRun String :=
  let refused (e : String) : ReconcilerError :=
    .substrateRefused ("read " ++ targetPath attempt path ++
      " after clone failed: " ++ e)
  ofExec (fun w =>
    match attempt.read with
    | some e => (.error (refused e), w)
    | none =>
        match w.workingCopy.bind (fun copy =>
            copy.files.lookup path) with
        | none =>
            (.error (refused
              "No such file or directory (os error 2)"), w)
        | some text => (.ok text, w))

/- Writes a file of the clone. -/
def writeTarget
    (attempt : Attempt)
    (path text : String) : GitRun Unit :=
  ofExec (fun w =>
    match attempt.write with
    | some e =>
        (.error (.internal ("write " ++
          targetPath attempt path ++ " failed: " ++ e)), w)
    | none =>
        (.ok (), { w with
          workingCopy := w.workingCopy.map (fun copy =>
            { copy with
              files := setFile path text copy.files }) }))

/- `git add` and `git commit`. -/
def gitAddCommit
    (config : FluxCommitConfig)
    (attempt : Attempt)
    (path message : String) : GitRun Unit := do
  runGit "add" attempt.add attempt.refusal (added path)
  runGit "commit" attempt.commit attempt.refusal
    (committed config.authorName config.authorEmail message
      attempt.sha)

/- `git rev-parse HEAD` in the clone. -/
def gitHeadSha (attempt : Attempt) : GitRun String :=
  ofExec (fun w =>
    match attempt.revParse with
    | some (.notSpawned e) =>
        (.error (.internal
          ("git rev-parse spawn failed: " ++ e)), w)
    | some (.exited stderr) =>
        (.error (.internal ("git rev-parse HEAD failed: " ++
          Str.trim stderr)), w)
    | none =>
        match w.workingCopy with
        | none =>
            (.error (.internal
              ("git rev-parse HEAD failed: " ++
                Str.trim attempt.refusal)), w)
        | some copy =>
            (.ok (Str.trim (copy.head.sha ++ "\n")), w))

/-
  The message that was asked for, or one that names the
  path.
-/
def messageOf (spec : FluxCommitSpec) : String :=
  spec.commitMessage.getD
    ("engenho-promessa: FluxCommit patch\n\npath: " ++
      spec.path ++ "\nReconciler: FluxCommit")

/- The receipt of a commit. -/
def receiptOf
    (config : FluxCommitConfig)
    (attempt : Attempt)
    (spec : FluxCommitSpec)
    (sha : String) : FluxCommitReceipt where
  commitSha := sha
  repoUrl := spec.repoUrl
  branch := spec.branch
  path := spec.path
  committedAt := attempt.committedAt
  dryRun := config.dryRun

/- An error of a conversion ends the run as it is. -/
def liftExcept
    {α : Type} : Except ReconcilerError α → GitRun α
| .error e => ofExec (fun w => (.error e, w))
| .ok a => pure a

variable [SerdeYaml]

/- From the changed document to the receipt. -/
def commitAndPush
    (config : FluxCommitConfig)
    (attempt : Attempt)
    (spec : FluxCommitSpec)
    (patchedJson : Json) :
    GitRun (ReconcilerOutcome FluxCommitReceipt) := do
  let patchedYaml ← liftExcept (jsonToYamlStr patchedJson)
  writeTarget attempt spec.path patchedYaml
  gitAddCommit config attempt spec.path (messageOf spec)
  let sha ← gitHeadSha attempt
  if config.dryRun then
    return .applied (receiptOf config attempt spec sha)
  else
    runGit "push" attempt.push attempt.refusal
      (pushed spec.branch)
    return .applied (receiptOf config attempt spec sha)

/- Documents are compared as values, not as texts. -/
def runFluxCommit
    (config : FluxCommitConfig)
    (attempt : Attempt)
    (spec : FluxCommitSpec) :
    GitRun (ReconcilerOutcome FluxCommitReceipt) := do
  createTempdir attempt
  runGit "clone" attempt.clone attempt.refusal
    (cloned spec.repoUrl spec.branch)
  let original ← readTarget attempt spec.path
  let originalJson ← liftExcept (yamlStrToJson original)
  let patchedJson := mergeJson originalJson spec.patch
  if patchedJson.equals originalJson then
    return .alreadyConverged
  else
    commitAndPush config attempt spec patchedJson

/- The temporary directory goes when the run is over. -/
def act
    (config : FluxCommitConfig)
    (attempt : Attempt)
    (spec : FluxCommitSpec)
    (w : GitWorld) :
    ReconcilerOutcome FluxCommitReceipt × GitWorld :=
  let (result, w') :=
    (runFluxCommit config attempt spec).exec w
  (match result with
    | .ok outcome => outcome
    | .error error => .failed error,
    { w' with workingCopy := none })

end FluxCommit

end EngenhoPromessa

------------------------------------------------------------
-- Stages
------------------------------------------------------------

namespace EngenhoPromessa

namespace FluxCommit

open Fallible Git

/- A directory changes no remote. -/
theorem keeps_remotes_createTempdir (attempt : Attempt) :
    Keeps GitWorld.remotes (createTempdir attempt) := by
  intro w
  simp only [createTempdir, exec_ofExec]
  cases attempt.tempdir with
  | none => rfl
  | some e => rfl

/- Nor does a clone. -/
theorem keeps_remotes_clone
    (attempt : Attempt)
    (url branch : String) :
    Keeps GitWorld.remotes
      (runGit "clone" attempt.clone attempt.refusal
        (cloned url branch)) := by
  apply keeps_runGit
  intro w w' hCloned
  rcases Option.map_eq_some_iff.mp hCloned with ⟨b, _, rfl⟩
  rfl

/- A read changes nothing at all. -/
theorem exec_readTarget_snd
    (attempt : Attempt)
    (path : String)
    (w : GitWorld) :
    ((readTarget attempt path).exec w).2 = w := by
  simp only [readTarget, exec_ofExec]
  cases attempt.read with
  | some e => rfl
  | none =>
      dsimp only
      cases w.workingCopy.bind (fun copy =>
          copy.files.lookup path) with
      | none => rfl
      | some text => rfl

/- A read succeeds if the file is in the clone. -/
theorem exec_readTarget_eq_ok
    {attempt : Attempt}
    {path text : String}
    {w w' : GitWorld} :
    (readTarget attempt path).exec w = (.ok text, w') ↔
      attempt.read = none ∧ w = w' ∧
        w.workingCopy.bind (fun copy =>
          copy.files.lookup path) = some text := by
  simp only [readTarget, exec_ofExec]
  cases attempt.read with
  | some e => simp
  | none =>
      dsimp only
      cases w.workingCopy.bind (fun copy =>
          copy.files.lookup path) with
      | none => simp
      | some found => simp [and_comm]

/- A write stays in the clone. -/
theorem keeps_remotes_writeTarget
    (attempt : Attempt)
    (path text : String) :
    Keeps GitWorld.remotes (writeTarget attempt path text) := by
  intro w
  simp only [writeTarget, exec_ofExec]
  cases attempt.write with
  | none => rfl
  | some e => rfl

/- So does an add. -/
theorem remotes_added
    {path : String}
    {w w' : GitWorld}
    (hAdded : added path w = some w') :
    w'.remotes = w.remotes := by
  rcases Option.bind_eq_some_iff.mp hAdded with
    ⟨copy, _, hRest⟩
  rcases Option.bind_eq_some_iff.mp hRest with
    ⟨text, _, hPure⟩
  rw [← Option.some.inj hPure]

/- And a commit. -/
theorem remotes_committed
    {authorName authorEmail message sha : String}
    {w w' : GitWorld}
    (hCommitted :
      committed authorName authorEmail message sha w =
        some w') :
    w'.remotes = w.remotes := by
  rcases Option.bind_eq_some_iff.mp hCommitted with
    ⟨copy, _, hRest⟩
  split at hRest
  · simp at hRest
  · rw [← Option.some.inj hRest]

/- And both of them together. -/
theorem keeps_remotes_gitAddCommit
    (config : FluxCommitConfig)
    (attempt : Attempt)
    (path message : String) :
    Keeps GitWorld.remotes
      (gitAddCommit config attempt path message) :=
  keeps_bind
    (keeps_runGit _ _ _ (fun _ _ => remotes_added))
    (fun _ =>
      keeps_runGit _ _ _ (fun _ _ => remotes_committed))

/- Asking for the head changes nothing. -/
theorem exec_gitHeadSha_snd
    (attempt : Attempt)
    (w : GitWorld) :
    ((gitHeadSha attempt).exec w).2 = w := by
  simp only [gitHeadSha, exec_ofExec]
  rcases attempt.revParse with _ | _ | _
  · dsimp only
    cases w.workingCopy with
    | none => rfl
    | some copy => rfl
  · rfl
  · rfl

/- A known result has to be a success. -/
theorem exec_liftExcept_eq_ok
    {α : Type}
    {x : Except ReconcilerError α}
    {a : α}
    {w w' : GitWorld} :
    (liftExcept x).exec w = (.ok a, w') ↔
      x = .ok a ∧ w = w' := by
  cases x with
  | error e => simp [liftExcept]
  | ok b => simp [liftExcept]

/- And it changes no remote. -/
theorem keeps_remotes_liftExcept
    {α : Type}
    (x : Except ReconcilerError α) :
    Keeps GitWorld.remotes (liftExcept x) := by
  cases x with
  | error e => exact fun _ => rfl
  | ok a => exact keeps_pure _ _

end FluxCommit

end EngenhoPromessa
