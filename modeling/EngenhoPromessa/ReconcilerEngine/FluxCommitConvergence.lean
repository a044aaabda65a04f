import EngenhoPromessa.External.Reference
import EngenhoPromessa.ReconcilerEngine.FluxCommitReconciler

/-
  A flux commit is all or nothing, and it converges.

  Only the push takes effect on the remote, and it comes
  last, so an attempt that ends otherwise has left no trace.
  Since merges are idempotent, a second attempt finds the
  document as it wants it.

  Key definitions include:
    * `FluxCommit.AtomicAndConverges`

  Key theorems include:
    * `FluxCommit.atomic_runFluxCommit`
    * `FluxCommit.exec_runFluxCommit_eq_ok`
    * `FluxCommit.act_atomicAndConverges`
-/

------------------------------------------------------------
-- Atomicity
------------------------------------------------------------

namespace EngenhoPromessa

namespace FluxCommit

open Fallible Git

variable [SerdeYaml]

/- The push comes last: an error before or in it undoes all. -/
theorem atomic_commitAndPush
    (config : FluxCommitConfig)
    (attempt : Attempt)
    (spec : FluxCommitSpec)
    (patchedJson : Json) :
    Atomic GitWorld.remotes
      (commitAndPush config attempt spec patchedJson) := by
  apply atomic_bind (keeps_remotes_liftExcept _)
  intro text
  apply atomic_bind (keeps_remotes_writeTarget _ _ _)
  intro _
  apply atomic_bind (keeps_remotes_gitAddCommit _ _ _ _)
  intro _
  apply atomic_bind
  · exact fun w => congrArg GitWorld.remotes
      (exec_gitHeadSha_snd attempt w)
  · intro sha
    split
    · exact atomic_of_keeps (keeps_pure _ _)
    · exact atomic_bind_pure (atomic_runGit _ _ _ _ _) _

/- A commit is on the remote as a whole, or not at all. -/
theorem atomic_runFluxCommit
    (config : FluxCommitConfig)
    (attempt : Attempt)
    (spec : FluxCommitSpec) :
    Atomic GitWorld.remotes
      (runFluxCommit config attempt spec) := by
  apply atomic_bind (keeps_remotes_createTempdir _)
  intro _
  apply atomic_bind (keeps_remotes_clone _ _ _)
  intro _
  apply atomic_bind
  · exact fun w => congrArg GitWorld.remotes
      (exec_readTarget_snd attempt spec.path w)
  · intro original
    apply atomic_bind (keeps_remotes_liftExcept _)
    intro originalJson
    dsimp only
    split
    · exact atomic_of_keeps (keeps_pure _ _)
    · exact atomic_commitAndPush _ _ _ _

end FluxCommit

end EngenhoPromessa

------------------------------------------------------------
-- Success
------------------------------------------------------------

namespace EngenhoPromessa

namespace FluxCommit

open Fallible Git

/- The document a commit holds under a path. -/
def documentIn
    [SerdeYaml]
    (c : Commit)
    (path : String) : Option Json := do
  let text ← c.files.lookup path
  (yamlStrToJson text).toOption

/- The world with a fresh clone of the branch. -/
def withClone
    (w : GitWorld)
    (url branch : String)
    (b : Branch) : GitWorld :=
  { w with
    workingCopy := some
      { origin := url
        branch := branch
        base := b.head
        files := b.head.files
        index := b.head.files
        commits := [] } }

/- The commit an attempt makes of a document's new text. -/
def newCommit
    (config : FluxCommitConfig)
    (attempt : Attempt)
    (spec : FluxCommitSpec)
    (base : Commit)
    (text : String) : Commit where
  sha := attempt.sha
  authorName := config.authorName
  authorEmail := config.authorEmail
  message := messageOf spec
  files := setFile spec.path text base.files

/- The clone after the text was written. -/
def withText
    (w : GitWorld)
    (url branch : String)
    (b : Branch)
    (path text : String) : GitWorld :=
  { w with
    workingCopy := some
      { origin := url
        branch := branch
        base := b.head
        files := setFile path text b.head.files
        index := b.head.files
        commits := [] } }

/- The clone after its commit was made. -/
def withCommit
    (w : GitWorld)
    (url branch : String)
    (b : Branch)
    (new : Commit) : GitWorld :=
  { w with
    workingCopy := some
      { origin := url
        branch := branch
        base := b.head
        files := new.files
        index := new.files
        commits := [new] }
    made := w.made ++ [new] }

/- What is written stands in the clone. -/
theorem exec_writeTarget_withClone
    {attempt : Attempt}
    {w w' : GitWorld}
    {url branch path text : String}
    {b : Branch}
    {u : Unit}
    (hRun :
      (writeTarget attempt path text).exec
          (withClone w url branch b) =
        (.ok u, w')) :
    w' = withText w url branch b path text := by
  simp only [writeTarget, exec_ofExec] at hRun
  cases hWrite : attempt.write with
  | some e => simp [hWrite] at hRun
  | none =>
      rw [hWrite] at hRun
      exact (Prod.mk.inj hRun).2.symm

/- A commit of the new text, which has to be another one. -/
theorem exec_gitAddCommit_withText
    {config : FluxCommitConfig}
    {attempt : Attempt}
    {spec : FluxCommitSpec}
    {w w' : GitWorld}
    {b : Branch}
    {text : String}
    {u : Unit}
    (hRun :
      (gitAddCommit config attempt spec.path
          (messageOf spec)).exec
          (withText w spec.repoUrl spec.branch b spec.path
            text) =
        (.ok u, w')) :
    w' = withCommit w spec.repoUrl spec.branch b
      (newCommit config attempt spec b.head text) := by
  rcases exec_bind_eq_ok.mp hRun with
    ⟨_, w₁, hAdd, hCommit⟩
  have hAdded := (exec_runGit_eq_ok.mp hAdd).2
  have hCommitted := (exec_runGit_eq_ok.mp hCommit).2
  have hText :
      (setFile spec.path text b.head.files).lookup
          spec.path =
        some text := by
    rw [lookup_setFile, if_pos rfl]
  simp only [added, withText, Option.bind_eq_bind,
    Option.bind_some, hText, Option.pure_def,
    Option.some.injEq] at hAdded
  subst hAdded
  simp only [committed, Option.bind_eq_bind,
    Option.bind_some] at hCommitted
  split at hCommitted
  · simp at hCommitted
  · exact (Option.some.inj hCommitted).symm

/- A push moves the branch to the new commit. -/
theorem pushed_withCommit
    {w : GitWorld}
    {url branch : String}
    {b : Branch}
    (hBranch : w.remotes url branch = some b)
    (new : Commit) :
    pushed branch (withCommit w url branch b new) =
      some { withCommit w url branch b new with
        remotes :=
          setBranch url branch (b.extend new) w.remotes } := by
  simp [pushed, withCommit, hBranch, Branch.extend]

/- What a run leaves that has something to commit. -/
theorem exec_commitAndPush_eq_ok
    [SerdeYaml]
    {config : FluxCommitConfig}
    {attempt : Attempt}
    {spec : FluxCommitSpec}
    {patchedJson : Json}
    {w w' : GitWorld}
    {b : Branch}
    (hBranch : w.remotes spec.repoUrl spec.branch = some b)
    {outcome : ReconcilerOutcome FluxCommitReceipt}
    (hRun :
      (commitAndPush config attempt spec patchedJson).exec
          (withClone w spec.repoUrl spec.branch b) =
        (.ok outcome, w')) :
    ∃ text sha,
      jsonToYamlStr patchedJson = .ok text ∧
      outcome =
        .applied (receiptOf config attempt spec sha) ∧
      w'.made =
        w.made ++
          [newCommit config attempt spec b.head text] ∧
      w'.remotes =
        if config.dryRun then w.remotes
        else
          setBranch spec.repoUrl spec.branch
            (b.extend
              (newCommit config attempt spec b.head text))
            w.remotes := by
  rcases exec_bind_eq_ok.mp hRun with
    ⟨text, w₁, hLift, hRun⟩
  rcases exec_liftExcept_eq_ok.mp hLift with ⟨hYaml, rfl⟩
  rcases exec_bind_eq_ok.mp hRun with ⟨_, w₂, hWrite, hRun⟩
  obtain rfl := exec_writeTarget_withClone hWrite
  rcases exec_bind_eq_ok.mp hRun with ⟨_, w₃, hCommit, hRun⟩
  obtain rfl := exec_gitAddCommit_withText hCommit
  rcases exec_bind_eq_ok.mp hRun with ⟨sha, w₄, hSha, hRun⟩
  have hSame := exec_gitHeadSha_snd attempt
    (withCommit w spec.repoUrl spec.branch b
      (newCommit config attempt spec b.head text))
  rw [hSha] at hSame
  obtain rfl : w₄ = _ := hSame
  refine ⟨text, sha, hYaml, ?_⟩
  cases hDry : config.dryRun with
  | true =>
      simp only [hDry, if_true] at hRun ⊢
      rcases exec_pure_eq_ok.mp hRun with ⟨hOutcome, rfl⟩
      exact ⟨hOutcome.symm, rfl, rfl⟩
  | false =>
      simp only [hDry, Bool.false_eq_true, if_false]
        at hRun ⊢
      rcases exec_bind_eq_ok.mp hRun with
        ⟨_, w₅, hPush, hPure⟩
      rcases exec_pure_eq_ok.mp hPure with ⟨hOutcome, rfl⟩
      have hPushed := (exec_runGit_eq_ok.mp hPush).2
      rw [pushed_withCommit hBranch] at hPushed
      rw [← Option.some.inj hPushed]
      exact ⟨hOutcome.symm, rfl, rfl⟩

/- The ways a run succeeds. -/
theorem exec_runFluxCommit_eq_ok
    [SerdeYaml]
    {config : FluxCommitConfig}
    {attempt : Attempt}
    {spec : FluxCommitSpec}
    {w w' : GitWorld}
    {outcome : ReconcilerOutcome FluxCommitReceipt}
    (hRun :
      (runFluxCommit config attempt spec).exec w =
        (.ok outcome, w')) :
    ∃ b document,
      w.remotes spec.repoUrl spec.branch = some b ∧
      documentIn b.head spec.path = some document ∧
      (outcome = .alreadyConverged ∧
          (mergeJson document spec.patch).Equal document ∧
          w'.remotes = w.remotes ∧ w'.made = w.made ∨
        ∃ text sha,
          jsonToYamlStr (mergeJson document spec.patch) =
            .ok text ∧
          outcome =
            .applied (receiptOf config attempt spec sha) ∧
          w'.made =
            w.made ++
              [newCommit config attempt spec b.head text] ∧
          w'.remotes =
            if config.dryRun then w.remotes
            else
              setBranch spec.repoUrl spec.branch
                (b.extend (newCommit config attempt spec
                  b.head text))
                w.remotes) := by
  rcases exec_bind_eq_ok.mp hRun with
    ⟨_, w₁, hTempdir, hRun⟩
  have hFresh : w₁ = { w with workingCopy := none } := by
    simp only [createTempdir, exec_ofExec] at hTempdir
    cases hTemp : attempt.tempdir with
    | some e => simp [hTemp] at hTempdir
    | none =>
        rw [hTemp] at hTempdir
        exact (Prod.mk.inj hTempdir).2.symm
  subst hFresh
  rcases exec_bind_eq_ok.mp hRun with ⟨_, w₂, hClone, hRun⟩
  rcases Option.map_eq_some_iff.mp
    (exec_runGit_eq_ok.mp hClone).2 with ⟨b, hBranch, hCloned⟩
  obtain rfl : withClone w spec.repoUrl spec.branch b = w₂ :=
    hCloned
  rcases exec_bind_eq_ok.mp hRun with
    ⟨original, w₃, hRead, hRun⟩
  rcases exec_readTarget_eq_ok.mp hRead with
    ⟨_, rfl, hOriginal⟩
  rcases exec_bind_eq_ok.mp hRun with
    ⟨document, w₄, hLift, hRun⟩
  rcases exec_liftExcept_eq_ok.mp hLift with ⟨hYaml, rfl⟩
  have hDocument :
      documentIn b.head spec.path = some document := by
    have hText :
        b.head.files.lookup spec.path = some original :=
      hOriginal
    simp [documentIn, hText, hYaml, Except.toOption]
  refine ⟨b, document, hBranch, hDocument, ?_⟩
  dsimp only at hRun
  split at hRun
  · rename_i hEquals
    rcases exec_pure_eq_ok.mp hRun with ⟨hOutcome, rfl⟩
    exact Or.inl ⟨hOutcome.symm,
      (Json.equals_iff _ _).mp hEquals, rfl, rfl⟩
  · exact Or.inr (exec_commitAndPush_eq_ok hBranch hRun)

end FluxCommit

end EngenhoPromessa

------------------------------------------------------------
-- Convergence
------------------------------------------------------------

namespace EngenhoPromessa

/- The attempt gets as far as comparing the documents. -/
def Attempt.Reads (attempt : Attempt) : Prop :=
  attempt.tempdir = none ∧ attempt.clone = none ∧
    attempt.read = none

namespace FluxCommit

open Fallible Git

variable [SerdeYaml]

/- There is nothing to do where the merge has been made. -/
theorem act_eq_alreadyConverged
    (config : FluxCommitConfig)
    {attempt : Attempt}
    (hReads : attempt.Reads)
    {spec : FluxCommitSpec}
    {w : GitWorld}
    {b : Branch}
    (hBranch : w.remotes spec.repoUrl spec.branch = some b)
    {document : Json}
    (hDocument :
      documentIn b.head spec.path = some document)
    (hMerged :
      (mergeJson document spec.patch).Equal document) :
    (act config attempt spec w).1 = .alreadyConverged := by
  rcases hReads with ⟨hTempdir, hClone, hRead⟩
  rcases Option.bind_eq_some_iff.mp hDocument with
    ⟨text, hText, hYaml⟩
  have hParsed : yamlStrToJson text = .ok document := by
    cases hResult : yamlStrToJson text with
    | error e => simp [hResult, Except.toOption] at hYaml
    | ok j =>
        rw [hResult] at hYaml
        rw [Option.some.inj hYaml]
  have hFirst :
      (createTempdir attempt).exec w =
        (.ok (), { w with workingCopy := none }) := by
    simp [createTempdir, hTempdir]
  have hSecond :
      (runGit "clone" attempt.clone attempt.refusal
          (cloned spec.repoUrl spec.branch)).exec
          { w with workingCopy := none } =
        (.ok (), withClone w spec.repoUrl spec.branch b) :=
    exec_runGit_eq_ok.mpr
      ⟨hClone, by simp [cloned, hBranch, withClone]⟩
  have hThird :
      (readTarget attempt spec.path).exec
          (withClone w spec.repoUrl spec.branch b) =
        (.ok text,
          withClone w spec.repoUrl spec.branch b) :=
    exec_readTarget_eq_ok.mpr
      ⟨hRead, rfl, by simpa [withClone] using hText⟩
  have hRun :
      (runFluxCommit config attempt spec).exec w =
        (.ok .alreadyConverged,
          withClone w spec.repoUrl spec.branch b) := by
    rw [runFluxCommit, exec_bind_ok hFirst,
      exec_bind_ok hSecond, exec_bind_ok hThird,
      exec_bind_ok (exec_liftExcept_eq_ok.mpr
        ⟨hParsed, rfl⟩)]
    simp [(Json.equals_iff _ _).mpr hMerged]
  rw [act, hRun]

/- A merge written out and read back is merged already. -/
theorem equal_mergeJson_of_written
    (hYaml : YamlRoundTrips)
    {document patch : Json}
    {text : String}
    (hText :
      jsonToYamlStr (mergeJson document patch) = .ok text) :
    ∃ read, yamlStrToJson text = .ok read ∧
      read.Equal (mergeJson document patch) ∧
      (mergeJson read patch).Equal read := by
  rcases hYaml _ text hText with ⟨read, hRead, hEqual⟩
  refine ⟨read, hRead, hEqual, ?_⟩
  rw [mergeJson_eq_mergePatch] at hEqual ⊢
  have hAgain :
      (Json.mergePatch read patch).Equal
        (Json.mergePatch (Json.mergePatch document patch)
          patch) :=
    Json.equal_mergePatch_of_equal hEqual patch
  exact Json.alike_trans
    (Json.alike_trans hAgain
      (Json.equal_mergePatch_twice document patch))
    (Json.alike_symm hEqual)

/- The outcome of a commit that went to the remote. -/
def IsPushed :
    ReconcilerOutcome FluxCommitReceipt → Prop
| .applied receipt => receipt.dryRun = false
| .alreadyConverged => False
| .flagGated _ => False
| .failed _ => False

instance decidableIsPushed :
    (outcome : ReconcilerOutcome FluxCommitReceipt) →
      Decidable (IsPushed outcome)
| .applied receipt =>
    inferInstanceAs (Decidable (receipt.dryRun = false))
| .alreadyConverged => inferInstanceAs (Decidable False)
| .flagGated _ => inferInstanceAs (Decidable False)
| .failed _ => inferInstanceAs (Decidable False)

/-
  What is promised of an attempt, from the world before it
  to its outcome and the world after it.
-/
structure AtomicAndConverges
    (spec : FluxCommitSpec)
    (w : GitWorld)
    (outcome : ReconcilerOutcome FluxCommitReceipt)
    (w' : GitWorld) : Prop where
  remotes_unchanged :
    ¬ IsPushed outcome → w'.remotes = w.remotes
  converged_is_merged :
    outcome = .alreadyConverged →
      w'.made = w.made ∧
      ∃ b document,
        w.remotes spec.repoUrl spec.branch = some b ∧
        documentIn b.head spec.path = some document ∧
        (Json.mergePatch document spec.patch).Equal document
  pushed_one_commit :
    IsPushed outcome →
      ∃ b new document merged,
        w.remotes spec.repoUrl spec.branch = some b ∧
        w'.remotes =
          setBranch spec.repoUrl spec.branch (b.extend new)
            w.remotes ∧
        w'.made = w.made ++ [new] ∧
        documentIn b.head spec.path = some document ∧
        documentIn new spec.path = some merged ∧
        merged.Equal (Json.mergePatch document spec.patch)
  second_converged :
    IsPushed outcome →
      ∀ config (attempt : Attempt), attempt.Reads →
        (act config attempt spec w').1 = .alreadyConverged

/- An attempt that changes no remote and makes no commit. -/
theorem atomicAndConverges_of_not_pushed
    {spec : FluxCommitSpec}
    {w w' : GitWorld}
    {outcome : ReconcilerOutcome FluxCommitReceipt}
    (hNot : ¬ IsPushed outcome)
    (hRemotes : w'.remotes = w.remotes)
    (hConverged :
      outcome = .alreadyConverged →
        w'.made = w.made ∧
        ∃ b document,
          w.remotes spec.repoUrl spec.branch = some b ∧
          documentIn b.head spec.path = some document ∧
          (Json.mergePatch document
            spec.patch).Equal document) :
    AtomicAndConverges spec w outcome w' where
  remotes_unchanged := fun _ => hRemotes
  converged_is_merged := hConverged
  pushed_one_commit := fun hPushed => absurd hPushed hNot
  second_converged := fun hPushed => absurd hPushed hNot

/- An attempt that pushes the commit of a written merge. -/
theorem atomicAndConverges_of_pushed
    (hYaml : YamlRoundTrips)
    {config : FluxCommitConfig}
    {attempt : Attempt}
    {spec : FluxCommitSpec}
    {w w' : GitWorld}
    {receipt : FluxCommitReceipt}
    (hPushed : IsPushed (.applied receipt))
    {b : Branch}
    (hBranch : w.remotes spec.repoUrl spec.branch = some b)
    {document : Json}
    (hDocument :
      documentIn b.head spec.path = some document)
    {text : String}
    (hText :
      jsonToYamlStr (mergeJson document spec.patch) =
        .ok text)
    (hMade :
      w'.made =
        w.made ++
          [newCommit config attempt spec b.head text])
    (hRemotes :
      w'.remotes =
        setBranch spec.repoUrl spec.branch
          (b.extend
            (newCommit config attempt spec b.head text))
          w.remotes) :
    AtomicAndConverges spec w (.applied receipt) w' := by
  rcases equal_mergeJson_of_written hYaml hText with
    ⟨read, hRead, hEqual, hMerged⟩
  have hNew :
      documentIn
          (newCommit config attempt spec b.head text)
          spec.path =
        some read := by
    simp [documentIn, newCommit, lookup_setFile, hRead,
      Except.toOption]
  have hAfter :
      w'.remotes spec.repoUrl spec.branch =
        some (b.extend
          (newCommit config attempt spec b.head text)) := by
    rw [hRemotes, setBranch_self]
  rw [mergeJson_eq_mergePatch] at hEqual
  exact
    { remotes_unchanged := fun hNot => absurd hPushed hNot
      converged_is_merged := by simp
      pushed_one_commit := fun _ =>
        ⟨b, _, document, read, hBranch, hRemotes, hMade,
          hDocument, hNew, hEqual⟩
      second_converged := fun _ config' attempt' hReads =>
        act_eq_alreadyConverged config' hReads hAfter hNew
          hMerged }

/- A flux commit is atomic, and it converges. -/
theorem act_atomicAndConverges
    (hYaml : YamlRoundTrips)
    (config : FluxCommitConfig)
    (attempt : Attempt)
    (spec : FluxCommitSpec)
    (w : GitWorld) :
    AtomicAndConverges spec w (act config attempt spec w).1
      (act config attempt spec w).2 := by
  rcases hRun : (runFluxCommit config attempt spec).exec w
    with ⟨e | outcome, w'⟩
  · rw [act, hRun]
    have hRemotes :=
      atomic_runFluxCommit config attempt spec w e w' hRun
    exact atomicAndConverges_of_not_pushed (fun h => h)
      hRemotes (by simp)
  · rw [act, hRun]
    rcases exec_runFluxCommit_eq_ok hRun with
      ⟨b, document, hBranch, hDocument, hCases⟩
    rcases hCases with
      ⟨rfl, hMerged, hRemotes, hMade⟩ |
        ⟨text, sha, hText, rfl, hMade, hRemotes⟩
    · rw [mergeJson_eq_mergePatch] at hMerged
      exact atomicAndConverges_of_not_pushed (fun h => h)
        hRemotes (fun _ =>
          ⟨hMade, b, document, hBranch, hDocument, hMerged⟩)
    · cases hDry : config.dryRun with
      | true =>
          rw [hDry, if_pos rfl] at hRemotes
          have hNot :
              ¬ IsPushed (.applied
                (receiptOf config attempt spec sha)) := by
            simp [IsPushed, receiptOf, hDry]
          exact atomicAndConverges_of_not_pushed hNot
            hRemotes (by simp)
      | false =>
          rw [hDry] at hRemotes
          exact atomicAndConverges_of_pushed hYaml hDry
            hBranch hDocument hText hMade hRemotes

end FluxCommit

end EngenhoPromessa

------------------------------------------------------------
-- A Pushed Commit
------------------------------------------------------------

namespace EngenhoPromessa

namespace Reference

/- Flat documents of plain strings, a line for each. -/
def parseYaml (text : String) : Except String Json :=
  ((Str.lines text).mapM (fun line =>
    match Str.splitOnce ':' line with
    | some (key, value) =>
        Except.ok (key, Json.str (Str.trimStart value))
    | none => Except.error "not a plain mapping")).map .obj

/- The text of a flat document, one member a line. -/
def printYaml (document : Json) : String :=
  String.join (document.members.map (fun m =>
    m.1 ++ ": " ++ m.2.asStr.getD "" ++ "\n"))

/- Only what reads back is written. -/
def writeYaml (document : Json) : Except String String :=
  match parseYaml (printYaml document) with
  | .error e => .error e
  | .ok read =>
      if read.equals document then
        .ok (printYaml document)
      else
        .error "not a flat document"

/- What is written is read as the same document. -/
theorem parseYaml_of_writeYaml
    {document : Json}
    {text : String}
    (hText : writeYaml document = .ok text) :
    ∃ read, parseYaml text = .ok read ∧
      read.Equal document := by
  unfold writeYaml at hText
  split at hText
  · simp at hText
  · rename_i read hRead
    split at hText
    · rename_i hEquals
      rw [← Except.ok.inj hText]
      exact ⟨read, hRead, (Json.equals_iff _ _).mp hEquals⟩
    · simp at hText

instance serdeYaml : SerdeYaml where
  Value := Json
  fromStr := parseYaml
  toString := writeYaml
  toJson := .ok
  ofJson := .ok

/- So it is for every document that can be written. -/
theorem yamlRoundTrips : FluxCommit.YamlRoundTrips := by
  intro document text hText
  rcases FluxCommit.jsonToYamlStr_eq_ok_iff.mp hText with
    ⟨written, hSame, hWrite⟩
  obtain rfl : document = written := Except.ok.inj hSame
  rcases parseYaml_of_writeYaml hWrite with
    ⟨read, hRead, hEqual⟩
  exact ⟨read,
    FluxCommit.yamlStrToJson_eq_ok_iff.mpr ⟨read, hRead, rfl⟩,
    hEqual⟩

/- Commits under the name of the controller. -/
def fluxCommitConfig : FluxCommitConfig where
  authorName := "engenho-promessa"
  authorEmail := "engenho-promessa@pleme.io"
  dryRun := false

/- Sets the tag in the values of a cluster. -/
def fluxCommitSpec : FluxCommitSpec where
  repoUrl := "git@github.com:pleme-io/k8s.git"
  branch := FluxCommitSpec.defaultBranch
  path := "values.yaml"
  patch := .obj [("tag", .str "0.11.0")]
  commitMessage := none

/- Every stage goes through. -/
def attempt : Attempt where
  tempdir := none
  clone := none
  read := none
  write := none
  add := none
  commit := none
  revParse := none
  push := none
  workdir := "/tmp/flux"
  sha := "b1"
  committedAt := second 0
  refusal := ""

/- The commit that is there at first. -/
def seedCommit : Commit where
  sha := "a0"
  authorName := "test"
  authorEmail := "test@test"
  message := "seed"
  files := [("values.yaml", "tag: 0.10.0\n")]

/- A remote with that commit. -/
def gitWorld : GitWorld where
  remotes := Git.setBranch fluxCommitSpec.repoUrl
    fluxCommitSpec.branch ⟨seedCommit, []⟩
    (fun _ _ => none)
  workingCopy := none
  made := []

end Reference

namespace FluxCommit

/- One commit is pushed, and then there is nothing to change. -/
theorem act_atomicAndConverges_reference :
    IsPushed (act Reference.fluxCommitConfig
        Reference.attempt Reference.fluxCommitSpec
        Reference.gitWorld).1 ∧
      AtomicAndConverges Reference.fluxCommitSpec
        Reference.gitWorld
        (act Reference.fluxCommitConfig Reference.attempt
          Reference.fluxCommitSpec Reference.gitWorld).1
        (act Reference.fluxCommitConfig Reference.attempt
          Reference.fluxCommitSpec Reference.gitWorld).2 :=
  ⟨by decide +kernel,
    act_atomicAndConverges Reference.yamlRoundTrips
      Reference.fluxCommitConfig Reference.attempt
      Reference.fluxCommitSpec Reference.gitWorld⟩

end FluxCommit

end EngenhoPromessa
