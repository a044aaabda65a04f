import EngenhoPromessa.Collections.Upserts
import EngenhoPromessa.External.Crates

/-
  The provenance of an image digest, brought up to date by
  every observation of the digest.

  What an observation does not know of the build stays as it
  was. The artifact an earlier observation has named does
  not.

  Key definitions include:
    * `DigestProvenanceModel`
    * `DigestProvenance.observeDigestProvenance`
    * `DigestProvenance.KnowledgeGrows`

  Key theorems include:
    * `DigestProvenance.observe_eq_upsert`
    * `DigestProvenance.grows_iff`
    * `DigestProvenance.knowledgeGrows_iff`
-/

------------------------------------------------------------
-- Rows
------------------------------------------------------------

namespace EngenhoPromessa

/- A row of `digest_provenance`. -/
structure DigestProvenanceModel where
  imageDigest : String
  imageRepo : String
  gitCommit : Option String
  gitTreeHash : Option String
  flakeLockHash : Option String
  attestationChain : Json
  cartorioStatus : Option String
  cartorioArtifactId : Option String
  firstObservedAt : DateTime
  lastObservedAt : DateTime

/- The arguments of a call, and the time it reads. -/
structure ProvenanceWrite where
  now : DateTime
  imageDigest : String
  imageRepo : String
  attestationChain : Json
  cartorioStatus : Option String
  cartorioArtifactId : Option String

namespace ProvenanceWrite

/- A text under `source` of the chain, if there is one. -/
def sourceText
    (o : ProvenanceWrite)
    (name : String) : Option String :=
  ((o.attestationChain.get? "source").bind
    (fun s => s.get? name)).bind Json.asStr

/- The commit that the image was built from. -/
def gitCommit (o : ProvenanceWrite) : Option String :=
  o.sourceText "git_commit"

/- The hash of its source tree. -/
def gitTreeHash (o : ProvenanceWrite) : Option String :=
  o.sourceText "tree_hash"

/- The hash of its flake lock. -/
def flakeLockHash (o : ProvenanceWrite) : Option String :=
  o.sourceText "flake_lock_hash"

end ProvenanceWrite

namespace DigestProvenance

/-
  The source is kept when it is not known; the artifact is
  not.
-/
def update
    (o : ProvenanceWrite)
    (existing : DigestProvenanceModel) :
    DigestProvenanceModel :=
  { existing with
    imageRepo := o.imageRepo
    gitCommit :=
      if o.gitCommit.isSome then o.gitCommit
      else existing.gitCommit
    gitTreeHash :=
      if o.gitTreeHash.isSome then o.gitTreeHash
      else existing.gitTreeHash
    flakeLockHash :=
      if o.flakeLockHash.isSome then o.flakeLockHash
      else existing.flakeLockHash
    attestationChain := o.attestationChain
    -- Set whether or not the observation has them.
    cartorioStatus := o.cartorioStatus
    cartorioArtifactId := o.cartorioArtifactId
    lastObservedAt := o.now }

/- A first observation is stored as it is. -/
def insert
    (o : ProvenanceWrite) : DigestProvenanceModel where
  imageDigest := o.imageDigest
  imageRepo := o.imageRepo
  gitCommit := o.gitCommit
  gitTreeHash := o.gitTreeHash
  flakeLockHash := o.flakeLockHash
  attestationChain := o.attestationChain
  cartorioStatus := o.cartorioStatus
  cartorioArtifactId := o.cartorioArtifactId
  firstObservedAt := o.now
  lastObservedAt := o.now

/- The row of a digest. -/
def findById
    (rows : List DigestProvenanceModel)
    (imageDigest : String) : Option DigestProvenanceModel :=
  rows.find? (fun row => row.imageDigest = imageDigest)

/-
  `observe_digest_provenance`: updates the row, or inserts
  one.
-/
def observeDigestProvenance
    (rows : List DigestProvenanceModel)
    (o : ProvenanceWrite) : List DigestProvenanceModel :=
  match findById rows o.imageDigest with
  | some existing =>
      rows.map (fun row =>
        if row.imageDigest = existing.imageDigest then
          update o existing
        else
          row)
  | none => rows ++ [insert o]

/- The table of provenance rows, keyed by their digests. -/
def upserts :
    Upserts String DigestProvenanceModel
      ProvenanceWrite where
  key := DigestProvenanceModel.imageDigest
  target := ProvenanceWrite.imageDigest
  insert := insert
  update := update
  key_insert _ := rfl
  key_update _ _ := rfl

/- The call is an upsert by digest. -/
theorem observe_eq_upsert
    (rows : List DigestProvenanceModel)
    (o : ProvenanceWrite) :
    observeDigestProvenance rows o =
      upserts.upsert rows o := by
  have hRow :
      upserts.row rows (upserts.target o) =
        findById rows o.imageDigest := rfl
  unfold observeDigestProvenance Upserts.upsert
  rw [hRow]
  cases findById rows o.imageDigest with
  | none => rfl
  | some existing => rfl

end DigestProvenance

end EngenhoPromessa

------------------------------------------------------------
-- What An Observation Keeps
------------------------------------------------------------

namespace EngenhoPromessa

namespace DigestProvenance

/-
  An observed row has what the observation knows, and what
  was known before of the rest.
-/
structure Extends
    (before : Option DigestProvenanceModel)
    (o : ProvenanceWrite)
    (after : DigestProvenanceModel) : Prop where
  gitCommit :
    after.gitCommit =
      o.gitCommit.or (before.bind (fun row => row.gitCommit))
  gitTreeHash :
    after.gitTreeHash =
      o.gitTreeHash.or
        (before.bind (fun row => row.gitTreeHash))
  flakeLockHash :
    after.flakeLockHash =
      o.flakeLockHash.or
        (before.bind (fun row => row.flakeLockHash))
  cartorioArtifactId :
    after.cartorioArtifactId =
      o.cartorioArtifactId.or
        (before.bind (fun row => row.cartorioArtifactId))
  firstObservedAt :
    after.firstObservedAt =
      (before.map (fun row => row.firstObservedAt)).getD
        o.now

/- One observation adds to one row and leaves the others. -/
def Grows
    (rows : List DigestProvenanceModel)
    (o : ProvenanceWrite) : Prop :=
  (∃ after,
      findById (observeDigestProvenance rows o)
          o.imageDigest =
        some after ∧
      Extends (findById rows o.imageDigest) o after) ∧
    ∀ imageDigest, imageDigest ≠ o.imageDigest →
      findById (observeDigestProvenance rows o)
          imageDigest =
        findById rows imageDigest

/- No call of the history takes anything known away. -/
def KnowledgeGrows
    (rows : List DigestProvenanceModel)
    (history : List ProvenanceWrite) : Prop :=
  Run.Allowed observeDigestProvenance Grows rows history

/- The artifact of the row is not left out. -/
def NamesArtifact
    (rows : List DigestProvenanceModel)
    (o : ProvenanceWrite) : Prop :=
  ∀ before, findById rows o.imageDigest = some before →
    before.cartorioArtifactId.isSome = true →
      o.cartorioArtifactId.isSome = true

/- What is stored of the digest that was observed. -/
theorem findById_observe
    (rows : List DigestProvenanceModel)
    (o : ProvenanceWrite) :
    findById (observeDigestProvenance rows o)
        o.imageDigest =
      upserts.written (findById rows o.imageDigest) o := by
  rw [observe_eq_upsert]
  exact upserts.row_upsert_self rows o

/- Other digests keep their rows. -/
theorem findById_observe_of_ne
    (rows : List DigestProvenanceModel)
    {o : ProvenanceWrite}
    {imageDigest : String}
    (hOther : o.imageDigest ≠ imageDigest) :
    findById (observeDigestProvenance rows o) imageDigest =
      findById rows imageDigest := by
  rw [observe_eq_upsert]
  exact upserts.row_upsert_of_ne rows hOther

theorem ite_isSome_eq_or
    {α : Type}
    (new old : Option α) :
    (if new.isSome then new else old) = new.or old := by
  cases new with
  | none => rfl
  | some a => rfl

theorem extends_insert (o : ProvenanceWrite) :
    Extends none o (insert o) where
  gitCommit := (Option.or_none).symm
  gitTreeHash := (Option.or_none).symm
  flakeLockHash := (Option.or_none).symm
  cartorioArtifactId := (Option.or_none).symm
  firstObservedAt := rfl

/- The artifact is the one field an update may lose. -/
theorem extends_update_iff
    (o : ProvenanceWrite)
    (existing : DigestProvenanceModel) :
    Extends (some existing) o (update o existing) ↔
      (existing.cartorioArtifactId.isSome = true →
        o.cartorioArtifactId.isSome = true) := by
  constructor
  · intro hExtends hKnown
    have hId := hExtends.cartorioArtifactId
    rw [Option.bind_some] at hId
    change o.cartorioArtifactId = _ at hId
    rw [hId, Option.isSome_or, hKnown, Bool.or_true]
  · intro hNames
    refine ⟨ite_isSome_eq_or _ _, ite_isSome_eq_or _ _,
      ite_isSome_eq_or _ _, ?_, rfl⟩
    change o.cartorioArtifactId =
      o.cartorioArtifactId.or existing.cartorioArtifactId
    cases hNew : o.cartorioArtifactId with
    | some id => rfl
    | none =>
        cases hOld : existing.cartorioArtifactId with
        | none => rfl
        | some id =>
            rw [hNew, hOld] at hNames
            exact absurd (hNames rfl) (by decide)

/- Nothing is lost just if the artifact is named again. -/
theorem grows_iff
    (rows : List DigestProvenanceModel)
    (o : ProvenanceWrite) :
    Grows rows o ↔ NamesArtifact rows o := by
  have hOthers :
      ∀ imageDigest, imageDigest ≠ o.imageDigest →
        findById (observeDigestProvenance rows o)
            imageDigest =
          findById rows imageDigest :=
    fun _ hOther => findById_observe_of_ne rows hOther.symm
  unfold Grows NamesArtifact
  rw [and_iff_left hOthers, findById_observe]
  simp only [Upserts.written, Option.some.injEq,
    exists_eq_left']
  cases findById rows o.imageDigest with
  | none =>
      exact iff_of_true (extends_insert o)
        (fun _ hRow => absurd hRow (by simp))
  | some existing =>
      refine (extends_update_iff o existing).trans ?_
      constructor
      · rintro hNames before hRow
        rw [← Option.some.inj hRow]
        exact hNames
      · intro hNames
        exact hNames existing rfl

end DigestProvenance

end EngenhoPromessa

------------------------------------------------------------
-- Histories
------------------------------------------------------------

namespace EngenhoPromessa

namespace DigestProvenance

/- Once named, the artifact of a digest is named again. -/
def NamedAgain (o o' : ProvenanceWrite) : Prop :=
  o.imageDigest = o'.imageDigest →
    o.cartorioArtifactId.isSome = true →
      o'.cartorioArtifactId.isSome = true

/- What the next observation must name, after one more. -/
theorem namesArtifact_observe_iff
    (rows : List DigestProvenanceModel)
    (o o' : ProvenanceWrite) :
    NamesArtifact (observeDigestProvenance rows o) o' ↔
      if o.imageDigest = o'.imageDigest then
        NamedAgain o o'
      else
        NamesArtifact rows o' := by
  split
  · rename_i hSame
    have hRow := findById_observe rows o
    unfold NamesArtifact NamedAgain
    rw [← hSame, hRow]
    have hId :
        ∀ before : Option DigestProvenanceModel,
          (before.elim (insert o)
            (update o)).cartorioArtifactId =
            o.cartorioArtifactId := by
      intro before
      cases before with
      | none => rfl
      | some row => rfl
    simp only [Upserts.written, Option.some.injEq,
      forall_eq', true_imp_iff]
    change ((Option.elim _ (insert o)
      (update o)).cartorioArtifactId.isSome = true → _) ↔ _
    rw [hId]
  · rename_i hOther
    unfold NamesArtifact
    rw [findById_observe_of_ne rows hOther]

/-
  From any rows, knowledge only grows exactly if no artifact
  that a row or an earlier observation of a digest names is
  left out later.
-/
theorem knowledgeGrows_iff
    (rows : List DigestProvenanceModel)
    (history : List ProvenanceWrite) :
    KnowledgeGrows rows history ↔
      (∀ o ∈ history, NamesArtifact rows o) ∧
        history.Pairwise NamedAgain := by
  unfold KnowledgeGrows
  induction history generalizing rows with
  | nil => simp [Run.Allowed]
  | cons o history ih =>
      rw [Run.Allowed, grows_iff, ih, List.pairwise_cons,
        List.forall_mem_cons]
      simp only [namesArtifact_observe_iff]
      constructor
      · rintro ⟨hFirst, hRest, hPairs⟩
        refine ⟨⟨hFirst, fun o' ho' => ?_⟩,
          fun o' ho' hSame => ?_, hPairs⟩
        · have hLater := hRest o' ho'
          by_cases hSame : o.imageDigest = o'.imageDigest
          · rw [if_pos hSame] at hLater
            intro before hRow hKnown
            exact hLater hSame
              (hFirst before (hSame ▸ hRow) hKnown)
          · rwa [if_neg hSame] at hLater
        · have hLater := hRest o' ho'
          rw [if_pos hSame] at hLater
          exact hLater hSame
      · rintro ⟨⟨hFirst, hRest⟩, hAgain, hPairs⟩
        refine ⟨hFirst, fun o' ho' => ?_, hPairs⟩
        split
        · exact hAgain o' ho'
        · exact hRest o' ho'

/- An image that is admitted, and observed once more. -/
def admittedTwice : List ProvenanceWrite :=
  [{ now := ⟨1⟩
     imageDigest := "sha256:ab"
     imageRepo := "akeyless-auth"
     attestationChain := .obj []
     cartorioStatus := some "Active"
     cartorioArtifactId := some "art-x" },
   { now := ⟨2⟩
     imageDigest := "sha256:ab"
     imageRepo := "akeyless-auth"
     attestationChain := .obj []
     cartorioStatus := some "Active"
     cartorioArtifactId := none }]

/- An artifact is forgotten at the second observation. -/
theorem not_knowledgeGrows_admittedTwice :
    ¬ KnowledgeGrows [] admittedTwice := by
  rintro ⟨-, ⟨⟨after, hRow, hExtends⟩, -⟩, -⟩
  have hKept := hExtends.cartorioArtifactId
  rw [← Option.some.inj hRow] at hKept
  exact absurd hKept (by decide)

end DigestProvenance

end EngenhoPromessa
