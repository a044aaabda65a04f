import EngenhoPromessa.ValidationApi.Compliance

/-
  Whose findings the REST face shows for a validation.

  The parent of a scan job is in the job's own namespace, but
  the handler matches parents by name alone, over the scan
  jobs of all namespaces.

  Key definitions include:
    * `Rest.ownFindings`
    * `Rest.AgreeOn`
    * `Rest.NoForeignFindings`

  Key theorems include:
    * `Rest.showsOwn_iff_noForeignFindings`
-/

------------------------------------------------------------
-- Filters Over A Concatenation
------------------------------------------------------------

namespace List

variable {α β : Type}

/- A second filter can only shorten what is collected. -/
theorem length_flatMap_filter_le
    (xs : List α)
    (keep also : α → Bool)
    (f : α → List β) :
    ((xs.filter (fun x => also x && keep x)).flatMap
        f).length ≤
      ((xs.filter keep).flatMap f).length := by
  induction xs with
  | nil => simp
  | cons x xs ih =>
      cases hKeep : keep x with
      | false => simpa [hKeep] using ih
      | true =>
          cases hAlso : also x with
          | false =>
              simp only [filter_cons, hKeep, hAlso,
                Bool.false_and, if_true, flatMap_cons,
                length_append] at ih ⊢
              simp only [Bool.false_eq_true, if_false]
              omega
          | true =>
              simp only [filter_cons, hKeep, hAlso,
                Bool.true_and, if_true, flatMap_cons,
                length_append]
              omega

/-
  It leaves what is collected as it is exactly if it drops
  nothing that contributes.
-/
theorem flatMap_filter_eq_iff
    (xs : List α)
    (keep also : α → Bool)
    (f : α → List β) :
    (xs.filter keep).flatMap f =
        (xs.filter (fun x => also x && keep x)).flatMap f ↔
      ∀ x ∈ xs, keep x = true → also x = false →
        f x = [] := by
  induction xs with
  | nil => simp
  | cons x xs ih =>
      cases hKeep : keep x with
      | false => simp [hKeep, ih]
      | true =>
          cases hAlso : also x with
          | true => simp [hKeep, hAlso, ih]
          | false =>
              simp only [filter_cons, hKeep, hAlso,
                Bool.false_and, Bool.false_eq_true, if_true,
                if_false, flatMap_cons, forall_mem_cons,
                forall_const]
              constructor
              · intro hEq
                have hShorter :=
                  length_flatMap_filter_le xs keep also f
                have hLength := congrArg length hEq
                rw [length_append] at hLength
                have hNil : f x = [] :=
                  length_eq_zero_iff.mp (by omega)
                rw [hNil, nil_append] at hEq
                exact ⟨hNil, ih.mp hEq⟩
              · rintro ⟨hNil, hRest⟩
                rw [hNil, nil_append]
                exact ih.mpr hRest

end List

------------------------------------------------------------
-- Findings Of One Namespace
------------------------------------------------------------

namespace EngenhoPromessa

namespace Rest

/- The scan job names this parent. -/
def isChildOf (name : String) (s : ScanJob) : Bool :=
  s.spec.parentValidation = name

/- The scan job is in this namespace. -/
def isIn («namespace» : String) (s : ScanJob) : Bool :=
  s.metadata.namespaceOrDefault = «namespace»

/- The findings of the namespace's own children. -/
def ownFindings
    (p : ValidationProjection)
    (ns name : String) : List ScanFinding :=
  (p.snapshot.scanJobs.filter (fun s =>
    isIn ns s && isChildOf name s)).flatMap childFindings

/-
  Two projections agree on a validation and on the scan jobs
  of its namespace.
-/
def AgreeOn
    (ns name : String)
    (p q : ValidationProjection) : Prop :=
  p.getValidation ns name = q.getValidation ns name ∧
    p.snapshot.scanJobs.filter (isIn ns) =
      q.snapshot.scanJobs.filter (isIn ns)

/- Both show the namespace's own findings and nothing else. -/
def ShowsOwn
    (ns name : String)
    (p q : ValidationProjection) : Prop :=
  getFindings p ns name = getFindings q ns name ∧
    getFindings p ns name = .json (ownFindings p ns name)

/- No other namespace has findings under this parent name. -/
def NoForeignFindings
    (ns name : String)
    (p : ValidationProjection) : Prop :=
  ∀ s ∈ p.snapshot.scanJobs, isChildOf name s = true →
    isIn ns s = false → childFindings s = []

theorem getD_findings (s : ScanJob) :
    (s.status.map ScanJobStatus.findings).getD [] =
      childFindings s := by
  unfold childFindings
  cases s.status with
  | none => rfl
  | some st => rfl

/- What is shown are the findings of all children by name. -/
theorem getFindings_eq
    {p : ValidationProjection}
    {ns name : String}
    {v : AkeylessImageValidation}
    (hGet : p.getValidation ns name = some v)
    (hName : identity v = (ns, name)) :
    getFindings p ns name =
      .json ((p.snapshot.scanJobs.filter
        (isChildOf name)).flatMap childFindings) := by
  have hParent : v.metadata.name.getD "" = name :=
    congrArg Prod.snd hName
  simp only [getFindings, hGet, hParent, getD_findings]
  rfl

/- The own findings depend on the namespace alone. -/
theorem ownFindings_congr
    {ns name : String}
    {p q : ValidationProjection}
    (hAgree : AgreeOn ns name p q) :
    ownFindings p ns name = ownFindings q ns name := by
  have hSplit : ∀ r : ValidationProjection,
      ownFindings r ns name =
        ((r.snapshot.scanJobs.filter (isIn ns)).filter
          (isChildOf name)).flatMap childFindings := by
    intro r
    rw [List.filter_filter]
    simp only [ownFindings, Bool.and_comm]
  rw [hSplit p, hSplit q, hAgree.2]

/- Only own findings are shown if there are no others. -/
theorem getFindings_eq_own_iff
    {p : ValidationProjection}
    {ns name : String}
    {v : AkeylessImageValidation}
    (hGet : p.getValidation ns name = some v)
    (hName : identity v = (ns, name)) :
    getFindings p ns name = .json (ownFindings p ns name) ↔
      NoForeignFindings ns name p := by
  rw [getFindings_eq hGet hName, Response.json.injEq]
  exact List.flatMap_filter_eq_iff _ _ _ _

/-
  The findings shown are the namespace's own, whatever the
  others hold, exactly if no scan job of another namespace
  has findings under the same parent name.
-/
theorem showsOwn_iff_noForeignFindings
    {ns name : String}
    {p q : ValidationProjection}
    {v : AkeylessImageValidation}
    (hGet : p.getValidation ns name = some v)
    (hName : identity v = (ns, name))
    (hAgree : AgreeOn ns name p q) :
    ShowsOwn ns name p q ↔
      NoForeignFindings ns name p ∧
        NoForeignFindings ns name q := by
  have hGet' : q.getValidation ns name = some v :=
    hAgree.1.symm.trans hGet
  rw [← getFindings_eq_own_iff hGet hName,
    ← getFindings_eq_own_iff hGet' hName,
    ← ownFindings_congr hAgree]
  constructor
  · rintro ⟨hSame, hOwn⟩
    exact ⟨hOwn, hSame ▸ hOwn⟩
  · rintro ⟨hOwn, hOwn'⟩
    exact ⟨hOwn.trans hOwn'.symm, hOwn⟩

end Rest

namespace Reference

/- A scan of another namespace, for the same parent name. -/
def foreignScan : ScanJob :=
  let scan := childOf .trivy .attested [criticalCve]
  { scan with
    metadata := { scan.metadata with
      «namespace» := some "staging" } }

/- The projection of one validation and some scan jobs. -/
def projectionWith
    (scans : List ScanJob) : ValidationProjection :=
  Run.run ValidationProjection.step
    (projectionOf failedValidation)
    (scans.map (fun s => .scanJob (.apply s)))

end Reference

namespace Rest

/-
  Projections that differ in another namespace only show
  different findings.
-/
theorem not_showsOwn_foreignScan :
    ¬ (AgreeOn "validation" "auth-00"
          (Reference.projectionWith [])
          (Reference.projectionWith [Reference.foreignScan]) →
        ShowsOwn "validation" "auth-00"
          (Reference.projectionWith [])
          (Reference.projectionWith
            [Reference.foreignScan])) := by
  intro hClaim
  have hShown := (hClaim ⟨rfl, rfl⟩).1
  have hNone :
      getFindings (Reference.projectionWith [])
        "validation" "auth-00" = .json [] := rfl
  have hForeign :
      getFindings
          (Reference.projectionWith [Reference.foreignScan])
          "validation" "auth-00" =
        .json [Reference.criticalCve] := rfl
  rw [hNone, hForeign] at hShown
  simp at hShown

/- The scan of the other namespace is in the way. -/
theorem showsOwn_iff_noForeignFindings_foreignScan :
    ShowsOwn "validation" "auth-00"
        (Reference.projectionWith [])
        (Reference.projectionWith [Reference.foreignScan]) ↔
      NoForeignFindings "validation" "auth-00"
          (Reference.projectionWith []) ∧
        NoForeignFindings "validation" "auth-00"
          (Reference.projectionWith [Reference.foreignScan]) :=
  showsOwn_iff_noForeignFindings (v := Reference.failedValidation)
    rfl rfl ⟨rfl, rfl⟩

end Rest

end EngenhoPromessa
