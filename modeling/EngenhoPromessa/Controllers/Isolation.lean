import EngenhoPromessa.Controllers.EvidenceLink

/-
  Whose scans enter the snapshot a validation is gated on.

  Children are chosen by namespace and by the name of their
  parent. What a validation's own steps create is its own;
  what was there before, or what others put there, is not
  told apart.

  Key definitions include:
    * `ComesFrom`
    * `IsIsolated`
    * `IsOwnScan`
    * `ChildRun.placed`

  Key theorems include:
    * `ChildRun.comesFrom_children`
-/

------------------------------------------------------------
-- Sources Of A Snapshot
------------------------------------------------------------

namespace EngenhoPromessa

/- What the children add to a snapshot comes from such. -/
structure ComesFrom
    (P : ScanJob → Prop)
    (clock : ClockRead → DateTime)
    (obj : AkeylessImageValidation)
    (children : List ScanJob) : Prop where
  findings_from :
    ∀ obs ∈ (buildSecuritySnapshot clock obj
        children).imageDigests,
      ∀ f ∈ obs.findings, ∃ c ∈ children, P c ∧
        ∃ reported ∈ childFindings c, toFinding reported = f
  reports_from :
    ∀ obs ∈ (buildSecuritySnapshot clock obj
        children).imageDigests,
      ∀ scanner ∈ obs.scannersReported,
        ∃ c ∈ children, P c ∧
          scannerRequiredFromKind c.spec.scanner = scanner

/-
  What holds of every child holds of every child a finding
  comes from.
-/
theorem comesFrom_of_forall
    {P : ScanJob → Prop}
    {children : List ScanJob}
    (hAll : ∀ c ∈ children, P c)
    (clock : ClockRead → DateTime)
    (obj : AkeylessImageValidation) :
    ComesFrom P clock obj children where
  findings_from := by
    intro obs hObs f hf
    obtain rfl := List.mem_singleton.mp hObs
    rcases List.mem_flatMap.mp hf with ⟨c, hc, hMapped⟩
    rcases List.mem_map.mp hMapped with
      ⟨reported, hReported, hEq⟩
    exact ⟨c, hc, hAll c hc, reported, hReported, hEq⟩
  reports_from := by
    intro obs hObs scanner hScanner
    obtain rfl := List.mem_singleton.mp hObs
    rw [BTreeSet.mem_ofList] at hScanner
    rcases List.mem_map.mp hScanner with ⟨c, hc, hEq⟩
    exact ⟨c, hc, hAll c hc, hEq⟩

/- Every child adds at least its scanner to the snapshot. -/
theorem not_comesFrom_of_forall_not
    {P : ScanJob → Prop}
    {children : List ScanJob}
    (hSome : children ≠ [])
    (hNone : ∀ c ∈ children, ¬ P c)
    (clock : ClockRead → DateTime)
    (obj : AkeylessImageValidation) :
    ¬ ComesFrom P clock obj children := by
  intro hFrom
  rcases List.exists_mem_of_ne_nil children hSome with
    ⟨child, hChild⟩
  rcases hFrom.reports_from _ (List.mem_singleton.mpr rfl)
    (scannerRequiredFromKind child.spec.scanner)
    (by
      rw [BTreeSet.mem_ofList]
      exact List.mem_map.mpr ⟨child, hChild, rfl⟩) with
    ⟨c, hc, hP, _⟩
  exact hNone c hc hP

/- An owner reference has the uid of the object. -/
def IsOwnedBy
    (owner : ObjectMeta)
    (metadata : ObjectMeta) : Prop :=
  ∃ r ∈ metadata.ownerReferences,
    r.uid = owner.uidOrDefault

/- The digest target is some image at this digest. -/
def NamesImage
    (digest : String)
    (spec : ScanJobSpec) : Prop :=
  ∃ image, spec.targetDigest = some (image ++ "@" ++ digest)

/- Everything comes from scans of the object and its image. -/
def IsIsolated
    (clock : ClockRead → DateTime)
    (obj : AkeylessImageValidation)
    (children : List ScanJob) : Prop :=
  ComesFrom
    (fun c => IsOwnedBy obj.metadata c.metadata ∧
      NamesImage obj.spec.imageDigest c.spec)
    clock obj children

/-
  A scan created for a validation: it is owned by it and, if
  the catalog's scanner reads an image, targets its image; a
  scanner that reads none has no digest target.
-/
structure IsOwnScan
    (owner : ObjectMeta)
    (digest : String)
    (metadata : ObjectMeta)
    (spec : ScanJobSpec) : Prop where
  is_owned : IsOwnedBy owner metadata
  names_image :
    (Catalog.forKind spec.scanner).targetField = .digest →
      NamesImage digest spec
  names_no_image :
    (Catalog.forKind spec.scanner).targetField ≠ .digest →
      spec.targetDigest = none

end EngenhoPromessa

------------------------------------------------------------
-- What A Validation Creates
------------------------------------------------------------

namespace EngenhoPromessa

namespace ImageValidation

/- The image a scanner pulls is named by its digest. -/
theorem namesImage_pullableImageRef
    (env : Env)
    (repo digest : String) :
    ∃ image,
      pullableImageRef env repo digest =
        image ++ "@" ++ digest := by
  unfold pullableImageRef
  split
  · exact ⟨_, rfl⟩
  · exact ⟨repo, rfl⟩

/-
  A validation's own scan job runs the scanner it was made
  for.
-/
theorem scanner_ownScanJob
    (ctx : ReconcileCtx)
    (obj : AkeylessImageValidation)
    (tenant : AkeylessEphemeralTenant)
    (scanner : RequiredScanner) :
    (ownScanJob ctx obj tenant scanner).spec.scanner =
      scannerKindFromRequired scanner := by
  simp only [ownScanJob, buildScanJob]

/-
  Its digest target is the validation's image, when the
  scanner takes one.
-/
theorem targetDigest_ownScanJob
    (ctx : ReconcileCtx)
    (obj : AkeylessImageValidation)
    (tenant : AkeylessEphemeralTenant)
    (scanner : RequiredScanner) :
    (ownScanJob ctx obj tenant scanner).spec.targetDigest =
      if (Catalog.forKind (scannerKindFromRequired
          scanner)).targetField = .digest then
        some (pullableImageRef ctx.env obj.spec.imageRepo
          obj.spec.imageDigest)
      else none := by
  simp only [ownScanJob, buildScanJob]
  cases (Catalog.forKind
    (scannerKindFromRequired scanner)).targetField with
  | digest => rfl
  | source => rfl
  | tenantUrl => rfl
  | none => rfl

/- A validation creates scan jobs for itself. -/
theorem isOwnScan_ownScanJob
    (ctx : ReconcileCtx)
    (obj : AkeylessImageValidation)
    (tenant : AkeylessEphemeralTenant)
    (scanner : RequiredScanner) :
    IsOwnScan obj.metadata obj.spec.imageDigest
      (ownScanJob ctx obj tenant scanner).metadata
      (ownScanJob ctx obj tenant scanner).spec := by
  have hScanner := scanner_ownScanJob ctx obj tenant scanner
  have hDigest :=
    targetDigest_ownScanJob ctx obj tenant scanner
  refine ⟨⟨_, List.mem_singleton.mpr rfl, rfl⟩, ?_, ?_⟩
  · intro hReads
    rw [hScanner] at hReads
    rw [NamesImage, hDigest, if_pos hReads]
    rcases namesImage_pullableImageRef ctx.env
      obj.spec.imageRepo obj.spec.imageDigest with
      ⟨image, hImage⟩
    exact ⟨image, congrArg some hImage⟩
  · intro hReads
    rw [hScanner] at hReads
    rw [hDigest, if_neg hReads]

end ImageValidation

end EngenhoPromessa

------------------------------------------------------------
-- Children Across A Run
------------------------------------------------------------

namespace EngenhoPromessa

namespace ChildRun

/- The scan jobs that are in a run without the validation. -/
def placed
    (jobs : List (Stored ScanJobSpec))
    (events : List Event) : List (Stored ScanJobSpec) :=
  jobs ++ events.filterMap (fun
    | .create job => some job
    | _ => none)

/- One of these scan jobs, whatever its status is by now. -/
def IsPlaced
    (jobs : List (Stored ScanJobSpec))
    (metadata : ObjectMeta)
    (spec : ScanJobSpec) : Prop :=
  ∃ o ∈ jobs, o.metadata = metadata ∧ o.spec = spec

/-
  A child of the validation: it names it as its parent, and
  was created for it unless it was placed there.
-/
structure IsChild
    (metadata : ObjectMeta)
    (spec : AkeylessImageValidationSpec)
    (placed : List (Stored ScanJobSpec))
    (c : ScanJob) : Prop where
  same_namespace :
    c.metadata.namespaceOrDefault =
      metadata.namespaceOrDefault
  names_parent :
    c.spec.parentValidation = metadata.nameAny
  own_or_placed :
    IsPlaced placed c.metadata c.spec ∨
      IsOwnScan metadata spec.imageDigest c.metadata c.spec

variable [Chrono] [SerdeJson]

/- A listed child is a stored scan job of the parent's name. -/
theorem mem_children
    {s : ChildRun}
    {children : List ScanJob}
    (hChildren : s.children = some children)
    {c : ScanJob}
    (hc : c ∈ children) :
    ∃ o ∈ s.jobs, o.metadata = c.metadata ∧ o.spec = c.spec ∧
      c.metadata.namespaceOrDefault =
        s.validation.metadata.namespaceOrDefault ∧
      c.spec.parentValidation =
        s.validation.metadata.nameAny := by
  rcases Option.map_eq_some_iff.mp hChildren with
    ⟨items, hItems, rfl⟩
  rcases List.mem_filter.mp hc with ⟨hItem, hParent⟩
  rcases List.exists_of_mem_mapM hItems hItem with
    ⟨o, hStored, hRead⟩
  rcases List.mem_filter.mp hStored with ⟨hMem, hNamespace⟩
  rcases Option.map_eq_some_iff.mp hRead with ⟨_, _, rfl⟩
  exact ⟨o, hMem, rfl, rfl, by simpa using hNamespace,
    by simpa using hParent⟩

variable [Blake3] [PromessaSerde]

/- Every scan job of a run is placed or the validation's own. -/
theorem allJobs_run
    (metadata : ObjectMeta)
    (spec : AkeylessImageValidationSpec)
    (jobs : List (Stored ScanJobSpec))
    (events : List Event) :
    let s := Run.run step (created metadata spec jobs) events
    s.validation.metadata = metadata ∧
      s.validation.spec = spec ∧
      AllJobs
        (fun m sp => IsPlaced (placed jobs events) m sp ∨
          IsOwnScan metadata spec.imageDigest m sp)
        s.jobs := by
  have hEvents :
      ∀ e ∈ events, ∀ job, e = .create job →
        job ∈ placed jobs events := by
    rintro _ he job rfl
    exact List.mem_append_right _
      (List.mem_filterMap.mpr ⟨_, he, rfl⟩)
  refine Run.invariant_run
    (fun s : ChildRun =>
      s.validation.metadata = metadata ∧
        s.validation.spec = spec ∧
        AllJobs _ s.jobs) ?_ ?_
    (Run.allowed_of_forall hEvents _)
  · rintro s e ⟨hMetadata, hSpec, hAll⟩ hPlaced
    rcases validation_frame s e with
      ⟨hMetadata', hSpec'⟩
    refine ⟨hMetadata'.trans hMetadata, hSpec'.trans hSpec,
      allJobs_step ?_ ?_ hAll⟩
    · intro ctx obj hObj hObjSpec tenant scanner
      have hOwn := ImageValidation.isOwnScan_ownScanJob ctx
        obj tenant scanner
      rw [hObj, hObjSpec, hMetadata, hSpec] at hOwn
      exact Or.inr hOwn
    · rintro job rfl
      exact Or.inl ⟨job, hPlaced job rfl, rfl, rfl⟩
  · exact ⟨rfl, rfl, fun o hMem => Or.inl
      ⟨o, List.mem_append_left _ hMem, rfl, rfl⟩⟩

/-
  Wherever a run has come to, what the gate would see there
  comes from children of the validation.
-/
theorem comesFrom_children
    (metadata : ObjectMeta)
    (spec : AkeylessImageValidationSpec)
    (jobs : List (Stored ScanJobSpec))
    (events : List Event)
    (ctx : ReconcileCtx)
    (obj : AkeylessImageValidation)
    (children : List ScanJob)
    (hChildren :
      (Run.run step (created metadata spec jobs)
        events).children = some children) :
    ComesFrom
      (IsChild metadata spec (placed jobs events))
      ctx.clock obj children := by
  rcases allJobs_run metadata spec jobs events with
    ⟨hMetadata, _, hAll⟩
  apply comesFrom_of_forall
  intro c hc
  rcases mem_children hChildren hc with
    ⟨o, hMem, hObjMeta, hObjSpec, hNamespace, hParent⟩
  have hOrigin := hAll o hMem
  rw [hObjMeta, hObjSpec] at hOrigin
  rw [hMetadata] at hNamespace hParent
  exact ⟨hNamespace, hParent, hOrigin⟩

end ChildRun

namespace Reference

/- A scan job of an earlier validation of the same name. -/
def leftoverScan : Stored ScanJobSpec :=
  { criticalScan with
    metadata :=
      { criticalScan.metadata with
        ownerReferences :=
          ImageValidation.ownerRefsOf
            { validationAt .passed with
              metadata :=
                { metadata "auth-00" with
                  uid := some "uid-before" } } }
    spec :=
      { criticalScan.spec with
        targetDigest := some
          ("ghcr.io/akeylesslabs/akeyless-auth@" ++
            "sha256:ff") } }

/- The kube-bench scan job the reference validation makes. -/
def kubeBenchScan (phase : ScanJobPhase) : ScanJob :=
  { ImageValidation.ownScanJob ctx (validationAt .provisioning)
      readyTenant .kubeBench with
    status := some { ScanJobStatus.default with
      phase := some phase } }

/- A cluster in which its job has come to an end. -/
def kubeBenchDone : Cluster :=
  { emptyCluster with
    jobs :=
      [{ ScanJobController.renderJob ctx.env
          (ScanJobController.jobName
            (kubeBenchScan .running))
          (kubeBenchScan .running) with
        status := some ⟨some 1, none⟩ }] }

/- A validation whose only scan left is kube-bench's. -/
def untilKubeBenchGate : List ChildRun.Event :=
  [.validation ctx emptyCluster [],
    .validation ctx withTenant []] ++
    ["trivy", "grype", "syft", "trufflehog", "kubehunter",
      "polaris", "stig"].map (fun scanner =>
        .delete "validation"
          ("sj-" ++ scanner ++ "-auth-00")) ++
    [.scan ctx (kubeBenchScan .pending) emptyCluster [],
      .scan ctx (kubeBenchScan .forking) emptyCluster [],
      .scan ctx (kubeBenchScan .execing) emptyCluster [],
      .scan ctx (kubeBenchScan .running) kubeBenchDone [],
      .validation ctx emptyCluster [],
      .validation ctx emptyCluster [],
      .validation ctx emptyCluster []]

end Reference

namespace ChildRun

/- What a gating step sees comes from the object's own scans. -/
def GatesIsolated (s : ChildRun) : Prop :=
  s.validation.phase = .gating →
    ∀ (ctx : ReconcileCtx) obj children,
      s.validation.copy 0 = some obj →
      s.children = some children →
        IsIsolated ctx.clock obj children

/- The gate is reached and all its children pass a test. -/
def GatesOnly (test : ScanJob → Bool) (s : ChildRun) : Bool :=
  s.validation.phase = .gating &&
    (s.validation.copy 0).isSome &&
    s.children.any (fun children =>
      !children.isEmpty && children.all test)

/- A test that no scan of the object's own image passes. -/
theorem not_gatesIsolated_of_gatesOnly
    {s : ChildRun}
    (test : ScanJob → Bool)
    (hOnly : s.GatesOnly test = true)
    (hTest :
      ∀ c, test c = true →
        ¬ (IsOwnedBy s.validation.metadata c.metadata ∧
          NamesImage s.validation.spec.imageDigest
            c.spec)) :
    ¬ GatesIsolated s := by
  simp only [GatesOnly, Bool.and_eq_true, decide_eq_true_eq,
    Option.any_eq_true] at hOnly
  rcases hOnly with
    ⟨⟨hPhase, hCopy⟩, children, hChildren, hSome, hAll⟩
  rcases Option.isSome_iff_exists.mp hCopy with ⟨obj, hCopy⟩
  rcases RunState.copy_eq_some hCopy with
    ⟨hMetadata, hSpec, _⟩
  intro hGates
  refine not_comesFrom_of_forall_not (by simpa using hSome)
    ?_ _ _ (hGates hPhase Reference.ctx obj children hCopy
      hChildren)
  intro c hc
  rw [hMetadata, hSpec]
  exact hTest c (List.all_eq_true.mp hAll c hc)

/-
  Neither the kube-bench scan of a new validation, which has
  no target, nor a scan job left over from an earlier one is
  kept out of the snapshot.
-/
theorem not_gatesIsolated_kubeBench_leftover :
    ¬ GatesIsolated
        (Run.run step
          (created (Reference.metadata "auth-00")
            Reference.validationSpec [])
          Reference.untilKubeBenchGate) ∧
      ¬ GatesIsolated
        (Run.run step
          (created (Reference.metadata "auth-00")
            Reference.validationSpec
            [Reference.leftoverScan])
          Reference.untilGate) := by
  constructor
  · refine not_gatesIsolated_of_gatesOnly
      (fun c => c.spec.targetDigest.isNone)
      (by decide +kernel) ?_
    rintro c hTest ⟨_, image, hNames⟩
    simp [hNames] at hTest
  · refine not_gatesIsolated_of_gatesOnly
      (fun c => c.metadata.ownerReferences.all
        (fun r => r.uid = "uid-before"))
      (by decide +kernel) ?_
    rintro c hTest ⟨⟨r, hr, hUid⟩, _⟩
    rw [(allJobs_run _ _ _ _).1] at hUid
    have hBefore := List.all_eq_true.mp hTest r hr
    simp [hUid, Reference.metadata,
      ObjectMeta.uidOrDefault] at hBefore

/- What the second gate sees comes from children all the same. -/
theorem comesFrom_children_leftover :
    ∃ children,
      (Run.run step
        (created (Reference.metadata "auth-00")
          Reference.validationSpec
          [Reference.leftoverScan])
        Reference.untilGate).children = some children ∧
      ComesFrom
        (IsChild (Reference.metadata "auth-00")
          Reference.validationSpec
          (placed [Reference.leftoverScan]
            Reference.untilGate))
        Reference.ctx.clock
        (Reference.validationAt .gating) children := by
  have hSome :
      (Run.run step
        (created (Reference.metadata "auth-00")
          Reference.validationSpec
          [Reference.leftoverScan])
        Reference.untilGate).children.isSome = true := by
    decide +kernel
  rcases Option.isSome_iff_exists.mp hSome with
    ⟨children, hChildren⟩
  exact ⟨children, hChildren,
    comesFrom_children _ _ _ _ _ _ _ hChildren⟩

end ChildRun

end EngenhoPromessa
