import EngenhoPromessa.Controllers.PipelineChildren

/-
  What the rest of the platform leaves alone.

  A turn on another object, however old the copy it sees,
  changes neither the validation nor its tenant nor its scan
  jobs: a patch finds the object it was made for, and what is
  created has a name of its own.

  Key definitions include:
    * `Pipeline.LeavesAlone`

  Key theorems include:
    * `Pipeline.sound_of_leavesAlone`
    * `Pipeline.leavesAlone_validation_turn`
    * `Pipeline.leavesAlone_scan_turn`
-/

------------------------------------------------------------
-- Left Alone
------------------------------------------------------------

namespace EngenhoPromessa

namespace Pipeline

open Fallible ImageValidation

variable [Chrono] [SerdeJson]

/-
  The objects of the validation are as they were, and names
  and statuses are still in order.
-/
structure LeavesAlone
    («namespace» name : String)
    (before after : Cluster) : Prop where
  validation_same :
    after.validations.find? (fun o =>
        o.isNamed «namespace» name) =
      before.validations.find? (fun o =>
        o.isNamed «namespace» name)
  tenant_same :
    tenantFind «namespace» name after.tenants =
      tenantFind «namespace» name before.tenants
  scans_same :
    scans «namespace» name after.scanJobs =
      scans «namespace» name before.scanJobs
  orderly_kept :
    Orderly «namespace» name before.scanJobs →
      Orderly «namespace» name after.scanJobs

/- Someone who only changes other kinds of resources. -/
theorem leavesAlone_of_eq
    {before after : Cluster}
    («namespace» name : String)
    (hValidations : after.validations = before.validations)
    (hTenants : after.tenants = before.tenants)
    (hJobs : after.scanJobs = before.scanJobs) :
    LeavesAlone «namespace» name before after where
  validation_same := by rw [hValidations]
  tenant_same := by rw [hTenants]
  scans_same := by rw [hJobs]
  orderly_kept := by
    rw [hJobs]
    exact id

/- What leaves the validation alone keeps the cluster sound. -/
theorem sound_of_leavesAlone
    [Blake3]
    {«namespace» name : String}
    {cluster cluster' : Cluster}
    (hSound : Sound «namespace» name cluster)
    (hAlone :
      LeavesAlone «namespace» name cluster cluster') :
    Sound «namespace» name cluster' ∧
      Onward «namespace» name cluster cluster' := by
  have hSame :
      cluster'.validationIn «namespace» name =
        cluster.validationIn «namespace» name := by
    rw [Cluster.validationIn, hAlone.validation_same]
    rfl
  refine ⟨sound_of_validationIn_eq hSound hSame ?_ ?_
      (hAlone.orderly_kept hSound.orderly) ?_ ?_,
    onward_of_validationIn_eq hSame ?_ ?_⟩
  · rw [hAlone.tenant_same]
    exact hSound.tenant_form
  · rw [hAlone.tenant_same]
    exact id
  · rw [hAlone.scans_same]
    exact hSound.on_their_way
  · rw [hAlone.scans_same]
    exact id
  · unfold tenantIsReady
    rw [hAlone.tenant_same]
    exact id
  · rw [hAlone.scans_same]
    exact fun o hMem => ⟨o, hMem, rfl, le_rfl⟩

end Pipeline

end EngenhoPromessa

------------------------------------------------------------
-- Turns On Other Objects
------------------------------------------------------------

namespace EngenhoPromessa

namespace Pipeline

open Fallible ImageValidation ScanJobController
open EphemeralTenant

variable {«namespace» name «namespace'» name' : String}
variable {copy cluster cluster' : Cluster}
variable {ctx : ReconcileCtx}

/- The tenant of another validation has another name. -/
theorem tenant_key_ne
    (hOther :
      («namespace'», name') ≠ («namespace», name)) :
    («namespace'», tenantNameOf name') ≠
      («namespace», tenantNameOf name) := by
  intro hEq
  rcases Prod.mk.inj hEq with ⟨hNamespace, hName⟩
  exact hOther (Prod.ext hNamespace
    (String.append_right_inj _ |>.mp hName))

/- A patch of a validation of another name is not seen. -/
theorem find?_of_patchNamed_getD
    {S : Type}
    {os os' : List (Stored S)}
    {patch : Json}
    (hOther :
      («namespace'», name') ≠ («namespace», name))
    (hPatched :
      os' = (Stored.patchNamed «namespace'» name' patch
        os).getD os) :
    os'.find? (fun o => o.isNamed «namespace» name) =
      os.find? (fun o => o.isNamed «namespace» name) := by
  cases hPatch :
      Stored.patchNamed «namespace'» name' patch os with
  | none => rw [hPatched, hPatch, Option.getD_none]
  | some patched =>
      rw [hPatched, hPatch, Option.getD_some]
      exact Stored.find?_patchNamed_of_ne hPatch hOther

variable [Chrono] [SerdeJson] [Blake3]

/- A turn of a scan job of another validation. -/
theorem leavesAlone_scan_turn
    (hEmpty : PrintsEmptyList)
    {sj : ScanJob}
    (hScan : copy.scanJobIn «namespace'» name' = some sj)
    (hOther :
      ∀ o ∈ scans «namespace» name cluster.scanJobs,
        o.key ≠ («namespace'», name'))
    {w : World}
    (hCluster : w.cluster = cluster)
    (hAfter :
      ((ScanJobController.reconcile ctx sj).exec
        w).2.cluster = cluster') :
    LeavesAlone «namespace» name cluster cluster' := by
  have hKept := ScanJobController.keeps_reconcile ctx sj w
  dsimp only at hKept
  rw [hAfter, hCluster] at hKept
  rcases Prod.mk.inj hKept with ⟨hValidations, hTenants⟩
  have hCases :=
    ScanJobController.exec_reconcile_cases hEmpty ctx sj w
  unfold scanJobs at hCases
  rw [hAfter, hCluster] at hCases
  rcases hCases with hJobs | ⟨phase, findings, attestation,
    hPatches, hPatch⟩
  · exact leavesAlone_of_eq _ _ hValidations hTenants hJobs
  · rcases exists_stored_of_scanJobIn hScan with
      ⟨_, _, _, hNamespace, hName, _⟩
    rw [hNamespace, hName] at hPatch
    exact
      { validation_same := by rw [hValidations]
        tenant_same := by rw [hTenants]
        scans_same :=
          Stored.filter_patchNamed hPatch (fun _ => rfl)
            (fun o hMem hKey => by
              rw [Bool.eq_false_iff]
              intro hOwn
              exact hOther o
                (List.mem_filter.mpr ⟨hMem, hOwn⟩) hKey)
        orderly_kept := fun hOrderly =>
          orderly_patchNamed hOrderly hPatch }

omit [SerdeJson] [Blake3] in
/- A tenant is found under the name it was asked for. -/
theorem key_of_tenantIn
    {t : AkeylessEphemeralTenant}
    (hTenant :
      copy.tenantIn «namespace'» name' = some t) :
    t.metadata.namespaceOrDefault = «namespace'» ∧
      t.metadata.nameAny = name' := by
  rcases Option.bind_eq_some_iff.mp hTenant with
    ⟨o, hFind, hRead⟩
  rcases Option.map_eq_some_iff.mp hRead with ⟨_, _, rfl⟩
  have hKey := Stored.key_of_find? hFind
  exact ⟨congrArg Prod.fst hKey, congrArg Prod.snd hKey⟩

omit [Blake3] in
/- A turn of another tenant. -/
theorem leavesAlone_tenant_turn
    {t : AkeylessEphemeralTenant}
    (hTenant :
      copy.tenantIn «namespace'» name' = some t)
    (hOther :
      («namespace'», name') ≠
        («namespace», tenantNameOf name))
    {w : World}
    (hCluster : w.cluster = cluster)
    (hAfter :
      ((EphemeralTenant.reconcile ctx t).exec
        w).2.cluster = cluster') :
    LeavesAlone «namespace» name cluster cluster' := by
  have hKept := EphemeralTenant.keeps_reconcile ctx t w
  dsimp only at hKept
  rw [hAfter, hCluster] at hKept
  rcases Prod.mk.inj hKept with ⟨hValidations, hJobs⟩
  have hCases := tenants_exec_reconcile ctx t w
  unfold EphemeralTenant.tenants at hCases
  rw [hAfter, hCluster] at hCases
  rcases hCases with hSame | ⟨new, _, hPatched⟩
  · exact leavesAlone_of_eq _ _ hValidations hSame hJobs
  · rcases key_of_tenantIn hTenant with ⟨hNamespace, hName⟩
    rw [patchedTenants, hNamespace, hName] at hPatched
    exact
      { validation_same := by rw [hValidations]
        tenant_same :=
          find?_of_patchNamed_getD hOther hPatched
        scans_same := by rw [hJobs]
        orderly_kept := by
          rw [hJobs]
          exact id }

/- A receipt for another validation. -/
theorem leavesAlone_receipt_turn
    {obj : AkeylessImageValidation}
    (hObj :
      copy.validationIn «namespace'» name' = some obj)
    (hScope :
      ctx.namespace.getD «namespace'» = «namespace'»)
    (hOther :
      («namespace'», name') ≠ («namespace», name))
    {w : World}
    (hCluster : w.cluster = cluster)
    (hAfter :
      ((OutcomeChain.handle ctx obj).exec w).2.cluster =
        cluster') :
    LeavesAlone «namespace» name cluster cluster' := by
  have hKept := OutcomeChain.keeps_handle ctx obj w
  dsimp only at hKept
  rw [hAfter, hCluster] at hKept
  rcases Prod.mk.inj hKept with ⟨hTenants, hJobs⟩
  have hCases :=
    OutcomeChain.exec_handle_validations ctx obj w
  dsimp only at hCases
  rw [hAfter, hCluster] at hCases
  rcases hCases with hSame | ⟨_, ns, hNs, hPatch⟩
  · exact leavesAlone_of_eq _ _ hSame hTenants hJobs
  · rcases exists_stored_of_validationIn hObj with
      ⟨_, _, _, _, _, _, hName⟩
    rw [hNs, Option.getD_some] at hScope
    rw [hScope, hName] at hPatch
    exact
      { validation_same :=
          Stored.find?_patchNamed_of_ne hPatch hOther
        tenant_same := by rw [hTenants]
        scans_same := by rw [hJobs]
        orderly_kept := by
          rw [hJobs]
          exact id }

variable [PromessaSerde]
variable {obj : AkeylessImageValidation}

omit [Chrono] [SerdeJson] [Blake3] [PromessaSerde] in
/- A tenant of another validation has another name. -/
theorem isNamed_newTenant
    (hNamespace :
      obj.metadata.namespaceOrDefault = «namespace'»)
    (hName : obj.metadata.nameAny = name')
    (hOther :
      («namespace'», name') ≠ («namespace», name)) :
    (newTenant obj).isNamed «namespace»
      (tenantNameOf name) = false := by
  have hKey :
      (newTenant obj).key =
        («namespace'», tenantNameOf name') := by
    rw [← hNamespace, ← hName]
    rfl
  rw [Bool.eq_false_iff, Ne, Stored.isNamed_iff, hKey]
  exact tenant_key_ne hOther

omit [Chrono] [SerdeJson] [Blake3] [PromessaSerde] in
/- A scan job of another validation is no scan of this one. -/
theorem isScan_newlyStored
    (hNamespace :
      obj.metadata.namespaceOrDefault = «namespace'»)
    (hName : obj.metadata.nameAny = name')
    (hOther :
      («namespace'», name') ≠ («namespace», name))
    {tenant : AkeylessEphemeralTenant}
    {scanner : RequiredScanner} :
    isScan «namespace» name (newlyStored
      (ownScanJob ctx obj tenant scanner)) = false := by
  have hNew := isNewScan_newlyStored ctx obj tenant scanner
  rw [Bool.eq_false_iff]
  intro hOwn
  rw [isScan, hNew.same_namespace, hNew.names_parent,
    hNamespace, hName, Bool.and_eq_true,
    decide_eq_true_eq, decide_eq_true_eq] at hOwn
  exact hOther (Prod.ext hOwn.1 hOwn.2)

/- What a validation creates has its own name. -/
theorem created_of_other
    (hNamespace :
      obj.metadata.namespaceOrDefault = «namespace'»)
    (hName : obj.metadata.nameAny = name')
    (hOther :
      («namespace'», name') ≠ («namespace», name))
    {w w₁ : World}
    {answer : Except KubeError
      (Option AkeylessImageValidationStatus)}
    (hNext :
      (ImageValidation.nextStatus ctx obj).exec w =
        (answer, w₁)) :
    tenantFind «namespace» name
        (EphemeralTenant.tenants w₁) =
      tenantFind «namespace» name
        (EphemeralTenant.tenants w) ∧
      scans «namespace» name (scanJobs w₁) =
        scans «namespace» name (scanJobs w) := by
  have hTenant :
      KeptByTenant obj (fun ts =>
        tenantFind «namespace» name ts =
          tenantFind «namespace» name
            (EphemeralTenant.tenants w)) := by
    intro ts hSame _
    refine Eq.trans ?_ hSame
    unfold tenantFind
    rw [List.find?_append, List.find?_singleton,
      isNamed_newTenant hNamespace hName hOther]
    exact Option.or_none
  have hScan :
      KeptByScans ctx obj (fun jobs =>
        scans «namespace» name jobs =
          scans «namespace» name (scanJobs w)) := by
    intro jobs tenant scanner hSame _
    refine Eq.trans ?_ hSame
    unfold scans
    rw [List.filter_append, List.filter_singleton,
      isScan_newlyStored hNamespace hName hOther]
    exact List.append_nil _
  have hTenants :=
    preserves_tenants_nextStatus ctx hTenant w rfl
  have hScans :=
    preserves_scanJobs_nextStatus ctx hScan w rfl
  rw [hNext] at hTenants hScans
  exact ⟨hTenants, hScans⟩

/- A turn of another validation. -/
theorem leavesAlone_validation_turn
    (hObj :
      copy.validationIn «namespace'» name' = some obj)
    (hScope :
      ctx.namespace.getD «namespace'» = «namespace'»)
    (hOther :
      («namespace'», name') ≠ («namespace», name))
    {w : World}
    (hCluster : w.cluster = cluster)
    (hAfter :
      ((ImageValidation.reconcile ctx obj).exec
        w).2.cluster = cluster') :
    LeavesAlone «namespace» name cluster cluster' := by
  rcases exists_stored_of_validationIn hObj with
    ⟨_, _, _, _, _, hNamespace, hName⟩
  cases hOpen : obj.currentPhase.isTerminal with
  | true =>
      rw [exec_reconcile_of_terminal ctx hOpen, hCluster]
        at hAfter
      rw [← hAfter]
      exact leavesAlone_of_eq _ _ rfl rfl rfl
  | false =>
      rcases ImageValidation.exec_reconcile_cases ctx obj
        hOpen w with
        ⟨answer, w₁, hNext, hTenants, hJobs, hWrite⟩
      unfold EphemeralTenant.tenants at hTenants
      unfold scanJobs at hJobs
      unfold validations at hWrite
      rw [hAfter] at hTenants hJobs hWrite
      rcases created_of_other hNamespace hName hOther hNext
        with ⟨hTenant, hScans⟩
      unfold EphemeralTenant.tenants at hTenant
      unfold scanJobs at hScans
      rw [hCluster, ← hTenants] at hTenant
      rw [hCluster, ← hJobs] at hScans
      refine
        { validation_same := ?_
          tenant_same := hTenant
          scans_same := hScans
          orderly_kept := fun hOrderly => ?_ }
      · rcases hWrite with hSame | ⟨new, _, hPatch⟩
        · rw [hSame, hCluster]
        · rw [hNamespace, hName, hScope, hCluster] at hPatch
          exact Stored.find?_patchNamed_of_ne hPatch hOther
      · have hStill := (extends_exec_nextStatus
          «namespace» name hNext (by
            unfold scanJobs
            rwa [hCluster])).1
        unfold scanJobs at hStill
        rwa [← hJobs] at hStill

end Pipeline

end EngenhoPromessa
