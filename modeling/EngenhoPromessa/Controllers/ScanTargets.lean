import EngenhoPromessa.Controllers.EphemeralTenant
import EngenhoPromessa.Controllers.GateSafety
import EngenhoPromessa.Controllers.ImageValidation
import EngenhoPromessa.Controllers.ScanJob
import EngenhoPromessa.Text.Split

/-
  The target in the command line of a scanner: the field of
  the scan job that the catalog names, in the places the
  template has for it.

  A place within an argument is never filled, and a tenant
  without a target is scanned with an empty argument.

  Key definitions include:
    * `Str.replace`
    * `ScanTargets.jobTarget`
    * `ScanTargets.GetsTarget`
    * `ScanTargets.HasTarget`

  Key theorems include:
    * `ScanTargets.render_eq_map_replace`
    * `ScanTargets.ingressUrl_of_ready`
    * `ScanTargets.getsTarget_iff`
-/

------------------------------------------------------------
-- Replacing A Pattern
------------------------------------------------------------

namespace Str

/- `s.replace(pattern, by)`. -/
def replace (pattern new s : String) : String :=
  String.intercalate new (split pattern s)

/- A text without the pattern is left alone. -/
theorem replace_of_not_contains
    {first : Char}
    {pattern s : String}
    {rest : List Char}
    (hPattern : pattern.toList = first :: rest)
    (hNone : contains pattern s = false)
    (new : String) :
    replace pattern new s = s := by
  rw [replace, split_of_not_contains hPattern hNone]
  rfl

end Str

------------------------------------------------------------
-- Templates
------------------------------------------------------------

namespace EngenhoPromessa

namespace ScanTargets

/- The placeholder in an argument template. -/
def placeholder : String := "$\x7btarget\x7d"

/- The argument template of a scanner. -/
def templateArgs (kind : ScannerKind) : List String :=
  match (Catalog.forKind kind).args with
  | .static args => args

/- The field of the job that the catalog names. -/
def jobTarget (sj : ScanJob) : Option String :=
  match (Catalog.forKind sj.spec.scanner).targetField with
  | .digest => sj.spec.targetDigest
  | .source => sj.spec.targetSource
  | .tenantUrl => sj.spec.targetTenantUrl
  | .none => none

theorem args_eq_render (env : Env) (sj : ScanJob) :
    (ScanJobController.scannerImageAndArgs env sj).2 =
      (Catalog.forKind sj.spec.scanner).args.render
        (jobTarget sj) := rfl

/- The placeholder is the whole argument or no part of it. -/
def IsWhole (arg : String) : Prop :=
  arg = placeholder ∨ Str.contains placeholder arg = false

instance (arg : String) : Decidable (IsWhole arg) :=
  inferInstanceAs (Decidable (_ ∨ _))

theorem toList_placeholder :
    placeholder.toList =
      '$' :: "\x7btarget\x7d".toList := by
  decide

/- The placeholder alone becomes the target. -/
theorem replace_placeholder (t : String) :
    Str.replace placeholder t placeholder = t := by
  rw [Str.replace,
    show Str.split placeholder placeholder = ["", ""] by
      decide]
  rw [String.intercalate_cons_cons,
    String.intercalate_singleton]
  simp

/- Whole arguments are all that rendering replaces. -/
theorem render_eq_map_replace
    {args : List String}
    (hWhole : ∀ arg ∈ args, IsWhole arg)
    (t : String) :
    (ArgsTemplate.static args).render (some t) =
      args.map (Str.replace placeholder t) := by
  refine List.map_congr_left fun arg hArg => ?_
  rcases hWhole arg hArg with rfl | hNone
  · rw [replace_placeholder]
    rfl
  · rw [Str.replace_of_not_contains toList_placeholder hNone]
    refine if_neg ?_
    rintro rfl
    exact absurd hNone (by decide)

/- But for one scanner, every argument is whole. -/
theorem isWhole_templateArgs
    {kind : ScannerKind}
    (hKind : kind ≠ .burpEnterprise) :
    ∀ arg ∈ templateArgs kind, IsWhole arg := by
  cases kind with
  | burpEnterprise => exact absurd rfl hKind
  | _ => decide

end ScanTargets

end EngenhoPromessa

------------------------------------------------------------
-- The Target Of A Job
------------------------------------------------------------

namespace EngenhoPromessa

namespace ScanTargets

open ImageValidation (buildScanJob)

/- The catalog's field for a scanner. -/
def targetField (scanner : RequiredScanner) : TargetField :=
  (Catalog.forKind
    (scannerKindFromRequired scanner)).targetField

/- The target a tenant offers. -/
def ingressUrl
    (tenant : AkeylessEphemeralTenant) : Option String :=
  tenant.status.bind AkeylessEphemeralTenantStatus.ingressUrl

/-
  The command line is the template with the job's target in
  every place, and the target is something to scan.
-/
def GetsTarget (env : Env) (sj : ScanJob) : Prop :=
  ∃ t, jobTarget sj = some t ∧ t ≠ "" ∧ t ≠ placeholder ∧
    (ScanJobController.scannerImageAndArgs env sj).2 =
      (templateArgs sj.spec.scanner).map
        (Str.replace placeholder t)

/- A scanner of the tenant finds a URL there. -/
def HasTarget
    (scanner : RequiredScanner)
    (tenant : AkeylessEphemeralTenant) : Prop :=
  scanner ≠ .burpEnterprise ∧
    (targetField scanner = .tenantUrl →
      ∃ url, ingressUrl tenant = some url ∧ url ≠ "" ∧
        url ≠ placeholder)

/- The scan job runs the scanner it was built for. -/
theorem scanner_buildScanJob
    (env : Env)
    (name ns : String)
    (parent : AkeylessImageValidation)
    (tenant : AkeylessEphemeralTenant)
    (scanner : RequiredScanner) :
    (buildScanJob env name ns parent tenant
        scanner).spec.scanner =
      scannerKindFromRequired scanner := rfl

/- What a job is given is what its scanner reads. -/
theorem jobTarget_buildScanJob
    (env : Env)
    (name ns : String)
    (parent : AkeylessImageValidation)
    (tenant : AkeylessEphemeralTenant)
    (scanner : RequiredScanner) :
    jobTarget
        (buildScanJob env name ns parent tenant scanner) =
      match targetField scanner with
      | .digest =>
          some (ImageValidation.pullableImageRef env
            parent.spec.imageRepo parent.spec.imageDigest)
      | .source =>
          some ("https://github.com/akeylesslabs/" ++
            "akeyless-main-repo")
      | .tenantUrl => ingressUrl tenant
      | .none => none := by
  simp only [jobTarget, scanner_buildScanJob, targetField]
  cases hField : (Catalog.forKind
      (scannerKindFromRequired scanner)).targetField with
  | digest => simp [buildScanJob, hField]
  | source => simp [buildScanJob, hField]
  | tenantUrl => simp [buildScanJob, hField, ingressUrl]
  | none => rfl

/- A reference to an image is no placeholder. -/
theorem pullableImageRef_ne
    (env : Env)
    (repo digest : String)
    {s : String}
    (hAt : '@' ∉ s.toList) :
    ImageValidation.pullableImageRef env repo digest ≠ s := by
  rintro rfl
  refine hAt ?_
  unfold ImageValidation.pullableImageRef
  cases env.nonempty "SCANNER_REGISTRY_MIRROR" with
  | none => simp
  | some mirror => simp

/-
  With whole arguments the target is put in for the
  placeholder.
-/
theorem getsTarget_of_whole
    {env : Env}
    {sj : ScanJob}
    {t : String}
    (hWhole : ∀ arg ∈ templateArgs sj.spec.scanner,
      IsWhole arg)
    (hTarget : jobTarget sj = some t) :
    (ScanJobController.scannerImageAndArgs env sj).2 =
      (templateArgs sj.spec.scanner).map
        (Str.replace placeholder t) := by
  rw [args_eq_render, hTarget,
    ← render_eq_map_replace hWhole]
  unfold templateArgs
  cases (Catalog.forKind sj.spec.scanner).args with
  | static args => rfl

/- The place within an argument keeps its placeholder. -/
theorem args_burpEnterprise
    (target : Option String)
    (t : String)
    (hNot : t ≠ placeholder) :
    (Catalog.forKind .burpEnterprise).args.render target ≠
      (templateArgs .burpEnterprise).map
        (Str.replace placeholder t) := by
  intro hArgs
  have hSplit :
      Str.split placeholder "--target=$\x7btarget\x7d" =
        ["--target=", ""] := by
    decide
  have hReplaced :
      Str.replace placeholder t
          "--target=$\x7btarget\x7d" =
        "--target=" ++ t := by
    rw [Str.replace, hSplit, String.intercalate_cons_cons,
      String.intercalate_singleton]
    simp
  have hLast := congrArg List.getLast? hArgs
  have hKept :
      ((Catalog.forKind .burpEnterprise).args.render
          target).getLast? =
        some ("--target=" ++ placeholder) := rfl
  have hFilled :
      ((templateArgs .burpEnterprise).map
          (Str.replace placeholder t)).getLast? =
        some ("--target=" ++ t) := by
    rw [← hReplaced]
    rfl
  rw [hKept, hFilled, Option.some.injEq,
    String.append_right_inj] at hLast
  exact hNot hLast.symm

/-
  A scanner gets its target exactly when there is one to
  get.
-/
theorem getsTarget_iff
    (env env' : Env)
    (name ns : String)
    (parent : AkeylessImageValidation)
    (tenant : AkeylessEphemeralTenant)
    {scanner : RequiredScanner}
    (hTargeted : targetField scanner ≠ .none) :
    GetsTarget env'
        (buildScanJob env name ns parent tenant scanner) ↔
      HasTarget scanner tenant := by
  have hTarget := jobTarget_buildScanJob env name ns parent
    tenant scanner
  have hKind := scanner_buildScanJob env name ns parent
    tenant scanner
  constructor
  · rintro ⟨t, hSome, hNonempty, hNot, hArgs⟩
    constructor
    · rintro rfl
      rw [args_eq_render, hKind] at hArgs
      exact args_burpEnterprise _ t hNot hArgs
    · intro hUrl
      rw [hTarget, hUrl] at hSome
      exact ⟨t, hSome, hNonempty, hNot⟩
  · rintro ⟨hBurp, hUrl⟩
    have hWhole :
        ∀ arg ∈ templateArgs
          (scannerKindFromRequired scanner), IsWhole arg := by
      refine isWhole_templateArgs fun hSame => hBurp ?_
      cases scanner with
      | burpEnterprise => rfl
      | _ => exact absurd hSame (by decide)
    suffices hFound :
        ∃ t, jobTarget (buildScanJob env name ns parent
            tenant scanner) = some t ∧
          t ≠ "" ∧ t ≠ placeholder by
      rcases hFound with ⟨t, hSome, hNonempty, hNot⟩
      exact ⟨t, hSome, hNonempty, hNot,
        getsTarget_of_whole (hKind ▸ hWhole) hSome⟩
    rw [hTarget]
    cases hField : targetField scanner with
    | digest =>
        exact ⟨_, rfl,
          pullableImageRef_ne _ _ _ (by decide),
          pullableImageRef_ne _ _ _ (by decide)⟩
    | source => exact ⟨_, rfl, by decide, by decide⟩
    | tenantUrl => exact hUrl hField
    | none => exact absurd hField hTargeted

end ScanTargets

end EngenhoPromessa

------------------------------------------------------------
-- Tenants That Are Ready
------------------------------------------------------------

namespace EngenhoPromessa

namespace EphemeralTenant

open Fallible

/- Ready is what the target itself was found to be. -/
theorem eq_some_of_exec_assessTarget
    {target : Option String}
    {w w' : World}
    {url : String}
    (hRun :
      (assessTarget target).exec w =
        (.ok (.readyAt url), w')) :
    target = some url := by
  cases target with
  | none =>
      have hNone := (exec_pure_eq_ok.mp hRun).1
      exact absurd hNone (by simp)
  | some url' =>
      unfold assessTarget at hRun
      cases hRef : inClusterServiceRef url' with
      | none =>
          simp only [hRef] at hRun
          have hReady := (exec_pure_eq_ok.mp hRun).1
          rw [TargetReadiness.readyAt.inj hReady]
      | some ref =>
          simp only [hRef] at hRun
          rcases exec_bind_eq_ok.mp hRun with
            ⟨service, w₁, _, hPure⟩
          cases hService : service.isSome with
          | true =>
              simp only [hService, if_true] at hPure
              have hReady := (exec_pure_eq_ok.mp hPure).1
              rw [TargetReadiness.readyAt.inj hReady]
          | false =>
              simp only [hService, Bool.false_eq_true,
                if_false] at hPure
              have hWaiting := (exec_pure_eq_ok.mp hPure).1
              exact absurd hWaiting (by simp)

/- A tenant made ready offers the target of the environment. -/
theorem ingressUrl_of_exec_assess
    {ctx : ReconcileCtx}
    {obj : AkeylessEphemeralTenant}
    {w w' : World}
    {new : AkeylessEphemeralTenantStatus}
    {requeue : Nat}
    (hRun :
      (assess ctx obj).exec w =
        (.ok (some new, requeue), w'))
    (hReady : new.phase = some .ready) :
    new.ingressUrl = resolveDastTarget ctx.env := by
  rcases exec_bind_eq_ok.mp hRun with
    ⟨readiness, w₁, hAssess, hPure⟩
  have hPair := (exec_pure_eq_ok.mp hPure).1
  have hNew := Option.some.inj (Prod.mk.inj hPair).1
  cases readiness with
  | readyAt url =>
      rw [eq_some_of_exec_assessTarget hAssess, ← hNew]
      rfl
  | noTarget =>
      rw [(exec_assessTarget_eq_ok hAssess).mp rfl, ← hNew]
      rfl
  | waiting =>
      rw [← hNew] at hReady
      exact absurd hReady (by simp [assessedStatus])

/- A tenant is made ready with the target there is. -/
theorem ingressUrl_of_ready
    {ctx : ReconcileCtx}
    {obj : AkeylessEphemeralTenant}
    {w w' : World}
    {new : AkeylessEphemeralTenantStatus}
    {requeue : Nat}
    (hRun :
      (nextStatus ctx obj).exec w =
        (.ok (some new, requeue), w'))
    (hReady : new.phase = some .ready) :
    new.ingressUrl = resolveDastTarget ctx.env := by
  unfold nextStatus at hRun
  cases hPhase : obj.currentPhase with
  | teardown =>
      simp only [hPhase] at hRun
      have hPair := (exec_pure_eq_ok.mp hRun).1
      have hNew := Option.some.inj (Prod.mk.inj hPair).1
      rw [← hNew] at hReady
      exact absurd hReady (by simp [reapedStatus])
  | pending =>
      simp only [hPhase] at hRun
      exact ingressUrl_of_exec_assess hRun hReady
  | infraProvisioning =>
      simp only [hPhase] at hRun
      exact ingressUrl_of_exec_assess hRun hReady
  | chartRendering =>
      simp only [hPhase] at hRun
      exact ingressUrl_of_exec_assess hRun hReady
  | podsRunning =>
      simp only [hPhase] at hRun
      exact ingressUrl_of_exec_assess hRun hReady
  | ready => simp [hPhase] at hRun
  | scanning => simp [hPhase] at hRun
  | reaped => simp [hPhase] at hRun
  | failed => simp [hPhase] at hRun

end EphemeralTenant

namespace ScanTargets

/- A tenant that a step has just made ready. -/
theorem hasTarget_of_ready_iff
    {ctx : ReconcileCtx}
    {obj tenant : AkeylessEphemeralTenant}
    {w w' : World}
    {new : AkeylessEphemeralTenantStatus}
    {requeue : Nat}
    (hRun :
      (EphemeralTenant.nextStatus ctx obj).exec w =
        (.ok (some new, requeue), w'))
    (hReady : new.phase = some .ready)
    (hStatus : tenant.status = some new)
    (scanner : RequiredScanner) :
    HasTarget scanner tenant ↔
      scanner ≠ .burpEnterprise ∧
        (targetField scanner = .tenantUrl →
          ∃ url,
            EphemeralTenant.resolveDastTarget ctx.env =
              some url ∧ url ≠ placeholder) := by
  have hUrl : ingressUrl tenant =
      EphemeralTenant.resolveDastTarget ctx.env := by
    rw [ingressUrl, hStatus, Option.bind_some]
    exact EphemeralTenant.ingressUrl_of_ready hRun hReady
  have hNonempty (url : String)
      (hSome : EphemeralTenant.resolveDastTarget ctx.env =
        some url) :
      url ≠ "" := by
    rintro rfl
    have hKept := (Option.filter_eq_some_iff.mp hSome).2
    exact absurd hKept (by decide)
  unfold HasTarget
  rw [hUrl]
  refine and_congr_right fun _ => imp_congr_right fun _ =>
    exists_congr fun url => and_congr_right fun hSome => ?_
  exact and_iff_right (hNonempty url hSome)

end ScanTargets

namespace Reference

/- A tenant no step has looked at yet. -/
def pendingTenant : AkeylessEphemeralTenant where
  metadata := metadata "eph-auth-00"
  spec :=
    (ImageValidation.buildTenant (validationAt .pending)).spec
  status := none

/- What a step without a target makes of it. -/
def targetlessTenant : AkeylessEphemeralTenant :=
  { pendingTenant with
    status := some (EphemeralTenant.assessedStatus ctx
      pendingTenant none .noTarget) }

/- A world without objects or faults. -/
def emptyWorld : World where
  cluster := emptyCluster
  faults := []
  calls := []
  published := []

/- A target outside the cluster. -/
def saasUrl : String := "https://saas.example.com"

/- A context that names it. -/
def targetCtx : ReconcileCtx :=
  { ctx with
    env := fun name =>
      if name = "DAST_TARGET_URL" then
        some saasUrl
      else
        none }

/- What a step with a target outside makes of it. -/
def targetTenant : AkeylessEphemeralTenant :=
  { pendingTenant with
    status := some (EphemeralTenant.assessedStatus targetCtx
      pendingTenant (some saasUrl) (.readyAt saasUrl)) }

/- The scan job built for a tenant and a scanner. -/
def jobFor
    (tenant : AkeylessEphemeralTenant)
    (scanner : RequiredScanner) : ScanJob :=
  ImageValidation.buildScanJob ctx.env
    (ImageValidation.scanJobName (validationAt .provisioning)
      scanner) "validation" (validationAt .provisioning)
    tenant scanner

end Reference

namespace ScanTargets

/-
  Steps make the tenants ready. ZAP gets no target from the
  one, and Burp a literal placeholder from the other.
-/
theorem not_getsTarget_zap_burp :
    ((EphemeralTenant.nextStatus Reference.ctx
          Reference.pendingTenant).exec
            Reference.emptyWorld =
        (.ok (Reference.targetlessTenant.status, 600),
          Reference.emptyWorld) ∧
      Reference.targetlessTenant.currentPhase = .ready ∧
      targetField .zap ≠ .none ∧
      ¬ GetsTarget Reference.ctx.env
        (Reference.jobFor Reference.targetlessTenant
          .zap)) ∧
    (EphemeralTenant.nextStatus Reference.targetCtx
          Reference.pendingTenant).exec
            Reference.emptyWorld =
        (.ok (Reference.targetTenant.status, 600),
          Reference.emptyWorld) ∧
      Reference.targetTenant.currentPhase = .ready ∧
      targetField .burpEnterprise ≠ .none ∧
      ¬ GetsTarget Reference.ctx.env
        (Reference.jobFor Reference.targetTenant
          .burpEnterprise) := by
  refine ⟨⟨rfl, rfl, by decide, ?_⟩, ?_, rfl, by decide, ?_⟩
  · rintro ⟨t, hSome, -⟩
    have hNone :
        jobTarget (Reference.jobFor
          Reference.targetlessTenant .zap) = none := rfl
    exact absurd (hNone.symm.trans hSome) (by simp)
  · have hTarget :
        EphemeralTenant.resolveDastTarget
          Reference.targetCtx.env =
            some Reference.saasUrl := by
      decide
    have hRef :
        EphemeralTenant.inClusterServiceRef
          Reference.saasUrl = none := by
      decide
    change (EphemeralTenant.assess Reference.targetCtx
      Reference.pendingTenant).exec _ = _
    unfold EphemeralTenant.assess EphemeralTenant.assessTarget
    rw [hTarget]
    dsimp only
    generalize EphemeralTenant.inClusterServiceRef
      Reference.saasUrl = service at hRef ⊢
    subst hRef
    rfl
  · rintro ⟨t, -, -, hNot, hArgs⟩
    exact args_burpEnterprise _ t hNot hArgs

/- A scanner of digests needs no target of the tenant. -/
theorem getsTarget_iff_trivy :
    GetsTarget Reference.ctx.env
        (ImageValidation.buildScanJob Reference.ctx.env
          "sj-trivy-auth-00" "validation"
          (Reference.validationAt .provisioning)
          Reference.targetlessTenant .trivy) ↔
      HasTarget .trivy Reference.targetlessTenant :=
  getsTarget_iff _ _ _ _ _ _ (by decide)

end ScanTargets

end EngenhoPromessa
