import EngenhoPromessa.SecurityController.Drift
import EngenhoPromessa.ReconcilerEngine.Engine
import Mathlib.Tactic.Tauto

/-
  The payloads the decider emits against the specs the
  default engine reads.

  Every apply action of a decision is one of four shapes, and
  each shape lacks a field its handler requires, or is of a
  kind no handler is registered for. So a decision can be
  carried out only when it applies nothing.

  Key definitions include:
    * `TypedAction.applies`
    * `SecurityController.DispatchesAll`
    * `SecurityController.AppliesNothing`

  Key theorems include:
    * `SecurityController.not_dispatchable_of_mem_applies`
    * `SecurityController.dispatchesAll_iff_appliesNothing`
-/

------------------------------------------------------------
-- The Apply Actions Of A Decision
------------------------------------------------------------

namespace EngenhoPromessa

namespace TypedAction

mutual

/- The apply actions anywhere in a tree, in order. -/
def applies : TypedAction → List (ReconcilerKind × Json)
| .reconcilerApply reconciler spec => [(reconciler, spec)]
| .compose steps => appliesSteps steps
| _ => []

/- The same of the steps of a compose, in order. -/
def appliesSteps :
    List TypedAction → List (ReconcilerKind × Json)
| [] => []
| step :: steps => applies step ++ appliesSteps steps

end

theorem appliesSteps_eq_flatMap
    (steps : List TypedAction) :
    appliesSteps steps = steps.flatMap applies := by
  induction steps with
  | nil => rfl
  | cons step steps ih =>
      rw [appliesSteps, ih, List.flatMap_cons]

end TypedAction

namespace Decision

/- What a decision applies, approved or not. -/
def applies : Decision → List (ReconcilerKind × Json)
| .noAction => []
| .autoCorrect action => action.applies
| .requireApproval action => action.applies
| .alert => []
| .suppressedAfterRepeatedFailure _ => []

end Decision

namespace SecurityController

/- The decision a snapshot leads to. -/
def decision
    (spec : SecuritySpec)
    (snapshot : SecuritySnapshot) : Decision :=
  let drift := diff spec snapshot
  decide spec (classify drift) drift

end SecurityController

end EngenhoPromessa

------------------------------------------------------------
-- Payloads And Specs
------------------------------------------------------------

namespace EngenhoPromessa

namespace SecurityController

variable {m : Type → Type}

/- One of the apply actions that `decide` can emit. -/
inductive Emitted (spec : SecuritySpec) :
    TypedAction → Prop where
  | critical {c action} (h : action ∈ criticalActions c) :
      Emitted spec action
  | attestation (digest att) :
      Emitted spec (attestationAction digest att)
  | agedHigh (h) : Emitted spec (agedHighAction h)
  | harbor (d) : Emitted spec (harborAction spec d)

/- What is applied comes from an action that was emitted. -/
theorem emitted_of_mem_decide
    {spec : SecuritySpec}
    {severity : Severity}
    {drift : SecurityDrift}
    {apply : ReconcilerKind × Json}
    (hApply :
      apply ∈ (decide spec severity drift).applies) :
    ∃ action, Emitted spec action ∧
      apply ∈ action.applies := by
  cases severity with
  | critical =>
      simp only [decide, Decision.applies,
        TypedAction.applies,
        TypedAction.appliesSteps_eq_flatMap,
        List.mem_flatMap] at hApply
      rcases hApply with ⟨action, ⟨c, _, hAction⟩, hMem⟩
      exact ⟨action, .critical hAction, hMem⟩
  | functional =>
      simp only [decide] at hApply
      split at hApply
      · simp [Decision.applies] at hApply
      · simp only [Decision.applies, TypedAction.applies,
          TypedAction.appliesSteps_eq_flatMap,
          List.mem_flatMap, List.mem_append,
          List.mem_map] at hApply
        rcases hApply with
          ⟨_, ⟨entry, _, att, _, rfl⟩ | ⟨h, _, rfl⟩,
            hMem⟩
        · exact ⟨_, .attestation entry.1 att, hMem⟩
        · exact ⟨_, .agedHigh h, hMem⟩
  | cosmetic =>
      simp only [decide] at hApply
      split at hApply
      · simp [Decision.applies] at hApply
      · simp only [Decision.applies, TypedAction.applies,
          TypedAction.appliesSteps_eq_flatMap,
          List.mem_flatMap, List.mem_map] at hApply
        rcases hApply with ⟨_, ⟨d, _, rfl⟩, hMem⟩
        exact ⟨_, .harbor d, hMem⟩

/-
  A cartorio payload has no kind-tagged transition, a tag
  revocation names other fields, a mirror request has no
  flag, and the other kinds have no handler.
-/
theorem not_dispatchable_of_emitted
    (acts : DefaultActs m)
    {spec : SecuritySpec}
    {action : TypedAction}
    {apply : ReconcilerKind × Json}
    (hEmitted : Emitted spec action)
    (hApply : apply ∈ action.applies) :
    ¬ (ReconcilerEngine.withDefaults acts).Dispatchable
      apply.1 apply.2 := by
  rw [ReconcilerEngine.dispatchable_withDefaults_iff]
  cases hEmitted with
  | @critical c _ h =>
      simp only [criticalActions, List.mem_cons,
        List.not_mem_nil, or_false] at h
      rcases h with rfl | rfl | rfl
      · simp only [TypedAction.applies,
          List.mem_singleton] at hApply
        subst hApply
        simp [CartorioAdmitSpec.fromValue,
          Json.structValues, Json.lookup_cons_ite,
          CartorioTransition.fromValue]
      · simp only [TypedAction.applies,
          List.mem_singleton] at hApply
        subst hApply
        simp [GhcrTagRevokeSpec.fromValue,
          Json.structValues, Json.lookup_cons_ite]
      · simp [TypedAction.applies] at hApply
  | attestation digest att =>
      simp only [attestationAction, TypedAction.applies,
        List.mem_singleton] at hApply
      subst hApply
      cases att with
      | cartorioActive =>
          simp [attestationReconciler,
            CartorioAdmitSpec.fromValue, Json.structValues,
            Json.lookup_cons_ite]
      | _ => exact id
  | agedHigh h =>
      simp only [agedHighAction, TypedAction.applies,
        List.mem_singleton] at hApply
      subst hApply
      exact id
  | harbor d =>
      simp only [harborAction, TypedAction.applies,
        List.mem_singleton] at hApply
      subst hApply
      simp [HarborMirrorSpec.fromValue, Json.structValues,
        Json.lookup_cons_ite]

/- The default engine has no reconciler for what is applied. -/
theorem not_dispatchable_of_mem_applies
    (acts : DefaultActs m)
    {spec : SecuritySpec}
    {severity : Severity}
    {drift : SecurityDrift}
    {apply : ReconcilerKind × Json}
    (hApply :
      apply ∈ (decide spec severity drift).applies) :
    ¬ (ReconcilerEngine.withDefaults acts).Dispatchable
      apply.1 apply.2 := by
  rcases emitted_of_mem_decide hApply with
    ⟨action, hEmitted, hMem⟩
  exact not_dispatchable_of_emitted acts hEmitted hMem

end SecurityController

end EngenhoPromessa

------------------------------------------------------------
-- Decisions That Apply Nothing
------------------------------------------------------------

namespace EngenhoPromessa

namespace SecurityController

/- A critical decision applies nothing only without CVEs. -/
theorem applies_decide_critical_eq_nil_iff
    (spec : SecuritySpec)
    (drift : SecurityDrift) :
    (decide spec .critical drift).applies = [] ↔
      drift.criticalCves = [] := by
  simp only [decide, Decision.applies, TypedAction.applies,
    TypedAction.appliesSteps_eq_flatMap,
    List.flatMap_eq_nil_iff, List.mem_flatMap]
  constructor
  · intro hNil
    apply List.eq_nil_iff_forall_not_mem.mpr
    intro c hc
    have hHead := hNil _ ⟨c, hc, List.mem_cons_self⟩
    simp [TypedAction.applies] at hHead
  · rintro hNil action ⟨c, hc, _⟩
    simp [hNil] at hc

/- A functional one applies all it can correct. -/
theorem applies_decide_functional_eq_nil_iff
    (spec : SecuritySpec)
    (snapshot : SecuritySnapshot) :
    (decide spec .functional (diff spec snapshot)).applies =
        [] ↔
      (diff spec snapshot).missingAttestations = [] ∧
        (diff spec snapshot).agedHighCves = [] := by
  constructor
  · intro hNil
    rw [decide] at hNil
    split at hNil
    · rename_i hEmpty
      simp only [List.isEmpty_iff, List.append_eq_nil_iff,
        List.flatMap_eq_nil_iff, List.map_eq_nil_iff]
        at hEmpty
      refine ⟨?_, hEmpty.2⟩
      apply List.eq_nil_iff_forall_not_mem.mpr
      rintro ⟨digest, missing⟩ hMem
      exact mem_missingAttestations_diff hMem
        (hEmpty.1 _ hMem)
    · rename_i hSome
      exfalso
      apply hSome
      simp only [Decision.applies, TypedAction.applies,
        TypedAction.appliesSteps_eq_flatMap,
        List.flatMap_eq_nil_iff] at hNil
      rw [List.isEmpty_iff]
      apply List.eq_nil_iff_forall_not_mem.mpr
      intro action hAction
      have hApplies := hNil action hAction
      rcases List.mem_append.mp hAction with hAtt | hHigh
      · rcases List.mem_flatMap.mp hAtt with
          ⟨entry, _, hMap⟩
        rcases List.mem_map.mp hMap with ⟨att, _, rfl⟩
        simp [attestationAction, TypedAction.applies]
          at hApplies
      · rcases List.mem_map.mp hHigh with ⟨h, _, rfl⟩
        simp [agedHighAction, TypedAction.applies] at hApplies
  · rintro ⟨hAtts, hHigh⟩
    simp [decide, hAtts, hHigh, Decision.applies]

/- A cosmetic one applies the forwardings, if turned on. -/
theorem applies_decide_cosmetic_eq_nil_iff
    (spec : SecuritySpec)
    (drift : SecurityDrift) :
    (decide spec .cosmetic drift).applies = [] ↔
      spec.harborForwardingEnabled = false ∨
        drift.allCleanDigests = [] := by
  cases hFlag : spec.harborForwardingEnabled with
  | false =>
      simp [decide, hFlag, Decision.applies]
  | true =>
      cases hClean : drift.allCleanDigests with
      | nil =>
          simp [decide, hClean, Decision.applies]
      | cons d ds =>
          simp [decide, hFlag, hClean, Decision.applies,
            TypedAction.applies, harborAction,
            TypedAction.appliesSteps_eq_flatMap]

/-
  The snapshots whose decision contains no apply action: no
  critical CVE, and either a withdrawn digest, or nothing to
  attest, bump or forward.
-/
def AppliesNothing
    (spec : SecuritySpec)
    (snapshot : SecuritySnapshot) : Prop :=
  (∀ obs ∈ snapshot.imageDigests,
    ∀ f ∈ obs.findings, isCriticalCve f = false) ∧
  ((∃ obs ∈ snapshot.imageDigests,
      isWithdrawn obs.cartorioStatus = true) ∨
    ((∀ obs ∈ snapshot.imageDigests,
        missingAttestationsOf spec obs = []) ∧
      (∀ obs ∈ snapshot.imageDigests,
        ∀ f ∈ obs.findings,
          isAgedHighCve spec snapshot.observedAt f =
            false) ∧
      ((∃ obs ∈ snapshot.imageDigests,
          missingScannersOf spec obs ≠ []) ∨
        spec.harborForwardingEnabled = false ∨
        ∀ obs ∈ snapshot.imageDigests,
          isClean spec snapshot.observedAt obs = true →
            obs.cartorioStatus ≠ .active)))

/- The three cases together, by the severity of the drift. -/
theorem applies_decision_eq_nil_iff
    (spec : SecuritySpec)
    (snapshot : SecuritySnapshot) :
    (decision spec snapshot).applies = [] ↔
      AppliesNothing spec snapshot := by
  rw [AppliesNothing, ← criticalCves_diff_eq_nil_iff,
    ← missingAttestations_diff_eq_nil_iff,
    ← agedHighCves_diff_eq_nil_iff,
    ← allCleanDigests_diff_eq_nil_iff]
  have hWithdrawn :
      (∃ obs ∈ snapshot.imageDigests,
        isWithdrawn obs.cartorioStatus = true) ↔
      (diff spec snapshot).revokedOrQuarantined ≠ [] := by
    rw [ne_eq, revokedOrQuarantined_diff_eq_nil_iff]
    simp
  have hScanners :
      (∃ obs ∈ snapshot.imageDigests,
        missingScannersOf spec obs ≠ []) ↔
      (diff spec snapshot).missingScanners ≠ [] := by
    rw [ne_eq, missingScanners_diff_eq_nil_iff]
    simp
  rw [hWithdrawn, hScanners, decision]
  cases hSeverity : classify (diff spec snapshot) with
  | critical =>
      have hCritical :=
        (classify_eq_critical_iff _).mp hSeverity
      rw [applies_decide_critical_eq_nil_iff]
      tauto
  | functional =>
      have hNot :
          ¬ ((diff spec snapshot).criticalCves ≠ [] ∨
            (diff spec snapshot).revokedOrQuarantined ≠
              []) := by
        rw [← classify_eq_critical_iff, hSeverity]
        simp
      have hDrift :
          ¬ ((diff spec snapshot).criticalCves = [] ∧
            (diff spec snapshot).revokedOrQuarantined =
              [] ∧
            (diff spec snapshot).agedHighCves = [] ∧
            (diff spec snapshot).missingAttestations = [] ∧
            (diff spec snapshot).missingScanners = []) := by
        rw [← classify_eq_cosmetic_iff, hSeverity]
        simp
      rw [applies_decide_functional_eq_nil_iff]
      tauto
  | cosmetic =>
      have hClean :=
        (classify_eq_cosmetic_iff _).mp hSeverity
      rw [applies_decide_cosmetic_eq_nil_iff]
      tauto

end SecurityController

end EngenhoPromessa

------------------------------------------------------------
-- Decisions The Engine Can Carry Out
------------------------------------------------------------

namespace EngenhoPromessa

namespace SecurityController

/- The default engine can dispatch every apply action. -/
def DispatchesAll
    {m : Type → Type}
    (acts : DefaultActs m)
    (spec : SecuritySpec)
    (snapshot : SecuritySnapshot) : Prop :=
  ∀ apply ∈ (decision spec snapshot).applies,
    (ReconcilerEngine.withDefaults acts).Dispatchable
      apply.1 apply.2

/-
  All that is decided is dispatched just if nothing is
  applied.
-/
theorem dispatchesAll_iff_appliesNothing
    {m : Type → Type}
    (acts : DefaultActs m)
    (spec : SecuritySpec)
    (snapshot : SecuritySnapshot) :
    DispatchesAll acts spec snapshot ↔
      AppliesNothing spec snapshot := by
  rw [← applies_decision_eq_nil_iff]
  constructor
  · intro hAll
    apply List.eq_nil_iff_forall_not_mem.mpr
    intro apply hApply
    exact not_dispatchable_of_mem_applies acts hApply
      (hAll apply hApply)
  · intro hNil apply hApply
    rw [hNil] at hApply
    exact absurd hApply List.not_mem_nil

/-
  A pending digest with no attestation under the default
  spec: the decider asks cartorio to admit it with a payload
  that has no transition.
-/
theorem not_dispatchesAll_unattested :
    ¬ DispatchesAll
      (⟨fun _ => .alreadyConverged,
        fun _ => .alreadyConverged,
        fun _ => .alreadyConverged⟩ : DefaultActs Id)
      SecuritySpec.default
      ⟨[{ digest := "sha256:00"
          service := "auth"
          cartorioStatus := .pending
          findings := []
          attestationsPresent := ∅
          scannersReported :=
            SecuritySpec.default.requiredScanners }],
        ⟨0⟩⟩ := by
  intro hAll
  have hApply :=
    hAll (.cartorioAdmit,
      .obj [("digest", .str "sha256:00"),
        ("force", .bool true)]) (List.Mem.head _)
  rw [ReconcilerEngine.dispatchable_withDefaults_iff]
    at hApply
  exact absurd hApply (by decide)

end SecurityController

end EngenhoPromessa
