import EngenhoPromessa.Controllers.PipelineRuns

/-
  A validation on the platform comes to its decision.

  In a round the validation, its tenant and the scan jobs it
  has each get a turn that finds what it needs from outside,
  at any time and in any order; everything else goes on. Each
  round leads on, and eleven are enough.

  Key definitions include:
    * `Pipeline.Round`
    * `Pipeline.IsNew`

  Key theorems include:
    * `Pipeline.phase_rank_of_round`
    * `Pipeline.rank_round`
    * `Pipeline.decided_of_rounds`
-/

------------------------------------------------------------
-- How Far It Is
------------------------------------------------------------

namespace EngenhoPromessa

namespace Pipeline

variable [Chrono] [SerdeJson]
variable {«namespace» name : String} {cluster : Cluster}

/- No scan job has more phases to go than the furthest one. -/
theorem furthest_le_iff {n : Nat} :
    furthest «namespace» name cluster ≤ n ↔
      ∀ o ∈ scans «namespace» name cluster.scanJobs,
        scanRank o ≤ n := by
  unfold furthest
  induction scans «namespace» name cluster.scanJobs with
  | nil => simp
  | cons o os ih => simp [ih]

/- A scan job has at most four phases to go. -/
theorem scanRank_le (o : Stored ScanJobSpec) :
    scanRank o ≤ 4 := by
  unfold scanRank
  cases (ScanRun.onObject o).phase <;>
    simp [ScanJobPhase.rank]

variable («namespace» name cluster) in
/- So has the furthest. -/
theorem furthest_le_four :
    furthest «namespace» name cluster ≤ 4 :=
  furthest_le_iff.mpr (fun o _ => scanRank_le o)

/- One phase further is a round less, at least. -/
theorem rank_of_phase_rank_lt
    {cluster' : Cluster}
    (hLess :
      (phaseOf «namespace» name cluster').rank <
        (phaseOf «namespace» name cluster).rank) :
    rank «namespace» name cluster' ≤
      rank «namespace» name cluster - 1 := by
  have hFurthest :=
    furthest_le_four «namespace» name cluster'
  unfold rank
  generalize phaseOf «namespace» name cluster' = after
    at hLess ⊢
  generalize phaseOf «namespace» name cluster = before
    at hLess ⊢
  cases before <;> cases after <;>
    simp only [AkeylessImageValidationPhase.rank]
      at hLess ⊢ <;>
    (try split_ifs) <;> omega

/-
  Nothing is left to do exactly when the validation is
  decided.
-/
theorem rank_eq_zero_iff :
    rank «namespace» name cluster = 0 ↔
      (phaseOf «namespace» name cluster).rank = 0 := by
  unfold rank
  cases phaseOf «namespace» name cluster with
  | provisioning =>
      cases tenantIsReady «namespace» name cluster <;>
        simp [AkeylessImageValidationPhase.rank]
  | _ => simp [AkeylessImageValidationPhase.rank]

/- What leads nothing back does not take longer. -/
theorem rank_le_of_onward
    {cluster' : Cluster}
    (hOn : Onward «namespace» name cluster cluster') :
    rank «namespace» name cluster' ≤
      rank «namespace» name cluster := by
  rcases Nat.lt_or_eq_of_le hOn.phase_le with hLess | hSame
  · exact (rank_of_phase_rank_lt hLess).trans
      (Nat.sub_le _ 1)
  rcases Nat.eq_zero_or_pos
    (phaseOf «namespace» name cluster).rank with
    hEnded | hOpen
  · rw [rank_eq_zero_iff.mpr (hSame.trans hEnded)]
    exact Nat.zero_le _
  have hPhase :=
    AkeylessImageValidationPhase.eq_of_rank_eq hSame
      (hSame ▸ hOpen)
  unfold rank
  rw [hPhase]
  cases hBefore : phaseOf «namespace» name cluster with
  | provisioning =>
      cases hReady : tenantIsReady «namespace» name cluster
        with
      | true =>
          simp [hOn.tenant_kept hReady]
      | false =>
          simp only [Bool.false_eq_true, if_false]
          split_ifs <;> omega
  | scanning =>
      refine Nat.add_le_add_left (furthest_le_iff.mpr ?_) 4
      intro o' hMem
      rcases hOn.scans_le hBefore (hPhase.trans hBefore) o'
        hMem with ⟨o, hThere, _, hLe⟩
      exact hLe.trans (furthest_le_iff.mp le_rfl o hThere)
  | _ => exact le_rfl

/- A validation starts with at most eleven rounds to go. -/
theorem rank_le_eleven :
    rank «namespace» name cluster ≤ 11 := by
  have hFurthest :=
    furthest_le_four «namespace» name cluster
  unfold rank
  cases phaseOf «namespace» name cluster <;>
    simp only [AkeylessImageValidationPhase.rank] <;>
    (try split_ifs) <;> omega

end Pipeline

end EngenhoPromessa

------------------------------------------------------------
-- One Round
------------------------------------------------------------

namespace EngenhoPromessa

namespace Pipeline

open Platform

variable {σ : Type}
variable [Chrono] [SerdeJson] [Blake3] [PromessaSerde]
variable [ErrorText] [OutcomeSerde]

/-
  The validation, its tenant and each scan job it has at the
  start get a turn that finds what it needs.
-/
structure Round
    (executor : ActionExecutor (StateM σ))
    («namespace» name : String)
    (s : Platform σ)
    (events : List Event) : Prop where
  validation :
    Run.AtLeast (step executor)
      (Serves .imageValidation («namespace», name)) 1 s
      events
  tenant :
    Run.AtLeast (step executor)
      (Serves .ephemeralTenant
        («namespace», tenantNameOf name)) 1 s events
  scan_jobs :
    ∀ o ∈ scans «namespace» name s.cluster.scanJobs,
      Run.AtLeast (step executor) (Serves .scanJob o.key) 1
        s events

/-
  A round serves each of the three controllers at least
  once.
-/
theorem round_iff
    {executor : ActionExecutor (StateM σ)}
    {«namespace» name : String}
    {s : Platform σ}
    {events : List Event} :
    Round executor «namespace» name s events ↔
      Run.AtLeast (step executor)
          (Serves .imageValidation («namespace», name)) 1 s
          events ∧
        Run.AtLeast (step executor)
          (Serves .ephemeralTenant
            («namespace», tenantNameOf name)) 1 s events ∧
        ∀ o ∈ scans «namespace» name s.cluster.scanJobs,
          Run.AtLeast (step executor)
            (Serves .scanJob o.key) 1 s events :=
  ⟨fun h => ⟨h.validation, h.tenant, h.scan_jobs⟩,
    fun h => ⟨h.1, h.2.1, h.2.2⟩⟩

instance
    (executor : ActionExecutor (StateM σ))
    («namespace» name : String)
    (s : Platform σ)
    (events : List Event) :
    Decidable (Round executor «namespace» name s events) :=
  decidable_of_iff _ round_iff.symm

variable {«namespace» name : String}
variable {executor : ActionExecutor (StateM σ)}
variable {s : Platform σ} {events : List Event}

/-
  A run with a good step in it: what comes before it and what
  comes after lead on, too.
-/
theorem exists_good_step
    (hEmpty : ScanJobController.PrintsEmptyList)
    (hSound : Sound «namespace» name s.cluster)
    (hUndisturbed :
      Run.Allowed (step executor)
        (Undisturbed «namespace» name) s events)
    {good : Platform σ → Event → Prop}
    (hGood : Run.AtLeast (step executor) good 1 s events) :
    ∃ t e,
      Sound «namespace» name t.cluster ∧
        Onward «namespace» name s.cluster t.cluster ∧
        Undisturbed «namespace» name t e ∧ good t e ∧
        Onward «namespace» name t.cluster
          (t.step executor e).cluster ∧
        Onward «namespace» name (t.step executor e).cluster
          (Run.run (step executor) s events).cluster := by
  rcases Run.exists_good_of_atLeast hGood with
    ⟨before, e, after, rfl, hHere⟩
  rcases Run.allowed_append_iff.mp hUndisturbed with
    ⟨hBefore, hNow, hAfter⟩
  rcases sound_run hEmpty executor hSound hBefore with
    ⟨hThen, hThere⟩
  rcases sound_step executor hEmpty hThen hNow
    with ⟨hNext, hStep⟩
  rw [Run.run_append, Run.run_cons]
  exact ⟨_, e, hThen, hThere, hNow, hHere, hStep,
    (sound_run hEmpty executor hNext hAfter).2⟩

/-
  A validation that is served as long as it stays where it is
  goes on.
-/
theorem phase_rank_of_round
    (hEmpty : ScanJobController.PrintsEmptyList)
    (hSound : Sound «namespace» name s.cluster)
    (hUndisturbed :
      Run.Allowed (step executor)
        (Undisturbed «namespace» name) s events)
    (hRound : Round executor «namespace» name s events)
    (hServed :
      ∀ cluster,
        Onward «namespace» name s.cluster cluster →
        phaseOf «namespace» name cluster =
          phaseOf «namespace» name s.cluster →
        IsServed «namespace» name cluster)
    (hOpen : 0 < (phaseOf «namespace» name s.cluster).rank) :
    (phaseOf «namespace» name
        (Run.run (step executor) s events).cluster).rank ≤
      (phaseOf «namespace» name s.cluster).rank - 1 := by
  rcases exists_good_step hEmpty hSound hUndisturbed
    hRound.validation with
    ⟨t, e, hThen, hBefore, hNow, hServes, hStep, hAfter⟩
  have hLe := hBefore.phase_le
  have hLast := hAfter.phase_le
  rcases Nat.lt_or_eq_of_le hLe with hMoved | hSameRank
  · have hNext := hStep.phase_le
    omega
  · have hSame :
        phaseOf «namespace» name t.cluster =
          phaseOf «namespace» name s.cluster :=
      AkeylessImageValidationPhase.eq_of_rank_eq hSameRank
        (hSameRank ▸ hOpen)
    have hRank := rank_of_serves executor
      hThen hNow hServes (hServed _ hBefore hSame)
      (hSame ▸ hOpen)
    omega

/- Its tenant is ready, if it goes on to wait for it. -/
theorem ready_of_round
    (hEmpty : ScanJobController.PrintsEmptyList)
    (hSound : Sound «namespace» name s.cluster)
    (hUndisturbed :
      Run.Allowed (step executor)
        (Undisturbed «namespace» name) s events)
    (hRound : Round executor «namespace» name s events)
    (hProvisioning :
      phaseOf «namespace» name s.cluster = .provisioning) :
    tenantIsReady «namespace» name
      (Run.run (step executor) s events).cluster = true := by
  rcases exists_good_step hEmpty hSound hUndisturbed
    hRound.tenant with
    ⟨t, e, hThen, hBefore, hNow, hServes, _, hAfter⟩
  refine hAfter.tenant_kept
    (ready_of_serves hThen hNow hServes
      (hThen.tenant_there ?_))
  intro hPending
  have hLe := hBefore.phase_le
  rw [hPending, hProvisioning] at hLe
  simp [AkeylessImageValidationPhase.rank] at hLe

/- Each scan job it still waits for is one phase further. -/
theorem furthest_of_round
    (hEmpty : ScanJobController.PrintsEmptyList)
    (hSound : Sound «namespace» name s.cluster)
    (hUndisturbed :
      Run.Allowed (step executor)
        (Undisturbed «namespace» name) s events)
    (hRound : Round executor «namespace» name s events)
    (hBefore :
      phaseOf «namespace» name s.cluster = .scanning)
    (hAfter :
      phaseOf «namespace» name
        (Run.run (step executor) s events).cluster =
          .scanning) :
    furthest «namespace» name
        (Run.run (step executor) s events).cluster ≤
      furthest «namespace» name s.cluster - 1 := by
  rw [furthest_le_iff]
  intro o' hMem
  have hAll :=
    (sound_run hEmpty executor hSound hUndisturbed).2
  rcases hAll.scans_le hBefore hAfter o' hMem with
    ⟨o, hThere, hKey, _⟩
  rcases exists_good_step hEmpty hSound hUndisturbed
    (hRound.scan_jobs o hThere) with
    ⟨t, e, hThen, hFirst, hNow, hServes, hStep, hLast⟩
  have hNext :=
    phaseOf_between (onward_trans hFirst hStep) hLast
      hBefore hAfter
  have hHere := phaseOf_between hFirst hStep hBefore hNext
  -- back from the end to the step, over it, and to the start
  rcases hLast.scans_le hNext hAfter o' hMem with
    ⟨o₂, hMem₂, hKey₂, hRank₂⟩
  rcases hStep.scans_le hHere hNext o₂ hMem₂ with
    ⟨o₁, hMem₁, hKey₁, _⟩
  rcases hFirst.scans_le hBefore hHere o₁ hMem₁ with
    ⟨o₀, hMem₀, _, hRank₀⟩
  have hSame : o.key = o₁.key :=
    (hKey.trans hKey₂.symm).trans hKey₁.symm
  rw [hSame] at hServes
  have hLess :=
    scanRank_of_serves executor hEmpty hThen
      hNow hMem₁ hServes hMem₂ hKey₁.symm
  have hFar := furthest_le_iff.mp le_rfl o₀ hMem₀
  omega

/- A round of a validation that is waiting for its tenant. -/
theorem rank_round_of_provisioning
    (hEmpty : ScanJobController.PrintsEmptyList)
    (hSound : Sound «namespace» name s.cluster)
    (hUndisturbed :
      Run.Allowed (step executor)
        (Undisturbed «namespace» name) s events)
    (hRound : Round executor «namespace» name s events)
    (hPhase :
      phaseOf «namespace» name s.cluster = .provisioning) :
    rank «namespace» name
        (Run.run (step executor) s events).cluster ≤
      rank «namespace» name s.cluster - 1 := by
  have hOn :=
    (sound_run hEmpty executor hSound hUndisturbed).2
  rcases Nat.lt_or_eq_of_le hOn.phase_le with hLess | hSame
  · exact rank_of_phase_rank_lt hLess
  have hStill :
      phaseOf «namespace» name
        (Run.run (step executor) s events).cluster =
          .provisioning := by
    rw [hPhase] at hSame
    exact AkeylessImageValidationPhase.eq_of_rank_eq hSame
      (hSame ▸ Nat.succ_pos 4)
  cases hReady :
      tenantIsReady «namespace» name s.cluster with
  | true =>
      -- then it did not stay
      have hLess :=
        phase_rank_of_round hEmpty hSound hUndisturbed
          hRound (fun cluster hTo hHere =>
            ⟨fun _ => hTo.tenant_kept hReady,
              fun hScanning => by
                rw [hHere, hPhase] at hScanning
                cases hScanning⟩)
          (by rw [hPhase]; exact Nat.succ_pos 4)
      rw [hStill, hPhase] at hLess
      cases Nat.not_succ_le_self 4 hLess
  | false =>
      have hArrived := ready_of_round hEmpty hSound
        hUndisturbed hRound hPhase
      simp [rank, hPhase, hStill, hReady, hArrived]

/- A round of a validation that is waiting for its scans. -/
theorem rank_round_of_scanning
    (hEmpty : ScanJobController.PrintsEmptyList)
    (hSound : Sound «namespace» name s.cluster)
    (hUndisturbed :
      Run.Allowed (step executor)
        (Undisturbed «namespace» name) s events)
    (hRound : Round executor «namespace» name s events)
    (hPhase :
      phaseOf «namespace» name s.cluster = .scanning) :
    rank «namespace» name
        (Run.run (step executor) s events).cluster ≤
      rank «namespace» name s.cluster - 1 := by
  have hOn :=
    (sound_run hEmpty executor hSound hUndisturbed).2
  rcases Nat.lt_or_eq_of_le hOn.phase_le with hLess | hSame
  · exact rank_of_phase_rank_lt hLess
  have hStill :
      phaseOf «namespace» name
        (Run.run (step executor) s events).cluster =
          .scanning := by
    rw [hPhase] at hSame
    exact AkeylessImageValidationPhase.eq_of_rank_eq hSame
      (hSame ▸ Nat.succ_pos 3)
  rcases Nat.eq_zero_or_pos
    (furthest «namespace» name s.cluster) with
    hDone | hOpen
  · have hServed :
        ∀ cluster,
          Onward «namespace» name s.cluster cluster →
          phaseOf «namespace» name cluster =
            phaseOf «namespace» name s.cluster →
          IsServed «namespace» name cluster := by
      intro cluster hTo hHere
      refine ⟨fun h => ?_, fun hScanning o' hMem => ?_⟩
      · rw [hHere, hPhase] at h
        cases h
      · rcases hTo.scans_le hPhase hScanning o' hMem with
          ⟨o, hThere, _, hLe⟩
        have hZero := furthest_le_iff.mp hDone.le o hThere
        exact Nat.le_zero.mp (hLe.trans hZero)
    -- then it did not stay
    have hLess :=
      phase_rank_of_round hEmpty hSound hUndisturbed hRound
        hServed (by rw [hPhase]; exact Nat.succ_pos 3)
    rw [hStill, hPhase] at hLess
    cases Nat.not_succ_le_self 3 hLess
  · have hLess := furthest_of_round hEmpty hSound
      hUndisturbed hRound hPhase hStill
    simp only [rank, hPhase, hStill]
    omega

/- Every round leads on. -/
theorem rank_round
    (hEmpty : ScanJobController.PrintsEmptyList)
    (hSound : Sound «namespace» name s.cluster)
    (hUndisturbed :
      Run.Allowed (step executor)
        (Undisturbed «namespace» name) s events)
    (hRound : Round executor «namespace» name s events) :
    rank «namespace» name
        (Run.run (step executor) s events).cluster ≤
      rank «namespace» name s.cluster - 1 := by
  by_cases hProvisioning :
      phaseOf «namespace» name s.cluster = .provisioning
  · exact rank_round_of_provisioning hEmpty hSound
      hUndisturbed hRound hProvisioning
  by_cases hScanning :
      phaseOf «namespace» name s.cluster = .scanning
  · exact rank_round_of_scanning hEmpty hSound hUndisturbed
      hRound hScanning
  rcases Nat.eq_zero_or_pos
    (phaseOf «namespace» name s.cluster).rank with
    hEnded | hOpen
  · have hLe := rank_le_of_onward
      (sound_run hEmpty executor hSound hUndisturbed).2
    rwa [rank_eq_zero_iff.mpr hEnded] at hLe ⊢
  · have hLess :=
      phase_rank_of_round hEmpty hSound hUndisturbed hRound
        (fun cluster _ hHere =>
          ⟨fun h => absurd (hHere.symm.trans h)
              hProvisioning,
            fun h => absurd (hHere.symm.trans h)
              hScanning⟩) hOpen
    exact rank_of_phase_rank_lt
      (Nat.lt_of_le_pred hOpen hLess)

end Pipeline

end EngenhoPromessa

------------------------------------------------------------
-- From A New Validation On
------------------------------------------------------------

namespace EngenhoPromessa

namespace Pipeline

open Platform

variable {σ : Type}
variable [Chrono] [SerdeJson]

/- The validation is there, and nothing has become of it. -/
structure IsNew
    («namespace» name : String)
    (cluster : Cluster) : Prop where
  validation :
    ∃ o, cluster.validations.find? (fun o =>
          o.isNamed «namespace» name) = some o ∧
      o.status = none
  no_tenant : tenantFind «namespace» name cluster.tenants = none
  no_scans : scans «namespace» name cluster.scanJobs = []
  orderly : Orderly «namespace» name cluster.scanJobs

variable {«namespace» name : String} {cluster : Cluster}

/- It is read as an object without a status. -/
theorem validationIn_of_isNew
    (hNew : IsNew «namespace» name cluster) :
    ∃ metadata spec,
      cluster.validationIn «namespace» name =
        some
          { metadata := metadata
            spec := spec
            status := none } := by
  rcases hNew.validation with ⟨o, hFind, hStatus⟩
  refine ⟨o.metadata, o.spec,
    Option.bind_eq_some_iff.mpr ⟨o, hFind, ?_⟩⟩
  rw [Api.readValidation, hStatus]
  rfl

theorem phaseOf_of_isNew
    (hNew : IsNew «namespace» name cluster) :
    phaseOf «namespace» name cluster = .pending := by
  rcases validationIn_of_isNew hNew with ⟨_, _, hObj⟩
  exact phaseOf_eq hObj

/- A cluster with a new validation is sound. -/
theorem sound_of_isNew
    [Blake3]
    (hNew : IsNew «namespace» name cluster) :
    Sound «namespace» name cluster := by
  rcases validationIn_of_isNew hNew with
    ⟨metadata, spec, hObj⟩
  have hPhase := phaseOf_of_isNew hNew
  refine
    { validation := ⟨_, hObj, ?_⟩
      tenant_form := fun o hSome => ?_
      tenant_there := fun hLater => absurd hPhase hLater
      orderly := hNew.orderly
      on_their_way := fun o hMem => ?_
      scans_there := fun hScanning => ?_ }
  · exact
      { writable := fun g hGate => by cases hGate
        fields := (RunState.freshInvariant_created
          metadata spec).phase_invariant
        tenant_ref := fun ref hRef => by cases hRef }
  · rw [hNew.no_tenant] at hSome
    cases hSome
  · rw [hNew.no_scans] at hMem
    cases hMem
  · rw [hPhase] at hScanning
    cases hScanning

variable [Blake3] [PromessaSerde] [ErrorText] [OutcomeSerde]

/-
  From a new validation on its objects belong together, and
  between any two moments none of them has gone back.
-/
theorem onward_of_isNew
    (hEmpty : ScanJobController.PrintsEmptyList)
    (executor : ActionExecutor (StateM σ))
    (start : Platform σ)
    (hNew : IsNew «namespace» name start.cluster)
    (earlier later : List Event)
    (hUndisturbed :
      Run.Allowed (step executor)
        (Undisturbed «namespace» name) start
        (earlier ++ later)) :
    let s := Run.run (step executor) start earlier
    let t := Run.run (step executor) start
      (earlier ++ later)
    Sound «namespace» name s.cluster ∧
      Sound «namespace» name t.cluster ∧
      Onward «namespace» name s.cluster t.cluster := by
  intro s t
  rcases Run.allowed_append_iff.mp hUndisturbed with
    ⟨hBefore, hLater⟩
  have hSound : Sound «namespace» name s.cluster :=
    (sound_run hEmpty executor (sound_of_isNew hNew)
      hBefore).1
  rcases sound_run hEmpty executor hSound hLater with
    ⟨hThen, hOn⟩
  rw [← Run.run_append] at hThen hOn
  exact ⟨hSound, hThen, hOn⟩

/- As many rounds as there are to go lead to the end. -/
theorem phase_rank_of_rounds
    (hEmpty : ScanJobController.PrintsEmptyList)
    {executor : ActionExecutor (StateM σ)}
    {s : Platform σ}
    (hSound : Sound «namespace» name s.cluster)
    {rounds : List (List Event)}
    (hUndisturbed :
      Run.Allowed (step executor)
        (Undisturbed «namespace» name) s rounds.flatten)
    (hRounds :
      Run.Allowed (Run.run (step executor))
        (Round executor «namespace» name) s rounds)
    (hEnough :
      rank «namespace» name s.cluster ≤ rounds.length) :
    (phaseOf «namespace» name
      (Run.run (step executor) s
        rounds.flatten).cluster).rank = 0 := by
  have hRank :=
    Run.rank_run_le
      (fun s => Sound «namespace» name s.cluster)
      (fun s => rank «namespace» name s.cluster)
      (fun s events hInv hOk =>
        ⟨(sound_run hEmpty executor hInv hOk).1,
          rank_le_of_onward
            (sound_run hEmpty executor hInv hOk).2⟩)
      (fun s events hInv hOk hRound =>
        rank_round hEmpty hInv hOk hRound)
      hSound (Run.allowed_flatten_iff.mpr hUndisturbed)
      (Run.atLeast_of_allowed hRounds)
  rw [Run.run_flatten, Nat.sub_eq_zero_of_le hEnough]
    at hRank
  exact rank_eq_zero_iff.mp (Nat.le_zero.mp hRank)

/-
  A new validation, whatever has become of it and of all the
  others meanwhile, is decided after eleven rounds, and what
  was decided stays.
-/
theorem decided_of_rounds
    (hEmpty : ScanJobController.PrintsEmptyList)
    (executor : ActionExecutor (StateM σ))
    (start : Platform σ)
    (hNew : IsNew «namespace» name start.cluster)
    (earlier : List Event)
    (rounds : List (List Event))
    (hUndisturbed :
      Run.Allowed (step executor)
        (Undisturbed «namespace» name) start
        (earlier ++ rounds.flatten))
    (hRounds :
      Run.Allowed (Run.run (step executor))
        (Round executor «namespace» name)
        (Run.run (step executor) start earlier) rounds)
    (hEnough : 11 ≤ rounds.length) :
    let s := Run.run (step executor) start
      (earlier ++ rounds.flatten)
    ∃ obj g,
      s.cluster.validationIn «namespace» name = some obj ∧
        obj.currentPhase.isTerminal = true ∧
        obj.gateDecision? = some g ∧
        obj.currentPhase = g.verdict.phase ∧
        obj.statusOrDefault.evidenceBundleHash.isSome =
          true ∧
        ∀ more,
          Run.Allowed (step executor)
            (Undisturbed «namespace» name) s more →
          ∃ obj',
            (Run.run (step executor) s
              more).cluster.validationIn «namespace» name =
                some obj' ∧
              obj'.currentPhase = obj.currentPhase ∧
              obj'.gateDecision? = some g := by
  intro s
  rcases Run.allowed_append_iff.mp hUndisturbed with
    ⟨hBefore, hLater⟩
  have hSoundThen :=
    (sound_run hEmpty executor (sound_of_isNew hNew)
      hBefore).1
  have hSound : Sound «namespace» name s.cluster :=
    (sound_run hEmpty executor (sound_of_isNew hNew)
      hUndisturbed).1
  have hRank :
      (phaseOf «namespace» name s.cluster).rank = 0 := by
    have hEnd :=
      phase_rank_of_rounds hEmpty hSoundThen hLater hRounds
        (rank_le_eleven.trans hEnough)
    rwa [← Run.run_append] at hEnd
  rcases hSound.validation with ⟨obj, hObj, hConsistent⟩
  have hPhase := phaseOf_eq hObj
  have hEnded : obj.currentPhase.isTerminal = true := by
    rw [hPhase] at hRank
    exact (AkeylessImageValidationPhase.rank_eq_zero_iff
      _).mp hRank
  have hFields := hConsistent.fields
  rcases Option.isSome_iff_exists.mp
    (hFields.gate_present.mpr hEnded) with ⟨g, hGate⟩
  have hDecision : obj.gateDecision? = some g :=
    (RunState.gate_statusOrDefault obj).symm.trans hGate
  refine ⟨obj, g, hObj, hEnded, hDecision,
    hFields.phase_is_verdict g hGate,
    hFields.evidence_present (.inr (.inr hEnded)), ?_⟩
  intro more hMore
  rcases sound_run hEmpty executor hSound hMore with
    ⟨hStill, hOn⟩
  rcases hStill.validation with ⟨obj', hObj', _⟩
  rcases hOn.decided (by rwa [hPhase]) with
    ⟨hSamePhase, hSameGate⟩
  rw [phaseOf_eq hObj', hPhase] at hSamePhase
  rw [hObj', hObj, Option.bind_some, Option.bind_some,
    hDecision] at hSameGate
  exact ⟨obj', hObj', hSamePhase, hSameGate⟩

end Pipeline

end EngenhoPromessa

namespace EngenhoPromessa

namespace Reference

open Platform Pipeline

/- The cluster is done with the jobs there are. -/
def finishJobs (cluster : Cluster) : Cluster :=
  { cluster with
    jobs := cluster.jobs.map (fun job =>
      { job with status := some ⟨some 1, some 0⟩ }) }

/- One turn each, after the jobs that were there are done. -/
def servedRound : List Event :=
  .change finishJobs ::
    scanOnlyTurn .imageValidation "auth-00" ::
    scanOnlyTurn .ephemeralTenant "eph-auth-00" ::
    (securitySpecFor scanOnlyCtx.env
      validationSpec.promessaRef).requiredScanners.toList.map
        (fun scanner => scanOnlyTurn .scanJob
          (ImageValidation.scanJobNameOf scanner "auth-00"))

/- As many rounds as a validation may need. -/
def servedRounds : List (List Event) :=
  List.replicate 11 servedRound

/- A call that fails, and a turn on another validation. -/
def unservedEvents : List Event :=
  [.change addValidation,
    .turn .imageValidation scanOnlyCtx 0 "validation"
      "auth-00" [.refused],
    .turn .imageValidation scanOnlyCtx 1 "validation"
      "auth-01" []]

/- Another validation leaves this one alone. -/
theorem leavesAlone_addValidation (cluster : Cluster) :
    LeavesAlone "validation" "auth-00" cluster
      (addValidation cluster) where
  validation_same := by
    rw [addValidation, List.find?_append]
    exact Option.or_none
  tenant_same := rfl
  scans_same := rfl
  orderly_kept := id

/-
  The events of the witness leave the validation
  undisturbed.
-/
theorem undisturbed_events :
    ∀ e ∈ unservedEvents ++ servedRounds.flatten,
      ∀ s : Platform Unit,
        Undisturbed "validation" "auth-00" s e := by
  intro e hMem s
  have hTurn :
      ∀ controller name,
        Undisturbed "validation" "auth-00" s
          (scanOnlyTurn controller name) :=
    fun _ _ => ⟨rfl, .inl rfl⟩
  rcases List.mem_append.mp hMem with hEarlier | hLater
  · simp only [unservedEvents, List.mem_cons,
      List.not_mem_nil, or_false] at hEarlier
    rcases hEarlier with rfl | rfl | rfl
    · exact leavesAlone_addValidation s.cluster
    · exact ⟨rfl, .inl rfl⟩
    · exact ⟨rfl, .inr rfl⟩
  · rcases List.mem_flatten.mp hLater with
      ⟨round, hRound, hIn⟩
    rw [(List.mem_replicate.mp hRound).2, servedRound]
      at hIn
    simp only [List.mem_cons, List.mem_map] at hIn
    rcases hIn with rfl | rfl | rfl | ⟨_, _, rfl⟩
    · exact leavesAlone_of_eq _ _ rfl rfl rfl
    · exact hTurn _ _
    · exact hTurn _ _
    · exact hTurn _ _

/- The reference's validation is a new one. -/
theorem isNew_withValidation :
    IsNew "validation" "auth-00" withValidation where
  validation := ⟨_, rfl, rfl⟩
  no_tenant := rfl
  no_scans := rfl
  orderly :=
    { nodup := List.nodup_nil
      readable := fun _ hMem => absurd hMem List.not_mem_nil
      named := fun _ hMem => absurd hMem List.not_mem_nil }

/- The whole run of the witness is undisturbed. -/
theorem allowed_events :
    Run.Allowed (step executor)
      (Undisturbed "validation" "auth-00")
      (start withValidation ())
      (unservedEvents ++ servedRounds.flatten) :=
  Run.allowed_of_invariant (fun _ => True)
    (fun _ _ _ _ => trivial) (fun s _ _ hAll => hAll s)
    trivial (Run.allowed_of_forall undisturbed_events _)

/- Each of the eleven rounds of the witness serves everyone. -/
theorem round_servedRounds :
    Run.Allowed (Run.run (step executor))
      (Round executor "validation" "auth-00")
      (Run.run (step executor) (start withValidation ())
        unservedEvents) servedRounds := by
  decide +kernel

end Reference

namespace Pipeline

open Platform

/- The served run of the reference moves onward. -/
theorem onward_of_isNew_served :
    let s := Run.run (step Reference.executor)
      (start Reference.withValidation ())
      Reference.unservedEvents
    let t := Run.run (step Reference.executor)
      (start Reference.withValidation ())
      (Reference.unservedEvents ++
        Reference.servedRounds.flatten)
    Sound "validation" "auth-00" s.cluster ∧
      Sound "validation" "auth-00" t.cluster ∧
      Onward "validation" "auth-00" s.cluster t.cluster :=
  onward_of_isNew rfl Reference.executor
    (start Reference.withValidation ())
    Reference.isNew_withValidation
    Reference.unservedEvents Reference.servedRounds.flatten
    Reference.allowed_events

/- The served run of the reference decides. -/
theorem decided_of_rounds_served :
    let s := Run.run (step Reference.executor)
      (start Reference.withValidation ())
      (Reference.unservedEvents ++
        Reference.servedRounds.flatten)
    ∃ obj g,
      s.cluster.validationIn "validation" "auth-00" =
          some obj ∧
        obj.currentPhase.isTerminal = true ∧
        obj.gateDecision? = some g ∧
        obj.currentPhase = g.verdict.phase ∧
        obj.statusOrDefault.evidenceBundleHash.isSome =
          true ∧
        ∀ more,
          Run.Allowed (step Reference.executor)
            (Undisturbed "validation" "auth-00") s more →
          ∃ obj',
            (Run.run (step Reference.executor) s
              more).cluster.validationIn "validation"
                "auth-00" = some obj' ∧
              obj'.currentPhase = obj.currentPhase ∧
              obj'.gateDecision? = some g :=
  decided_of_rounds rfl Reference.executor
    (start Reference.withValidation ())
    Reference.isNew_withValidation
    Reference.unservedEvents Reference.servedRounds
    Reference.allowed_events Reference.round_servedRounds
    (by decide)

end Pipeline

end EngenhoPromessa
