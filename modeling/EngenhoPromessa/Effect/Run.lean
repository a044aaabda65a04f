import Mathlib.Data.List.Basic

/-
  Runs of a state machine: a step function folded over a
  list of events.

  A guard may restrict which events happen in which states.
  What every allowed step preserves holds after every allowed
  run, and what every allowed step does to a state, a
  preorder permitting, every allowed run does.

  Key definitions include:
    * `Run.run`
    * `Run.Allowed`

  Key theorems include:
    * `Run.component_run`
    * `Run.invariant_run`
    * `Run.allowed_of_invariant`
    * `Run.invariant_run_iff`
    * `Run.relates_run`
    * `Run.allowed_relates_iff`
-/

------------------------------------------------------------
-- Runs
------------------------------------------------------------

namespace Run

variable {S E : Type}

/- The state after all events, one by one. -/
def run
    (step : S → E → S)
    (s : S)
    (events : List E) : S :=
  events.foldl step s

@[simp] theorem run_nil (step : S → E → S) (s : S) :
    run step s [] = s := rfl

@[simp] theorem run_cons
    (step : S → E → S)
    (s : S)
    (e : E)
    (events : List E) :
    run step s (e :: events) =
      run step (step s e) events := rfl

theorem run_append
    (step : S → E → S)
    (s : S)
    (first second : List E) :
    run step s (first ++ second) =
      run step (run step s first) second :=
  List.foldl_append

/-
  A component that takes part in some of the events runs on
  those.
-/
theorem component_run
    {T F : Type}
    {step : S → E → S}
    {part : T → F → T}
    (π : S → T)
    (view : E → Option F)
    (hStep : ∀ s e,
      π (step s e) = ((view e).map (part (π s))).getD (π s))
    (s : S)
    (events : List E) :
    π (run step s events) =
      run part (π s) (events.filterMap view) := by
  induction events generalizing s with
  | nil => rfl
  | cons e events ih =>
      rw [run_cons, ih, hStep]
      cases hView : view e with
      | none => simp [hView]
      | some f => simp [hView]

/- A component that every event only adds to. -/
theorem appended_run
    {T : Type}
    {step : S → E → S}
    (π : S → List T)
    {added : E → List T}
    (hStep : ∀ s e, π (step s e) = π s ++ added e)
    (s : S)
    (events : List E) :
    π (run step s events) = π s ++ events.flatMap added := by
  induction events generalizing s with
  | nil => simp
  | cons e events ih =>
      rw [run_cons, ih, hStep, List.flatMap_cons,
        List.append_assoc]

/- Every event is allowed in the state it happens in. -/
def Allowed
    (step : S → E → S)
    (ok : S → E → Prop) : S → List E → Prop
| _, [] => True
| s, e :: events =>
    ok s e ∧ Allowed step ok (step s e) events

instance decidableAllowed
    {step : S → E → S}
    {ok : S → E → Prop}
    [∀ s e, Decidable (ok s e)] :
    (s : S) → (events : List E) →
      Decidable (Allowed step ok s events)
| _, [] => .isTrue trivial
| s, e :: events =>
    haveI : Decidable (Allowed step ok (step s e) events) :=
      decidableAllowed (step s e) events
    inferInstanceAs
      (Decidable (ok s e ∧ Allowed step ok (step s e) events))

/- The same for what is allowed of its steps. -/
theorem allowed_append_iff
    {step : S → E → S}
    {ok : S → E → Prop}
    {s : S}
    {first second : List E} :
    Allowed step ok s (first ++ second) ↔
      Allowed step ok s first ∧
        Allowed step ok (run step s first) second := by
  induction first generalizing s with
  | nil => simp [Allowed]
  | cons e first ih => simp [Allowed, ih, and_assoc]

/- Every run is allowed when nothing is asked. -/
theorem allowed_true
    (step : S → E → S)
    (s : S)
    (events : List E) :
    Allowed step (fun _ _ => True) s events := by
  induction events generalizing s with
  | nil => trivial
  | cons e events ih => exact ⟨trivial, ih _⟩

/- A guard on the events alone. -/
theorem allowed_iff_forall
    (step : S → E → S)
    {ok : E → Prop}
    (s : S)
    {events : List E} :
    Allowed step (fun _ e => ok e) s events ↔
      ∀ e ∈ events, ok e := by
  induction events generalizing s with
  | nil => simp [Allowed]
  | cons e events ih => simp [Allowed, ih]

/- A condition on the events alone holds in any state. -/
theorem allowed_of_forall
    {step : S → E → S}
    {ok : E → Prop}
    {events : List E}
    (hEvents : ∀ e ∈ events, ok e)
    (s : S) :
    Allowed step (fun _ e => ok e) s events :=
  (allowed_iff_forall step s).mpr hEvents

/- Two guards are one. -/
theorem allowed_and_iff
    {step : S → E → S}
    {ok ok' : S → E → Prop}
    {s : S}
    {events : List E} :
    Allowed step (fun s e => ok s e ∧ ok' s e) s events ↔
      Allowed step ok s events ∧
        Allowed step ok' s events := by
  induction events generalizing s with
  | nil => simp [Allowed]
  | cons e events ih =>
      simp only [Allowed, ih]
      exact and_and_and_comm

/- Guards that agree on the states of a run allow it alike. -/
theorem allowed_congr
    {step : S → E → S}
    {ok ok' : S → E → Prop}
    (Inv : S → Prop)
    (hStep : ∀ s e, Inv s → Inv (step s e))
    (hAgree : ∀ s e, Inv s → (ok s e ↔ ok' s e))
    {s : S}
    (hInv : Inv s)
    (events : List E) :
    Allowed step ok s events ↔
      Allowed step ok' s events := by
  induction events generalizing s with
  | nil => exact Iff.rfl
  | cons e events ih =>
      exact and_congr (hAgree s e hInv) (ih (hStep s e hInv))

end Run

------------------------------------------------------------
-- What Runs Preserve
------------------------------------------------------------

namespace Run

variable {S E : Type}

/- The induction along a run, with the invariant carried. -/
theorem invariant_run
    {step : S → E → S}
    {ok : S → E → Prop}
    (Inv : S → Prop)
    (hStep : ∀ s e, Inv s → ok s e → Inv (step s e))
    {s : S}
    {events : List E}
    (hInv : Inv s)
    (hAllowed : Allowed step ok s events) :
    Inv (run step s events) := by
  induction events generalizing s with
  | nil => exact hInv
  | cons e events ih =>
      exact ih (hStep s e hInv hAllowed.1) hAllowed.2

/-
  What an allowed step of a good state satisfies, every step
  of an allowed run does.
-/
theorem allowed_of_invariant
    {step : S → E → S}
    {ok ok' : S → E → Prop}
    (Inv : S → Prop)
    (hStep : ∀ s e, Inv s → ok s e → Inv (step s e))
    (hOk : ∀ s e, Inv s → ok s e → ok' s e)
    {s : S}
    {events : List E}
    (hInv : Inv s)
    (hAllowed : Allowed step ok s events) :
    Allowed step ok' s events := by
  induction events generalizing s with
  | nil => trivial
  | cons e events ih =>
      exact ⟨hOk s e hInv hAllowed.1,
        ih (hStep s e hInv hAllowed.1) hAllowed.2⟩

/-
  Where a step against the guard does damage that no later
  step repairs, the invariant holds after a run exactly if
  every step of it was allowed.
-/
theorem invariant_run_iff
    {step : S → E → S}
    {ok : S → E → Prop}
    (Inv Damaged : S → Prop)
    (hStep : ∀ s e, Inv s → ok s e → Inv (step s e))
    (hBreak : ∀ s e, Inv s → ¬ ok s e → Damaged (step s e))
    (hStays : ∀ s e, Damaged s → Damaged (step s e))
    (hNot : ∀ s, Damaged s → ¬ Inv s)
    {s : S}
    {events : List E}
    (hInv : Inv s) :
    Inv (run step s events) ↔
      Allowed step ok s events := by
  constructor
  · intro hAfter
    induction events generalizing s with
    | nil => trivial
    | cons e events ih =>
        by_cases hOk : ok s e
        · exact ⟨hOk, ih (hStep s e hInv hOk) hAfter⟩
        · have hDamaged :
              Damaged (run step (step s e) events) :=
            invariant_run Damaged
              (fun t e' hBad _ => hStays t e' hBad)
              (hBreak s e hInv hOk)
              (allowed_true step _ events)
          exact absurd hAfter (hNot _ hDamaged)
  · exact invariant_run Inv hStep hInv

/-
  A reflexive and transitive relation that every step from a
  good state respects relates the ends of a run.
-/
theorem relates_run
    {step : S → E → S}
    {ok : S → E → Prop}
    (Inv : S → Prop)
    (R : S → S → Prop)
    (hRefl : ∀ s, R s s)
    (hTrans : ∀ {s t u}, R s t → R t u → R s u)
    (hStep : ∀ s e, Inv s → ok s e → Inv (step s e))
    (hRelates : ∀ s e, Inv s → ok s e → R s (step s e))
    {s : S}
    {events : List E}
    (hInv : Inv s)
    (hAllowed : Allowed step ok s events) :
    R s (run step s events) := by
  have hBoth :=
    invariant_run (fun t => Inv t ∧ R s t)
      (fun t e hGood hOk =>
        ⟨hStep t e hGood.1 hOk,
          hTrans hGood.2 (hRelates t e hGood.1 hOk)⟩)
      ⟨hInv, hRefl s⟩ hAllowed
  exact hBoth.2

/-
  Every step respects a preorder exactly if any two states
  of the run are related in the order they are reached.
-/
theorem allowed_relates_iff
    {step : S → E → S}
    (R : S → S → Prop)
    (hRefl : ∀ s, R s s)
    (hTrans : ∀ {s t u}, R s t → R t u → R s u)
    {s : S}
    {events : List E} :
    Allowed step (fun t e => R t (step t e)) s events ↔
      ∀ earlier later, earlier ++ later <+: events →
        R (run step s earlier)
          (run step s (earlier ++ later)) := by
  constructor
  · rintro hAllowed earlier later ⟨rest, rfl⟩
    rw [List.append_assoc, allowed_append_iff,
      allowed_append_iff] at hAllowed
    rw [run_append]
    exact relates_run (fun _ => True) R hRefl hTrans
      (fun _ _ _ _ => trivial) (fun _ _ _ hStep => hStep)
      trivial hAllowed.2.1
  · intro hRelated
    induction events generalizing s with
    | nil => trivial
    | cons e events ih =>
        refine ⟨hRelated [] [e] ⟨events, rfl⟩, ih ?_⟩
        rintro earlier later ⟨rest, rfl⟩
        exact hRelated (e :: earlier) later ⟨rest, rfl⟩

end Run
