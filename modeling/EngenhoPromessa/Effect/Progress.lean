import EngenhoPromessa.Effect.Fallible
import EngenhoPromessa.Effect.Run

/-
  Progress: computations that are sure to succeed, and runs
  that are sure to arrive.

  `Achieves` is total: from every state of a kind the
  computation ends without an error. A run arrives if no
  step of it leads further away, and enough of its steps
  lead closer, whatever happens in between.

  Key definitions include:
    * `Fallible.Achieves`
    * `Run.AtLeast`

  Key theorems include:
    * `Fallible.achieves_bind`
    * `Fallible.achieves_mapM`
    * `Run.exists_good_of_atLeast`
    * `Run.rank_run_le`
-/

------------------------------------------------------------
-- Computations That Succeed
------------------------------------------------------------

namespace Fallible

variable {σ ε α β : Type}

/- From every state with `P` it ends well, and with `Q`. -/
def Achieves
    (P : σ → Prop)
    (x : Fallible σ ε α)
    (Q : α → σ → Prop) : Prop :=
  ∀ s, P s → ∃ a s', x.exec s = (.ok a, s') ∧ Q a s'

theorem achieves_pure
    {P : σ → Prop}
    {Q : α → σ → Prop}
    {a : α}
    (hPost : ∀ s, P s → Q a s) :
    Achieves P (pure a : Fallible σ ε α) Q :=
  fun s hs => ⟨a, s, rfl, hPost s hs⟩

/- The first part achieves what the second one needs. -/
theorem achieves_bind
    {P : σ → Prop}
    {Q : α → σ → Prop}
    {R : β → σ → Prop}
    {x : Fallible σ ε α}
    {f : α → Fallible σ ε β}
    (hx : Achieves P x Q)
    (hf : ∀ a, Achieves (Q a) (f a) R) :
    Achieves P (x >>= f) R := by
  intro s hs
  rcases hx s hs with ⟨a, s', hFirst, hMid⟩
  rcases hf a s' hMid with ⟨b, s'', hRest, hPost⟩
  refine ⟨b, s'', ?_, hPost⟩
  rw [exec_bind_ok hFirst]
  exact hRest

/- A default in place of an error hides it. -/
theorem achieves_unwrapOr
    {P P' : σ → Prop}
    {x : Fallible σ ε α}
    (hx : ∀ s, P s → P' (x.exec s).2)
    (a : α) :
    Achieves P (unwrapOr a x) (fun _ s => P' s) := by
  intro s hs
  refine ⟨_, _, exec_unwrapOr a x s, ?_⟩
  exact hx s hs

/- A loop achieves its invariant if every round does. -/
theorem achieves_mapM
    {P : σ → Prop}
    {f : α → Fallible σ ε β}
    (hf : ∀ a, Achieves P (f a) (fun _ => P))
    (as : List α) :
    Achieves P (as.mapM f) (fun _ => P) := by
  induction as with
  | nil =>
      rw [List.mapM_nil]
      exact achieves_pure (fun _ hs => hs)
  | cons a as ih =>
      rw [List.mapM_cons]
      refine achieves_bind (hf a) (fun b => ?_)
      refine achieves_bind ih (fun bs => ?_)
      exact achieves_pure (fun _ hs => hs)

end Fallible

------------------------------------------------------------
-- Runs That Arrive
------------------------------------------------------------

namespace Run

variable {S E : Type}

/- At least `n` of the steps of a run are good ones. -/
inductive AtLeast
    (step : S → E → S)
    (good : S → E → Prop) :
    Nat → S → List E → Prop where
  | enough (s : S) (events : List E) :
      AtLeast step good 0 s events
  | good
      {n : Nat}
      {s : S}
      {e : E}
      {events : List E}
      (hGood : good s e)
      (hRest : AtLeast step good n (step s e) events) :
      AtLeast step good (n + 1) s (e :: events)
  | other
      {n : Nat}
      {s : S}
      {e : E}
      {events : List E}
      (hRest : AtLeast step good n (step s e) events) :
      AtLeast step good n s (e :: events)

/- A good step more than needed does no harm. -/
theorem atLeast_of_succ
    {step : S → E → S}
    {good : S → E → Prop}
    {n : Nat}
    {s : S}
    {events : List E}
    (hMore : AtLeast step good (n + 1) s events) :
    AtLeast step good n s events := by
  generalize hCount : n + 1 = count at hMore
  induction hMore with
  | enough s events => cases hCount
  | good hGood hRest ih =>
      cases hCount
      exact .other hRest
  | other hRest ih => exact .other (ih hCount)

/- A good step is counted where it first can be. -/
theorem atLeast_cons_iff
    {step : S → E → S}
    {good : S → E → Prop}
    {n : Nat}
    {s : S}
    {e : E}
    {events : List E} :
    AtLeast step good (n + 1) s (e :: events) ↔
      good s e ∧ AtLeast step good n (step s e) events ∨
        ¬ good s e ∧
          AtLeast step good (n + 1) (step s e) events := by
  constructor
  · intro hEnough
    by_cases hHere : good s e
    · refine .inl ⟨hHere, ?_⟩
      cases hEnough with
      | good hGood hRest => exact hRest
      | other hRest => exact atLeast_of_succ hRest
    · refine .inr ⟨hHere, ?_⟩
      cases hEnough with
      | good hGood hRest => exact absurd hGood hHere
      | other hRest => exact hRest
  · rintro (⟨hHere, hRest⟩ | ⟨_, hRest⟩)
    · exact .good hHere hRest
    · exact .other hRest

instance decidableAtLeast
    {step : S → E → S}
    {good : S → E → Prop}
    [∀ s e, Decidable (good s e)] :
    (n : Nat) → (s : S) → (events : List E) →
      Decidable (AtLeast step good n s events)
| 0, s, events => .isTrue (.enough s events)
| _ + 1, _, [] => .isFalse nofun
| n + 1, s, e :: events =>
    haveI : Decidable
        (AtLeast step good n (step s e) events) :=
      decidableAtLeast n (step s e) events
    haveI : Decidable
        (AtLeast step good (n + 1) (step s e) events) :=
      decidableAtLeast (n + 1) (step s e) events
    decidable_of_iff _ atLeast_cons_iff.symm

/- When every step is good there are as many as steps. -/
theorem atLeast_of_allowed
    {step : S → E → S}
    {good : S → E → Prop}
    {s : S}
    {events : List E}
    (hAll : Allowed step good s events) :
    AtLeast step good events.length s events := by
  induction events generalizing s with
  | nil => exact .enough s []
  | cons e events ih => exact .good hAll.1 (ih hAll.2)

/- A run with a good step can be cut there. -/
theorem exists_good_of_atLeast
    {step : S → E → S}
    {good : S → E → Prop}
    {n : Nat}
    {s : S}
    {events : List E}
    (hEnough : AtLeast step good (n + 1) s events) :
    ∃ before e after, events = before ++ e :: after ∧
      good (run step s before) e := by
  generalize hCount : n + 1 = count at hEnough
  induction hEnough with
  | enough s events => cases hCount
  | @good n' s e events hGood hRest ih =>
      exact ⟨[], e, events, rfl, hGood⟩
  | @other n' s e events hRest ih =>
      rcases ih hCount with ⟨before, e', after, rfl, hGood⟩
      exact ⟨e :: before, e', after, rfl, hGood⟩

/- Rounds of events, one after the other. -/
theorem run_flatten
    (step : S → E → S)
    (s : S)
    (rounds : List (List E)) :
    run (run step) s rounds = run step s rounds.flatten :=
  List.foldl_flatten.symm

/- Rounds are allowed when their steps are, one by one. -/
theorem allowed_flatten_iff
    {step : S → E → S}
    {ok : S → E → Prop}
    {s : S}
    {rounds : List (List E)} :
    Allowed (run step) (Allowed step ok) s rounds ↔
      Allowed step ok s rounds.flatten := by
  induction rounds generalizing s with
  | nil => rfl
  | cons events rounds ih =>
      rw [List.flatten_cons, allowed_append_iff, ← ih]
      rfl

/-
  No allowed step raises the rank and each good one lowers
  it, so it has come down by as many as there were.
-/
theorem rank_run_le
    {step : S → E → S}
    {ok good : S → E → Prop}
    (Inv : S → Prop)
    (rank : S → Nat)
    (hStep : ∀ s e, Inv s → ok s e →
      Inv (step s e) ∧ rank (step s e) ≤ rank s)
    (hGood : ∀ s e, Inv s → ok s e → good s e →
      rank (step s e) ≤ rank s - 1)
    {n : Nat}
    {s : S}
    {events : List E}
    (hInv : Inv s)
    (hAllowed : Allowed step ok s events)
    (hEnough : AtLeast step good n s events) :
    rank (run step s events) ≤ rank s - n := by
  induction hEnough with
  | enough s events =>
      have hRelated :=
        relates_run Inv (fun s t => rank t ≤ rank s)
          (fun s => le_rfl) (fun h h' => h'.trans h)
          (fun s e hs hOk => (hStep s e hs hOk).1)
          (fun s e hs hOk => (hStep s e hs hOk).2)
          hInv hAllowed
      exact hRelated
  | @good n s e events hHere hRest ih =>
      have hAfter :=
        ih (hStep s e hInv hAllowed.1).1 hAllowed.2
      have hLower := hGood s e hInv hAllowed.1 hHere
      rw [run_cons]
      omega
  | @other n s e events hRest ih =>
      have hBefore := hStep s e hInv hAllowed.1
      have hAfter := ih hBefore.1 hAllowed.2
      rw [run_cons]
      omega

end Run
