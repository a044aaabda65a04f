import EngenhoPromessa.Effect.Run
import Mathlib.Data.List.Pairwise

/-
  Steps that are tried again and again, each attempt from the
  first step on until one fails.

  A step has an effect on a part of the state. An attempt at
  it leaves that part as it was or applies the effect, and
  tells of success only with the effect in place. If effects
  can be applied twice without harm and later ones do not
  undo earlier ones, then any number of attempts has applied
  the effects of some first steps, each once and in order.

  Key definitions include:
    * `Retried.applied`
    * `Retried.NeverUndone`
    * `Retried.Attempts`

  Key theorems include:
    * `Retried.effect_applied`
    * `Retried.applied_of_attempts`
    * `Retried.applied_run`
-/

------------------------------------------------------------
-- Effects In Order
------------------------------------------------------------

namespace Retried

variable {ι V : Type}

/- The effects of some steps, one after another. -/
def applied
    (effect : ι → V → V)
    (steps : List ι)
    (v : V) : V :=
  steps.foldl (fun v step => effect step v) v

theorem applied_append
    (effect : ι → V → V)
    (first second : List ι)
    (v : V) :
    applied effect (first ++ second) v =
      applied effect second (applied effect first v) :=
  List.foldl_append

/-
  An effect that is in place is not had again, and the ones
  that come after it leave it in place.
-/
structure NeverUndone
    (effect : ι → V → V)
    (steps : List ι) : Prop where
  once :
    ∀ step ∈ steps, ∀ v,
      effect step (effect step v) = effect step v
  kept :
    steps.Pairwise (fun step later => ∀ v,
      effect step v = v →
        effect step (effect later v) = effect later v)

/- What no later step undoes is still in place at the end. -/
theorem effect_applied_of_pairwise
    {effect : ι → V → V}
    {step : ι}
    {steps : List ι}
    (hKept : ∀ later ∈ steps, ∀ v,
      effect step v = v →
        effect step (effect later v) = effect later v)
    {v : V}
    (hPlace : effect step v = v) :
    effect step (applied effect steps v) =
      applied effect steps v := by
  induction steps generalizing v with
  | nil => exact hPlace
  | cons later steps ih =>
      exact ih
        (fun step' hMem => hKept step'
          (List.mem_cons_of_mem _ hMem))
        (hKept later List.mem_cons_self v hPlace)

/- The effect of an earlier step is in place. -/
theorem effect_applied
    {effect : ι → V → V}
    {first : List ι}
    {step : ι}
    {second : List ι}
    (hNever :
      NeverUndone effect (first ++ step :: second))
    (v : V) :
    effect step (applied effect (first ++ step :: second) v) =
      applied effect (first ++ step :: second) v := by
  have hKept :=
    (List.pairwise_append.mp hNever.kept).2.1
  rw [applied_append]
  exact effect_applied_of_pairwise
    (List.pairwise_cons.mp hKept).1
    (hNever.once step (by simp) _)

end Retried

------------------------------------------------------------
-- Attempts
------------------------------------------------------------

namespace Retried

variable {ι V : Type}

/-
  One attempt at the steps: each applies its effect or not,
  and the attempt goes on behind a step only if that step
  succeeded with its effect in place. The last index tells
  whether all steps succeeded.
-/
inductive Attempts
    (effect : ι → V → V) :
    List ι → V → V → Bool → Prop where
  | finished (v : V) : Attempts effect [] v v true
  | failed
      {step : ι}
      {steps : List ι}
      {v v' : V}
      (hEffect : v' = v ∨ v' = effect step v) :
      Attempts effect (step :: steps) v v' false
  | succeeded
      {step : ι}
      {steps : List ι}
      {v v' : V}
      {all : Bool}
      (hRest :
        Attempts effect steps (effect step v) v' all) :
      Attempts effect (step :: steps) v v' all

/- A beginning of the steps is never undone either. -/
theorem NeverUndone.of_prefix
    {effect : ι → V → V}
    {first steps : List ι}
    (hNever : NeverUndone effect steps)
    (hPrefix : first <+: steps) :
    NeverUndone effect first where
  once step hMem := hNever.once step (hPrefix.subset hMem)
  kept := hNever.kept.sublist hPrefix.sublist

/- A prefix that is not empty starts as the list does. -/
theorem cons_of_prefix
    {step : ι}
    {more steps : List ι}
    (hPrefix : more <+: step :: steps) :
    more = [] ∨
      ∃ more', more = step :: more' ∧ more' <+: steps := by
  cases more with
  | nil => exact .inl rfl
  | cons step' more' =>
      rcases List.cons_prefix_cons.mp hPrefix with
        ⟨rfl, hRest⟩
      exact .inr ⟨more', rfl, hRest⟩

/- A step tried where some effects are in place already. -/
theorem effect_of_prefix
    {effect : ι → V → V}
    {first steps more : List ι}
    {step : ι}
    (hNever : NeverUndone effect (first ++ step :: steps))
    (hPrefix : more <+: step :: steps)
    (start : V) :
    ∃ more', more <+: step :: more' ∧ more' <+: steps ∧
      effect step (applied effect (first ++ more) start) =
        applied effect (first ++ step :: more') start := by
  rcases cons_of_prefix hPrefix with
    rfl | ⟨more', rfl, hRest⟩
  · refine ⟨[], List.nil_prefix, List.nil_prefix, ?_⟩
    rw [List.append_nil, applied_append]
    rfl
  · refine ⟨more', List.prefix_rfl, hRest, ?_⟩
    exact effect_applied
      (hNever.of_prefix
        ((List.prefix_append_right_inj first).mpr
          hPrefix)) start

/-
  An attempt that has the effects of some first steps in
  place leaves those of at least as many, and those of all
  if every step succeeded.
-/
theorem applied_of_attempts_from
    {effect : ι → V → V}
    (first : List ι)
    {rest : List ι}
    (hNever : NeverUndone effect (first ++ rest))
    {start v v' : V}
    {all : Bool}
    {more : List ι}
    (hPlace :
      v = applied effect (first ++ more) start)
    (hPrefix : more <+: rest)
    (hAttempts : Attempts effect rest v v' all) :
    ∃ more', more <+: more' ∧ more' <+: rest ∧
      v' = applied effect (first ++ more') start ∧
      (all = true → more' = rest) := by
  induction hAttempts generalizing first more with
  | finished v =>
      obtain rfl : more = [] := List.prefix_nil.mp hPrefix
      exact ⟨[], List.prefix_rfl, List.prefix_rfl, hPlace,
        fun _ => rfl⟩
  | @failed step steps v v' hEffect =>
      rcases hEffect with rfl | rfl
      · exact ⟨more, List.prefix_rfl, hPrefix, hPlace,
          by simp⟩
      · rcases effect_of_prefix hNever hPrefix start with
          ⟨more', hMore, hRest, hEffect⟩
        exact ⟨step :: more', hMore,
          List.cons_prefix_cons.mpr ⟨rfl, hRest⟩,
          by rw [hPlace, hEffect], by simp⟩
  | @succeeded step steps v v' all hRest ih =>
      rcases effect_of_prefix hNever hPrefix start with
        ⟨more', hMore, hPrefix', hEffect⟩
      have hSplit :
          ∀ tail, first ++ step :: tail =
            (first ++ [step]) ++ tail := by
        simp
      rw [hSplit] at hNever hEffect
      rcases ih _ hNever (by rw [hPlace, hEffect]) hPrefix'
        with ⟨last, hGrown, hLast, hAfter, hAll⟩
      refine ⟨step :: last,
        hMore.trans
          (List.cons_prefix_cons.mpr ⟨rfl, hGrown⟩),
        List.cons_prefix_cons.mpr ⟨rfl, hLast⟩, ?_, ?_⟩
      · rw [hSplit]
        exact hAfter
      · intro hTrue
        rw [hAll hTrue]

/-
  Another attempt only takes the effects further, in order,
  and to the end if it succeeds.
-/
theorem applied_of_attempts
    {effect : ι → V → V}
    {steps done : List ι}
    (hNever : NeverUndone effect steps)
    {start v : V}
    {all : Bool}
    (hPrefix : done <+: steps)
    (hAttempts :
      Attempts effect steps (applied effect done start) v
        all) :
    ∃ done', done <+: done' ∧ done' <+: steps ∧
      v = applied effect done' start ∧
      (all = true → done' = steps) :=
  applied_of_attempts_from [] hNever rfl hPrefix
    hAttempts

end Retried

------------------------------------------------------------
-- Attempts Over And Over
------------------------------------------------------------

namespace Retried

variable {ι σ E V : Type}

/-
  Attempt after attempt, whatever becomes of each: the
  effects in place are those of some first steps, of no fewer
  as time goes on, and of all once an attempt succeeded.
-/
theorem applied_run
    {effect : ι → V → V}
    {steps : List ι}
    (hNever : NeverUndone effect steps)
    (view : σ → V)
    {attempt : σ → E → σ}
    {succeeds : σ → E → Bool}
    (hAttempt : ∀ s e,
      Attempts effect steps (view s) (view (attempt s e))
        (succeeds s e))
    (s : σ)
    (events : List E) :
    ∃ done, done <+: steps ∧
      view (Run.run attempt s events) =
        applied effect done (view s) ∧
      (¬ Run.Allowed attempt (fun s e => succeeds s e = false)
          s events →
        done = steps) := by
  suffices hFrom :
      ∀ (start : V) (done : List ι),
        done <+: steps →
        view s = applied effect done start →
        ∃ done', done <+: done' ∧ done' <+: steps ∧
          view (Run.run attempt s events) =
            applied effect done' start ∧
          (¬ Run.Allowed attempt
              (fun s e => succeeds s e = false) s events →
            done' = steps) by
    rcases hFrom (view s) [] List.nil_prefix rfl with
      ⟨done, _, hPrefix, hView, hAll⟩
    exact ⟨done, hPrefix, hView, hAll⟩
  induction events generalizing s with
  | nil =>
      intro start done hPrefix hView
      exact ⟨done, List.prefix_rfl, hPrefix, hView,
        fun hNot => (hNot trivial).elim⟩
  | cons e events ih =>
      intro start done hPrefix hView
      have hHere := hAttempt s e
      rw [hView] at hHere
      rcases applied_of_attempts hNever hPrefix hHere with
        ⟨done₁, hMore, hPrefix₁, hView₁, hAll₁⟩
      rcases ih (attempt s e) start done₁ hPrefix₁ hView₁
        with ⟨done₂, hMore₂, hPrefix₂, hView₂, hAll₂⟩
      refine ⟨done₂, hMore.trans hMore₂, hPrefix₂, hView₂,
        fun hSome => ?_⟩
      cases hSucceeds : succeeds s e with
      | true =>
          obtain rfl := hAll₁ hSucceeds
          exact hPrefix₂.eq_of_length_le hMore₂.length_le
      | false =>
          exact hAll₂ (fun hRest =>
            hSome ⟨hSucceeds, hRest⟩)

end Retried
