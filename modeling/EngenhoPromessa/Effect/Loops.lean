import EngenhoPromessa.Effect.Fallible

/-
  A rule for loops that a failing step ends: what holds
  between two steps depends on the part of the list that is
  done, and a failing step leaves something else.

  Key definitions include:
    * `Fallible.Advances`
    * `Fallible.Ended`

  Key theorems include:
    * `Fallible.ended_forM`
    * `Fallible.ended_mapM`
-/

------------------------------------------------------------
-- Loops That A Step May End
------------------------------------------------------------

namespace Fallible

variable {σ ε α β : Type}
variable {At : List α → σ → Prop}
variable {StoppedAt : List α → α → σ → Prop}

/- A step takes a loop one place on, or ends it there. -/
def Advances
    (At : List α → σ → Prop)
    (StoppedAt : List α → α → σ → Prop)
    (f : α → Fallible σ ε β) : Prop :=
  ∀ done a s, At done s →
    match (f a).exec s with
    | (.ok _, s') => At (done ++ [a]) s'
    | (.error _, s') => StoppedAt done a s'

/-
  A loop over `as`, after `done`, has come to its end, or a
  step has ended it.
-/
def Ended
    (At : List α → σ → Prop)
    (StoppedAt : List α → α → σ → Prop)
    (done as : List α) : Except ε β × σ → Prop
| (.ok _, s) => At (done ++ as) s
| (.error _, s) =>
    ∃ before a after, as = before ++ a :: after ∧
      StoppedAt (done ++ before) a s

/- The first step of a loop, and then the rest of it. -/
theorem ended_bind
    {γ : Type}
    {f : α → Fallible σ ε β}
    (hStep : Advances At StoppedAt f)
    {rest : β → Fallible σ ε γ}
    {as : List α}
    (hRest :
      ∀ done b s, At done s →
        Ended At StoppedAt done as ((rest b).exec s))
    {done : List α}
    {s : σ}
    (a : α)
    (hAt : At done s) :
    Ended At StoppedAt done (a :: as)
      ((f a >>= rest).exec s) := by
  have hFirst := hStep done a s hAt
  rw [exec_bind]
  rcases hRun : (f a).exec s with ⟨e | b, s'⟩
  · rw [hRun] at hFirst
    refine ⟨[], a, as, rfl, ?_⟩
    rwa [List.append_nil]
  · rw [hRun] at hFirst
    have hTail := hRest (done ++ [a]) b s' hFirst
    simp only
    -- The rest has `a` done before it, and not in it.
    rcases hEnd : (rest b).exec s' with ⟨e | c, s''⟩
    · rw [hEnd] at hTail
      rcases hTail with ⟨before, a', after, rfl, hStopped⟩
      refine ⟨a :: before, a', after, rfl, ?_⟩
      rwa [List.append_cons]
    · rw [hEnd] at hTail
      show At (done ++ a :: as) s''
      rwa [List.append_cons]

/- A loop ends with the list done, or stopped at a place. -/
theorem ended_forM
    {f : α → Fallible σ ε PUnit}
    (hStep : Advances At StoppedAt f)
    (as : List α)
    {done : List α}
    {s : σ}
    (hAt : At done s) :
    Ended At StoppedAt done as ((as.forM f).exec s) := by
  induction as generalizing done s with
  | nil =>
      show At (done ++ []) s
      rwa [List.append_nil]
  | cons a as ih =>
      exact ended_bind hStep (fun _ _ _ h => ih h) a hAt

/- The same for a loop with results. -/
theorem ended_mapM
    {f : α → Fallible σ ε β}
    (hStep : Advances At StoppedAt f)
    (as : List α)
    {done : List α}
    {s : σ}
    (hAt : At done s) :
    Ended At StoppedAt done as ((as.mapM f).exec s) := by
  induction as generalizing done s with
  | nil =>
      rw [List.mapM_nil]
      show At (done ++ []) s
      rwa [List.append_nil]
  | cons a as ih =>
      rw [List.mapM_cons]
      refine ended_bind hStep (fun done b s hDone => ?_) a hAt
      rw [exec_bind_pure]
      have hTail := ih hDone
      rcases hEnd : (as.mapM f).exec s with ⟨e | bs, s'⟩
      · rwa [hEnd] at hTail
      · rwa [hEnd] at hTail

end Fallible
