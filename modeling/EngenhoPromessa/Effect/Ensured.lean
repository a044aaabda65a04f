import EngenhoPromessa.Effect.Fallible
import Mathlib.Data.List.Forall2

/-
  Loops that see to it that something is there: each step
  looks for what belongs to its element and makes it if it
  is missing. A step may fail before or after it takes
  effect, and a failed loop is started again.

  Whatever fails, the loop makes what is missing in order up
  to some point, and all of it if it ends well; so over any
  number of starts nothing is made twice.

  Key definitions include:
    * `Fallible.Ensured`
    * `Fallible.Distinguishes`
    * `Fallible.EnsuredAll`

  Key theorems include:
    * `Fallible.exec_mapM_ensured`
    * `Fallible.filter_missing_eq`
    * `Fallible.exists_filter_eq_singleton`
-/

------------------------------------------------------------
-- One Element
------------------------------------------------------------

namespace Fallible

variable {σ ε α β γ : Type}

/-
  The ways a step for `a` can end: it fails early, it finds
  what belongs to `a`, or it makes it, and may fail then.
-/
inductive Ensured
    (view : σ → List γ)
    (isFor : α → γ → Bool)
    (Builds : α → γ → Prop)
    (answer : α → β)
    (a : α)
    (s : σ) : Except ε β × σ → Prop where
  | failed
      {e : ε}
      {s' : σ}
      (hView : view s' = view s) :
      Ensured view isFor Builds answer a s (.error e, s')
  | found
      {s' : σ}
      (hFound : (view s).any (isFor a) = true)
      (hView : view s' = view s) :
      Ensured view isFor Builds answer a s
        (.ok (answer a), s')
  | made
      {r : Except ε β}
      {s' : σ}
      {c : γ}
      (hMissing : (view s).any (isFor a) = false)
      (hBuilds : Builds a c)
      (hView : view s' = view s ++ [c])
      (hAnswer : ∀ b, r = .ok b → b = answer a) :
      Ensured view isFor Builds answer a s (r, s')

end Fallible

------------------------------------------------------------
-- A Loop
------------------------------------------------------------

namespace Fallible

variable {σ ε α β γ : Type}

/- What is built for an element belongs to it alone. -/
def Distinguishes
    (isFor : α → γ → Bool)
    (Builds : α → γ → Prop) : Prop :=
  ∀ a b c, Builds a c → (isFor b c = true ↔ b = a)

/- What a loop over a list from `s` may come to. -/
structure EnsuredAll
    (view : σ → List γ)
    (isFor : α → γ → Bool)
    (Builds : α → γ → Prop)
    (answer : α → β)
    (as : List α)
    (s : σ)
    (run : Except ε (List β) × σ)
    (new : List α)
    (cs : List γ) : Prop where
  built : List.Forall₂ Builds new cs
  view_eq : view run.2 = view s ++ cs
  first : new <+: as.filter (fun a => !(view s).any (isFor a))
  complete :
    ∀ bs, run.1 = .ok bs →
      new = as.filter (fun a => !(view s).any (isFor a)) ∧
        bs = as.map answer

variable {view : σ → List γ}
variable {isFor : α → γ → Bool}
variable {Builds : α → γ → Prop}
variable {answer : α → β}

/- What is built for one element is missed by no other. -/
theorem filter_missing_append
    (hFor : Distinguishes isFor Builds)
    {a : α}
    {c : γ}
    (hBuilds : Builds a c)
    {as : List α}
    (hNot : a ∉ as)
    (l : List γ) :
    as.filter (fun b => !(l ++ [c]).any (isFor b)) =
      as.filter (fun b => !l.any (isFor b)) := by
  refine List.filter_congr fun b hb => ?_
  have hOther : isFor b c = false := by
    rw [Bool.eq_false_iff, Ne, hFor a b c hBuilds]
    rintro rfl
    exact hNot hb
  simp [hOther]

/- What is found is passed over. -/
theorem EnsuredAll.cons_found
    {a : α}
    {as : List α}
    {s s' : σ}
    (hFound : (view s).any (isFor a) = true)
    (hView : view s' = view s)
    {run : Except ε (List β) × σ}
    {new : List α}
    {cs : List γ}
    (hTail :
      EnsuredAll view isFor Builds answer as s' run new cs) :
    EnsuredAll view isFor Builds answer (a :: as) s
      (run.1.map (answer a :: ·), run.2) new cs := by
  rcases hTail with ⟨hBuilt, hAfter, hFirst, hComplete⟩
  rw [hView] at hAfter hFirst hComplete
  have hFilter :
      (a :: as).filter (fun a => !(view s).any (isFor a)) =
        as.filter (fun a => !(view s).any (isFor a)) :=
    List.filter_cons_of_neg (by simp [hFound])
  refine ⟨hBuilt, hAfter, by rwa [hFilter], ?_⟩
  intro bs hOk
  rw [hFilter]
  rcases run with ⟨e | bs', s''⟩
  · simp [Except.map] at hOk
  · rcases hComplete bs' rfl with ⟨hNew, rfl⟩
    exact ⟨hNew, (Except.ok.inj hOk).symm⟩

/- What is made comes before what the rest makes. -/
theorem EnsuredAll.cons_made
    (hFor : Distinguishes isFor Builds)
    {a : α}
    {as : List α}
    (hNot : a ∉ as)
    {s s' : σ}
    {c : γ}
    (hMissing : (view s).any (isFor a) = false)
    (hBuilds : Builds a c)
    (hView : view s' = view s ++ [c])
    {run : Except ε (List β) × σ}
    {new : List α}
    {cs : List γ}
    (hTail :
      EnsuredAll view isFor Builds answer as s' run new cs) :
    EnsuredAll view isFor Builds answer (a :: as) s
      (run.1.map (answer a :: ·), run.2)
      (a :: new) (c :: cs) := by
  rcases hTail with ⟨hBuilt, hAfter, hFirst, hComplete⟩
  rw [hView] at hAfter hFirst hComplete
  rw [filter_missing_append hFor hBuilds hNot]
    at hFirst hComplete
  have hFilter :
      (a :: as).filter (fun a => !(view s).any (isFor a)) =
        a :: as.filter (fun a => !(view s).any (isFor a)) :=
    List.filter_cons_of_pos (by simp [hMissing])
  refine ⟨.cons hBuilds hBuilt, by simpa using hAfter, ?_,
    ?_⟩
  · rw [hFilter]
    exact List.cons_prefix_cons.mpr ⟨rfl, hFirst⟩
  · intro bs hOk
    rw [hFilter]
    rcases run with ⟨e | bs', s''⟩
    · simp [Except.map] at hOk
    · rcases hComplete bs' rfl with ⟨hNew, rfl⟩
      exact ⟨by rw [hNew], (Except.ok.inj hOk).symm⟩

/-
  From any state a loop makes a first part of what is
  missing, and all of it if it succeeds.
-/
theorem exec_mapM_ensured
    (hFor : Distinguishes isFor Builds)
    {f : α → Fallible σ ε β}
    (hStep :
      ∀ a s, Ensured view isFor Builds answer a s
        ((f a).exec s))
    {as : List α}
    (hNodup : as.Nodup)
    (s : σ) :
    ∃ new cs,
      EnsuredAll view isFor Builds answer as s
        ((as.mapM f).exec s) new cs := by
  induction as generalizing s with
  | nil =>
      refine ⟨[], [], .nil, by simp, by simp, ?_⟩
      intro bs hOk
      rw [List.mapM_nil, exec_pure] at hOk
      exact ⟨rfl, (Except.ok.inj hOk).symm⟩
  | cons a as ih =>
      rcases List.nodup_cons.mp hNodup with ⟨hNot, hRest⟩
      have hOne := hStep a s
      rw [List.mapM_cons, exec_bind]
      generalize (f a).exec s = first at hOne ⊢
      cases hOne with
      | failed hView =>
          refine ⟨[], [], .nil, by simpa using hView,
            List.nil_prefix, ?_⟩
          intro bs hOk
          simp at hOk
      | @found s' hFound hView =>
          rcases ih hRest s' with ⟨new, cs, hTail⟩
          dsimp only
          rw [exec_bind_pure]
          exact ⟨new, cs, hTail.cons_found hFound hView⟩
      | @made r s' c hMissing hBuilds hView hAnswer =>
          rcases r with e | b
          · -- Its answer was lost: the loop ends here.
            refine ⟨[a], [c], .cons hBuilds .nil, hView, ?_,
              ?_⟩
            · rw [List.filter_cons_of_pos
                (by simp [hMissing])]
              exact ⟨_, rfl⟩
            · intro bs hOk
              simp at hOk
          · obtain rfl := hAnswer b rfl
            rcases ih hRest s' with ⟨new, cs, hTail⟩
            dsimp only
            rw [exec_bind_pure]
            exact ⟨a :: new, c :: cs,
              hTail.cons_made hFor hNot hMissing hBuilds
                hView⟩

end Fallible

------------------------------------------------------------
-- Starting Again
------------------------------------------------------------

namespace Fallible

variable {α γ : Type}
variable {isFor : α → γ → Bool}
variable {Builds : α → γ → Prop}

/- What has been built covers exactly what was done. -/
theorem any_of_forall₂
    (hFor : Distinguishes isFor Builds)
    {done : List α}
    {cs : List γ}
    (hBuilt : List.Forall₂ Builds done cs)
    (a : α) :
    cs.any (isFor a) = true ↔ a ∈ done := by
  induction hBuilt with
  | nil => simp
  | @cons b c done cs hOne hRest ih =>
      rw [List.any_cons, Bool.or_eq_true, ih,
        hFor b a c hOne, List.mem_cons]

/- What is missing is what follows what is done. -/
theorem filter_missing_eq
    {done rest : List α}
    {l : List γ}
    (hNodup : (done ++ rest).Nodup)
    (hDone :
      ∀ a ∈ done ++ rest,
        (l.any (isFor a) = true ↔ a ∈ done)) :
    (done ++ rest).filter (fun a => !l.any (isFor a)) =
      rest := by
  have hHas :
      done.filter (fun a => !l.any (isFor a)) = [] := by
    rw [List.filter_eq_nil_iff]
    intro a ha
    simp [(hDone a (List.mem_append_left _ ha)).mpr ha]
  have hMisses :
      rest.filter (fun a => !l.any (isFor a)) = rest := by
    rw [List.filter_eq_self]
    intro a ha
    have hNot : a ∉ done := fun hMem =>
      (List.nodup_append.mp hNodup).2.2 a hMem a ha rfl
    rw [← hDone a (List.mem_append_right _ ha)] at hNot
    simpa using hNot
  rw [List.filter_append, hHas, hMisses, List.nil_append]

/- Exactly one thing belongs to each element. -/
theorem exists_filter_eq_singleton
    (hFor : Distinguishes isFor Builds)
    {done : List α}
    {cs : List γ}
    (hNodup : done.Nodup)
    (hBuilt : List.Forall₂ Builds done cs)
    {a : α}
    (hMem : a ∈ done) :
    ∃ c, cs.filter (isFor a) = [c] ∧ Builds a c := by
  induction hBuilt with
  | nil => simp at hMem
  | @cons b c done cs hOne hRest ih =>
      rcases List.nodup_cons.mp hNodup with ⟨hNot, hNodup'⟩
      rcases List.mem_cons.mp hMem with rfl | hMem'
      · have hNone : cs.filter (isFor a) = [] := by
          rw [List.filter_eq_nil_iff]
          intro d hd hOwn
          exact hNot ((any_of_forall₂ hFor hRest a).mp
            (List.any_eq_true.mpr ⟨d, hd, hOwn⟩))
        refine ⟨c, ?_, hOne⟩
        rw [List.filter_cons_of_pos
          ((hFor a a c hOne).mpr rfl), hNone]
      · have hOther : ¬ isFor a c = true := by
          rw [hFor b a c hOne]
          rintro rfl
          exact hNot hMem'
        rw [List.filter_cons_of_neg hOther]
        exact ih hNodup' hMem'

end Fallible
