import Mathlib.Data.List.Basic
import Mathlib.Data.List.Forall2

/-
  Two lists that are the same but for one stretch, which one
  of them has replaced.

  Where lists are put together from lists, replacing a part
  of a part replaces a part of the whole.

  Key definitions include:
    * `Replaced`

  Key theorems include:
    * `Replaced.trans`
    * `Replaced.flatMap`
    * `Replaced.forall₂_iff`
-/

------------------------------------------------------------
-- Replaced Stretches
------------------------------------------------------------

/- `ys` is `xs` with a stretch `x` of it replaced by `y`. -/
def Replaced {α : Type} (x y xs ys : List α) : Prop :=
  ∃ pre post, xs = pre ++ x ++ post ∧ ys = pre ++ y ++ post

namespace Replaced

variable {α β : Type}

theorem singleton
    (pre post : List α)
    (a b : α) :
    Replaced [a] [b] (pre ++ a :: post) (pre ++ b :: post) :=
  ⟨pre, post, by simp, by simp⟩

/- A replacement inside of what is itself replaced. -/
theorem trans
    {x y xs ys zs ws : List α}
    (hInner : Replaced x y xs ys)
    (hOuter : Replaced xs ys zs ws) :
    Replaced x y zs ws := by
  rcases hInner with ⟨pre, post, rfl, rfl⟩
  rcases hOuter with ⟨pre', post', rfl, rfl⟩
  exact ⟨pre' ++ pre, post ++ post', by simp, by simp⟩

/- What each element leads to is replaced with it. -/
theorem flatMap
    (g : α → List β)
    {x y xs ys : List α}
    (hReplaced : Replaced x y xs ys) :
    Replaced (x.flatMap g) (y.flatMap g) (xs.flatMap g)
      (ys.flatMap g) := by
  rcases hReplaced with ⟨pre, post, rfl, rfl⟩
  exact ⟨pre.flatMap g, post.flatMap g, by simp, by simp⟩

/- The images of what is replaced are replaced. -/
theorem map
    (g : α → β)
    {x y xs ys : List α}
    (hReplaced : Replaced x y xs ys) :
    Replaced (x.map g) (y.map g) (xs.map g) (ys.map g) := by
  rcases hReplaced with ⟨pre, post, rfl, rfl⟩
  exact ⟨pre.map g, post.map g, by simp, by simp⟩

/- Elements that lead to nothing do not matter. -/
theorem filterMap
    (g : α → Option β)
    {x y xs ys : List α}
    (hReplaced : Replaced x y xs ys) :
    Replaced (x.filterMap g) (y.filterMap g)
      (xs.filterMap g) (ys.filterMap g) := by
  rcases hReplaced with ⟨pre, post, rfl, rfl⟩
  exact ⟨pre.filterMap g, post.filterMap g,
    by simp, by simp⟩

/- Compared in order, only what is replaced counts. -/
theorem forall₂_iff
    {R : α → α → Prop}
    (hRefl : ∀ a, R a a)
    {a b : α}
    {xs ys : List α}
    (hReplaced : Replaced [a] [b] xs ys) :
    List.Forall₂ R xs ys ↔ R a b := by
  rcases hReplaced with ⟨pre, post, rfl, rfl⟩
  induction pre with
  | nil => simp [hRefl]
  | cons c pre ih =>
      rw [← ih]
      simp [hRefl c]

end Replaced
