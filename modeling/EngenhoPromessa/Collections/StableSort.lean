import Mathlib.Data.List.Sort

/-
  What a stable sort keeps, and what decides its result.

  Elements that tie stay in the order of the input. A sorted
  list is therefore decided by its classes of tied elements,
  each in its order.

  Key definitions include:
    * `StableSort.NotAfter`
    * `StableSort.Ties`

  Key theorems include:
    * `StableSort.tiesWith_insertionSort`
    * `StableSort.insertionSort_eq_of_classes`
    * `StableSort.insertionSort_eq_of_perm`
    * `StableSort.filter_eq_of_perm`
-/

------------------------------------------------------------
-- Classes Of Ties
------------------------------------------------------------

namespace StableSort

variable {α : Type}

/- `a` and `b` tie. -/
def Ties (r : α → α → Prop) (a b : α) : Prop :=
  r a b ∧ r b a

instance
    (r : α → α → Prop)
    [DecidableRel r]
    (a b : α) : Decidable (Ties r a b) :=
  inferInstanceAs (Decidable (r a b ∧ r b a))

/- The elements that tie with `a`, in order. -/
def tiesWith
    (r : α → α → Prop)
    [DecidableRel r]
    (a : α)
    (xs : List α) : List α :=
  xs.filter (fun b => Ties r a b)

variable {r : α → α → Prop} [DecidableRel r]

/- An element is inserted before those it ties with. -/
theorem tiesWith_orderedInsert
    [IsTrans α r]
    (a x : α)
    (xs : List α) :
    tiesWith r a (xs.orderedInsert r x) =
      tiesWith r a (x :: xs) := by
  induction xs with
  | nil => rfl
  | cons y ys ih =>
      by_cases hLe : r x y
      · rw [List.orderedInsert_cons, if_pos hLe]
      · rw [List.orderedInsert_cons, if_neg hLe]
        unfold tiesWith at ih ⊢
        by_cases hY : Ties r a y
        · -- an element that does not come before `y`
          -- does not tie with `a` either
          have hX : ¬ Ties r a x :=
            fun hX => hLe (IsTrans.trans _ _ _ hX.2 hY.1)
          simp [hY, hX, ih]
        · simp [hY, ih, List.filter_cons]

/- A sort leaves elements that tie in their order. -/
theorem tiesWith_insertionSort
    [IsTrans α r]
    (a : α)
    (xs : List α) :
    tiesWith r a (xs.insertionSort r) = tiesWith r a xs := by
  induction xs with
  | nil => rfl
  | cons x xs ih =>
      rw [List.insertionSort_cons, tiesWith_orderedInsert]
      unfold tiesWith at ih ⊢
      rw [List.filter_cons, List.filter_cons, ih]

end StableSort

------------------------------------------------------------
-- Sorted Lists
------------------------------------------------------------

namespace StableSort

variable {α : Type} {r : α → α → Prop} [DecidableRel r]

theorem mem_tiesWith_iff
    (a b : α)
    (xs : List α) :
    b ∈ tiesWith r a xs ↔ b ∈ xs ∧ Ties r a b := by
  simp [tiesWith]

omit [DecidableRel r] in
theorem ties_refl
    [Std.Total r]
    (a : α) : Ties r a a := by
  have hSelf : r a a := (Std.Total.total a a).elim id id
  exact ⟨hSelf, hSelf⟩

/- Lists with the same classes have the same elements. -/
theorem mem_of_classes
    [Std.Total r]
    {xs ys : List α}
    (hClasses : ∀ a, tiesWith r a xs = tiesWith r a ys)
    {a : α}
    (hMem : a ∈ xs) : a ∈ ys := by
  have hTied : a ∈ tiesWith r a xs :=
    (mem_tiesWith_iff a a xs).mpr ⟨hMem, ties_refl a⟩
  rw [hClasses a] at hTied
  exact ((mem_tiesWith_iff a a ys).mp hTied).1

/- The head of a sorted list comes before its elements. -/
omit [DecidableRel r] in
theorem head_le
    [Std.Total r]
    {x y : α}
    {xs : List α}
    (hSorted : (x :: xs).Pairwise r)
    (hMem : y ∈ x :: xs) : r x y := by
  rcases List.mem_cons.mp hMem with rfl | hTail
  · exact (ties_refl y).1
  · exact (List.pairwise_cons.mp hSorted).1 y hTail

/- Sorted lists with the same classes are the same. -/
theorem eq_of_classes
    [Std.Total r]
    {xs ys : List α}
    (hXs : xs.Pairwise r)
    (hYs : ys.Pairwise r)
    (hClasses : ∀ a, tiesWith r a xs = tiesWith r a ys) :
    xs = ys := by
  induction xs generalizing ys with
  | nil =>
      refine (List.eq_nil_iff_forall_not_mem.mpr ?_).symm
      intro y hMem
      have hNone :=
        mem_of_classes (fun a => (hClasses a).symm) hMem
      simp at hNone
  | cons x xs ih =>
      have hMemX : x ∈ ys :=
        mem_of_classes hClasses List.mem_cons_self
      cases ys with
      | nil => simp at hMemX
      | cons y ys =>
          have hMemY : y ∈ x :: xs :=
            mem_of_classes (fun a => (hClasses a).symm)
              List.mem_cons_self
          -- the heads tie, so they head one class
          have hTieX : Ties r x x := ties_refl x
          have hTieY : Ties r x y :=
            ⟨head_le hXs hMemY, head_le hYs hMemX⟩
          have hHeads := hClasses x
          simp only [tiesWith, List.filter_cons,
            decide_eq_true hTieX, decide_eq_true hTieY,
            if_true, List.cons.injEq] at hHeads
          obtain rfl := hHeads.1
          refine congrArg (x :: ·)
            (ih hXs.of_cons hYs.of_cons ?_)
          intro a
          have hClass := hClasses a
          simp only [tiesWith, List.filter_cons] at hClass ⊢
          split at hClass
          · exact (List.cons.inj hClass).2
          · exact hClass

/- Equal classes of ties give one sorted list. -/
theorem insertionSort_eq_of_classes
    [Std.Total r]
    [IsTrans α r]
    {xs ys : List α}
    (hClasses : ∀ a, tiesWith r a xs = tiesWith r a ys) :
    xs.insertionSort r = ys.insertionSort r := by
  refine eq_of_classes (List.pairwise_insertionSort r xs)
    (List.pairwise_insertionSort r ys) (fun a => ?_)
  rw [tiesWith_insertionSort, tiesWith_insertionSort,
    hClasses a]

end StableSort

------------------------------------------------------------
-- Sorting By A Comparison
------------------------------------------------------------

namespace StableSort

variable {α : Type} {cmp : α → α → Ordering}

/- `a` may stand before `b`. -/
def NotAfter (cmp : α → α → Ordering) (a b : α) : Prop :=
  cmp a b ≠ .gt

instance (a b : α) : Decidable (NotAfter cmp a b) :=
  inferInstanceAs (Decidable (cmp a b ≠ .gt))

theorem notAfter_iff_isLE {a b : α} :
    NotAfter cmp a b ↔ (cmp a b).isLE = true :=
  Ordering.ne_gt_iff_isLE

variable [Std.TransCmp cmp]

instance : Std.Total (NotAfter cmp) where
  total a b := by
    rw [NotAfter, NotAfter,
      @Std.OrientedCmp.eq_swap _ cmp _ a b]
    cases cmp b a <;> simp

instance : IsTrans α (NotAfter cmp) where
  trans a b c hAb hBc := by
    rw [notAfter_iff_isLE] at hAb hBc ⊢
    exact Std.TransCmp.isLE_trans hAb hBc

theorem eq_of_ties
    {a b : α}
    (hTies : Ties (NotAfter cmp) a b) :
    cmp a b = .eq := by
  have hLe := notAfter_iff_isLE.mp hTies.1
  have hGe := notAfter_iff_isLE.mp hTies.2
  exact Std.OrientedCmp.isLE_antisymm hLe hGe

/- If only equal elements tie, the order does not show. -/
theorem insertionSort_eq_of_perm
    {xs ys : List α}
    (hTies :
      ∀ a ∈ xs, ∀ b ∈ xs, cmp a b = .eq → a = b)
    (hPerm : xs.Perm ys) :
    xs.insertionSort (NotAfter cmp) =
      ys.insertionSort (NotAfter cmp) := by
  have hXs := List.perm_insertionSort (NotAfter cmp) xs
  have hYs := List.perm_insertionSort (NotAfter cmp) ys
  refine List.Perm.eq_of_pairwise ?_
    (List.pairwise_insertionSort _ xs)
    (List.pairwise_insertionSort _ ys)
    (hXs.trans (hPerm.trans hYs.symm))
  intro a b hA hB hLe hGe
  exact hTies a (hXs.mem_iff.mp hA) b
    (hPerm.mem_iff.mpr (hYs.mem_iff.mp hB))
    (eq_of_ties ⟨hLe, hGe⟩)

end StableSort

------------------------------------------------------------
-- Permutations With Distinct Keys
------------------------------------------------------------

namespace StableSort

variable {α κ : Type} [DecidableEq κ]

/-
  With distinct keys at most one element has a given key, so
  selecting by key does not see the order.
-/
theorem filter_eq_of_perm
    {key : α → κ}
    {xs ys : List α}
    (hDistinct : (xs.map key).Nodup)
    (hPerm : xs.Perm ys)
    (k : κ) :
    xs.filter (fun x => key x = k) =
      ys.filter (fun x => key x = k) := by
  refine @List.Perm.eq_of_pairwise _
    (fun x y => key x ≠ key y) _ _ ?_ ?_ ?_
    (hPerm.filter _)
  · intro x y hX hY hNe
    have hKeyX := of_decide_eq_true (List.mem_filter.mp hX).2
    have hKeyY := of_decide_eq_true (List.mem_filter.mp hY).2
    exact absurd (hKeyX.trans hKeyY.symm) hNe
  · exact (List.pairwise_map.mp hDistinct).filter _
  · have hDistinct' : (ys.map key).Nodup :=
      ((hPerm.map key).nodup_iff).mp hDistinct
    exact (List.pairwise_map.mp hDistinct').filter _

end StableSort
