import Mathlib.Data.List.Basic

/-
  Lists cut at an occurrence of an element, and what two cuts
  of one list have to do with each other.

  Key theorems include:
    * `Cuts.append_cons_eq_iff`
    * `Cuts.eq_of_not_mem`
    * `Cuts.eq_of_count_le`
-/

------------------------------------------------------------
-- Two Cuts Of One List
------------------------------------------------------------

namespace Cuts

variable {α : Type}

/- One list cut twice: in one place, or one cut is later. -/
theorem append_cons_eq_iff
    (c : α)
    {x y x' y' : List α} :
    x ++ c :: y = x' ++ c :: y' ↔
      (x = x' ∧ y = y') ∨
        (∃ z, x' = x ++ c :: z ∧ y = z ++ c :: y') ∨
        (∃ z, x = x' ++ c :: z ∧ y' = z ++ c :: y) := by
  constructor
  · intro hSame
    rcases List.append_eq_append_iff.mp hSame with
      ⟨z, rfl, hRest⟩ | ⟨z, rfl, hRest⟩
    · cases z with
      | nil =>
          refine .inl ⟨(List.append_nil x).symm, ?_⟩
          exact (List.cons.inj hRest).2
      | cons d z =>
          rcases List.cons.inj hRest with ⟨rfl, rfl⟩
          exact .inr (.inl ⟨z, rfl, rfl⟩)
    · cases z with
      | nil =>
          refine .inl ⟨List.append_nil x', ?_⟩
          exact (List.cons.inj hRest).2.symm
      | cons d z =>
          rcases List.cons.inj hRest with ⟨rfl, rfl⟩
          exact .inr (.inr ⟨z, rfl, rfl⟩)
  · rintro (⟨rfl, rfl⟩ | ⟨z, rfl, rfl⟩ | ⟨z, rfl, rfl⟩)
    · rfl
    · simp
    · simp

/- Cuts at the first occurrence are one cut. -/
theorem eq_of_not_mem
    {c : α}
    {x y x' y' : List α}
    (hLeft : c ∉ x)
    (hLeft' : c ∉ x')
    (hSame : x ++ c :: y = x' ++ c :: y') :
    x = x' ∧ y = y' := by
  rcases (append_cons_eq_iff c).mp hSame with
    hCut | ⟨z, rfl, -⟩ | ⟨z, rfl, -⟩
  · exact hCut
  · simp at hLeft'
  · simp at hLeft

variable [DecidableEq α]

/-
  The later cut has more of the element before it and less
  behind it.
-/
theorem eq_of_count_le
    {c : α}
    {x y x' y' : List α}
    (hBefore : x.count c ≤ x'.count c)
    (hBehind : y.count c ≤ y'.count c)
    (hSame : x ++ c :: y = x' ++ c :: y') :
    x = x' ∧ y = y' := by
  rcases (append_cons_eq_iff c).mp hSame with
    hCut | ⟨z, rfl, rfl⟩ | ⟨z, rfl, rfl⟩
  · exact hCut
  · simp only [List.count_append, List.count_cons_self]
      at hBehind
    omega
  · simp only [List.count_append, List.count_cons_self]
      at hBefore
    omega

end Cuts
