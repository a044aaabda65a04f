import Mathlib.Data.List.Basic
import Mathlib.Data.List.Infix

/-
  Where a pattern occurs in texts that are put together: in
  one of the parts, or across the line between two of them.

  Key definitions include:
    * `Straddles`
    * `Straddles.ApartBefore`
    * `Straddles.ApartAfter`

  Key theorems include:
    * `Straddles.infix_around_iff`
    * `Straddles.not_of_apartBefore`
    * `Straddles.not_of_apartAfter`
-/

------------------------------------------------------------
-- Patterns Across A Line
------------------------------------------------------------

variable {α : Type}

/- The pattern begins where `x` ends and ends in `y`. -/
def Straddles (p x y : List α) : Prop :=
  ∃ k < p.length, 0 < k ∧ p.take k <:+ x ∧ p.drop k <+: y

namespace Straddles

instance [DecidableEq α] (p x y : List α) :
    Decidable (Straddles p x y) :=
  inferInstanceAs (Decidable (∃ k < p.length, _))

/- More text on either side does not end a straddling. -/
theorem mono
    {p x y x' y' : List α}
    (hStraddles : Straddles p x y)
    (hLeft : x <:+ x')
    (hRight : y <+: y') :
    Straddles p x' y' := by
  rcases hStraddles with ⟨k, hk, hPos, hEnd, hBegin⟩
  exact ⟨k, hk, hPos, hEnd.trans hLeft,
    hBegin.trans hRight⟩

theorem infix_append
    {p x y : List α}
    (hStraddles : Straddles p x y) :
    p <:+: x ++ y := by
  rcases hStraddles with ⟨k, -, -, hLeft, hRight⟩
  refine List.infix_append_iff.mpr (.inr (.inr ?_))
  exact ⟨p.take k, p.drop k, by simp, hLeft, hRight⟩

/- An occurrence is in one of the texts or straddles both. -/
theorem infix_append_iff (p x y : List α) :
    p <:+: x ++ y ↔
      p <:+: x ∨ p <:+: y ∨ Straddles p x y := by
  constructor
  · intro hInfix
    rcases List.infix_append_iff_ne_nil.mp hInfix with
      hLeft | hRight | ⟨s, t, hs, ht, rfl, hs', ht'⟩
    · exact .inl hLeft
    · exact .inr (.inl hRight)
    · have hs := List.length_pos_iff.mpr hs
      have ht := List.length_pos_iff.mpr ht
      refine .inr (.inr ⟨s.length, ?_, hs, ?_, ?_⟩)
      · rw [List.length_append]
        omega
      · rwa [List.take_left]
      · rwa [List.drop_left]
  · rintro (hLeft | hRight | hStraddles)
    · exact List.infix_append_of_infix_left hLeft
    · exact List.infix_append_of_infix_right hRight
    · exact hStraddles.infix_append

/- Of a long text only the end matters. -/
theorem append_left_iff
    {p d : List α}
    (hLength : p.length ≤ d.length)
    (x y : List α) :
    Straddles p (x ++ d) y ↔ Straddles p d y := by
  constructor
  · rintro ⟨k, hk, hPos, hLeft, hRight⟩
    refine ⟨k, hk, hPos, ?_, hRight⟩
    refine List.suffix_of_suffix_length_le hLeft
      (List.suffix_append x d) ?_
    rw [List.length_take]
    omega
  · intro hStraddles
    exact hStraddles.mono (List.suffix_append x d)
      List.prefix_rfl

/- A pattern no longer than the part in the middle. -/
theorem infix_around_iff
    {p d : List α}
    (hLength : p.length ≤ d.length)
    (x y : List α) :
    p <:+: x ++ d ++ y ↔
      p <:+: x ∨ p <:+: d ∨ p <:+: y ∨
        Straddles p x d ∨ Straddles p d y := by
  rw [infix_append_iff, infix_append_iff,
    append_left_iff hLength]
  tauto

end Straddles

------------------------------------------------------------
-- Neighbours Known In Part
------------------------------------------------------------

namespace Straddles

/-
  Before `y` stands a text that ends with `e`, and the cuts
  of the pattern that fit `y` agree neither with `e` nor
  with what is longer.
-/
def ApartBefore (p e y : List α) : Prop :=
  ∀ k < p.length, 0 < k → p.drop k <+: y →
    ¬ (p.take k <:+ e ∨ e <:+ p.take k)

/- The same with what is known of the second text's start. -/
def ApartAfter (p x b : List α) : Prop :=
  ∀ k < p.length, 0 < k → p.take k <:+ x →
    ¬ (p.drop k <+: b ∨ b <+: p.drop k)

instance [DecidableEq α] (p e y : List α) :
    Decidable (ApartBefore p e y) :=
  inferInstanceAs (Decidable (∀ k < p.length, _))

instance [DecidableEq α] (p x b : List α) :
    Decidable (ApartAfter p x b) :=
  inferInstanceAs (Decidable (∀ k < p.length, _))

/- The end of the first text is enough to rule it out. -/
theorem not_of_apartBefore
    {p e x y : List α}
    (hApart : ApartBefore p e y)
    (hEnd : e <:+ x) :
    ¬ Straddles p x y := by
  rintro ⟨k, hk, hPos, hLeft, hRight⟩
  exact hApart k hk hPos hRight
    (List.suffix_or_suffix_of_suffix hLeft hEnd)

/- The beginning of the second text is enough as well. -/
theorem not_of_apartAfter
    {p x b y : List α}
    (hApart : ApartAfter p x b)
    (hBegin : b <+: y) :
    ¬ Straddles p x y := by
  rintro ⟨k, hk, hPos, hLeft, hRight⟩
  exact hApart k hk hPos hLeft
    (List.prefix_or_prefix_of_prefix hRight hBegin)

end Straddles
