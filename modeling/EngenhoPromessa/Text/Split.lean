import EngenhoPromessa.Text.Str
import Mathlib.Data.List.Infix

/-
  The pieces of a text around a pattern, for patterns that
  begin with a character the pieces do not contain.

  Key theorems include:
    * `Str.split_append`
    * `Str.split_of_not_contains`
    * `Str.exists_of_split_eq`
    * `Str.beforeAny_head_split`
-/

------------------------------------------------------------
-- Lists Of Characters
------------------------------------------------------------

namespace Str

/- What is left of an occurrence is passed over. -/
theorem splitFrom_skip
    (pattern part : List Char)
    (n : Nat)
    (cs : List Char) :
    splitFrom pattern part n cs =
      splitFrom pattern part 0 (cs.drop n) := by
  induction n generalizing cs with
  | zero => rfl
  | succ n ih =>
      cases cs with
      | nil => rfl
      | cons c cs =>
          rw [splitFrom, ih, List.drop_succ_cons]

/- Characters at which no occurrence can begin. -/
theorem splitFrom_append
    (first : Char)
    (pattern part : List Char)
    {before : List Char}
    (hBefore : first ∉ before)
    (cs : List Char) :
    splitFrom (first :: pattern) part 0 (before ++ cs) =
      splitFrom (first :: pattern) (before.reverse ++ part)
        0 cs := by
  induction before generalizing part with
  | nil => rfl
  | cons c before ih =>
      rw [List.mem_cons, not_or] at hBefore
      have hNot :
          (first :: pattern).isPrefixOf
            (c :: (before ++ cs)) = false := by
        simp [List.isPrefixOf, hBefore.1]
      rw [List.cons_append, splitFrom, hNot,
        if_neg (by decide), ih _ hBefore.2,
        List.reverse_cons, List.append_assoc]
      rfl

/- A pattern in the text ends the part that is being read. -/
theorem splitFrom_pattern
    (first : Char)
    (pattern part cs : List Char) :
    splitFrom (first :: pattern) part 0
        (first :: pattern ++ cs) =
      part.reverse ::
        splitFrom (first :: pattern) [] 0 cs := by
  have hPrefix :
      (first :: pattern).isPrefixOf
        (first :: (pattern ++ cs)) = true := by
    simp [List.isPrefixOf]
  rw [List.cons_append, splitFrom, if_pos hPrefix,
    splitFrom_skip]
  simp

/- A text without an occurrence is one piece. -/
theorem splitFrom_of_none
    (first : Char)
    (pattern part : List Char)
    {cs : List Char}
    (hNone :
      cs.tails.any
        (fun t => (first :: pattern).isPrefixOf t) = false) :
    splitFrom (first :: pattern) part 0 cs =
      [part.reverse ++ cs] := by
  induction cs generalizing part with
  | nil => simp [splitFrom]
  | cons c cs ih =>
      rw [List.tails_cons, List.any_cons,
        Bool.or_eq_false_iff] at hNone
      rw [splitFrom, hNone.1, if_neg (by decide),
        ih _ hNone.2, List.reverse_cons]
      simp

/- The first of several pieces ends at an occurrence. -/
theorem exists_of_splitFrom_eq
    (first : Char)
    (pattern : List Char)
    {part cs piece next : List Char}
    {pieces : List (List Char)}
    (hPieces :
      splitFrom (first :: pattern) part 0 cs =
        piece :: next :: pieces) :
    ∃ rest,
      part.reverse ++ cs =
          piece ++ (first :: pattern ++ rest) ∧
        splitFrom (first :: pattern) [] 0 rest =
          next :: pieces := by
  induction cs generalizing part with
  | nil => simp [splitFrom] at hPieces
  | cons c cs ih =>
      by_cases hPrefix :
          (first :: pattern).isPrefixOf (c :: cs) = true
      · rcases List.isPrefixOf_iff_prefix.mp hPrefix with
          ⟨rest, hRest⟩
        rw [← hRest, splitFrom_pattern,
          List.cons.injEq] at hPieces
        exact ⟨rest, by rw [← hRest, hPieces.1],
          hPieces.2⟩
      · rw [splitFrom, if_neg hPrefix] at hPieces
        rcases ih hPieces with ⟨rest, hText, hRest⟩
        refine ⟨rest, ?_, hRest⟩
        rw [← hText, List.reverse_cons]
        simp

/- There is always a part, be it empty. -/
theorem splitFrom_ne_nil
    (pattern part : List Char)
    (n : Nat)
    (cs : List Char) :
    splitFrom pattern part n cs ≠ [] := by
  induction cs generalizing part n with
  | nil => simp [splitFrom]
  | cons c cs ih =>
      cases n with
      | succ n => exact ih part n
      | zero =>
          rw [splitFrom]
          split
          · simp
          · exact ih (c :: part) 0

/- What the first piece is followed by, if by anything. -/
theorem prefix_of_splitFrom_eq
    (first : Char)
    (pattern : List Char)
    {part cs piece : List Char}
    {pieces : List (List Char)}
    (hPieces :
      splitFrom (first :: pattern) part 0 cs =
        piece :: pieces) :
    piece <+: part.reverse ++ cs := by
  induction cs generalizing part with
  | nil =>
      rw [splitFrom, List.cons.injEq] at hPieces
      rw [← hPieces.1, List.append_nil]
  | cons c cs ih =>
      by_cases hPrefix :
          (first :: pattern).isPrefixOf (c :: cs) = true
      · rw [splitFrom, if_pos hPrefix,
          List.cons.injEq] at hPieces
        rw [← hPieces.1]
        exact List.prefix_append _ _
      · rw [splitFrom, if_neg hPrefix] at hPieces
        have hPiece := ih hPieces
        rw [List.reverse_cons] at hPiece
        simpa using hPiece

/- The first character that fails ends it. -/
theorem takeWhile_append_cons
    (q : Char → Bool)
    {c : Char}
    (hStop : q c = false)
    (as bs : List Char) :
    (as ++ c :: bs).takeWhile q = as.takeWhile q := by
  induction as with
  | nil => simp [hStop]
  | cons a as ih =>
      rw [List.cons_append, List.takeWhile_cons,
        List.takeWhile_cons, ih]

/-
  Where reading stops at the first character of the pattern,
  it reads the same from the first piece as from the text.
-/
theorem takeWhile_head_splitFrom
    (first : Char)
    (pattern : List Char)
    {q : Char → Bool}
    (hStop : q first = false)
    {part cs piece : List Char}
    {pieces : List (List Char)}
    (hPieces :
      splitFrom (first :: pattern) part 0 cs =
        piece :: pieces) :
    piece.takeWhile q =
      (part.reverse ++ cs).takeWhile q := by
  induction cs generalizing part with
  | nil =>
      rw [splitFrom, List.cons.injEq] at hPieces
      rw [← hPieces.1, List.append_nil]
  | cons c cs ih =>
      by_cases hPrefix :
          (first :: pattern).isPrefixOf (c :: cs) = true
      · rcases List.isPrefixOf_iff_prefix.mp hPrefix with
          ⟨rest, hRest⟩
        rw [← hRest, splitFrom_pattern,
          List.cons.injEq] at hPieces
        rw [← hRest, List.cons_append,
          takeWhile_append_cons q hStop, hPieces.1]
      · rw [splitFrom, if_neg hPrefix] at hPieces
        rw [ih hPieces, List.reverse_cons]
        simp

end Str

------------------------------------------------------------
-- Texts
------------------------------------------------------------

namespace Str

/- The first pattern cuts off the part before it. -/
theorem split_append
    {first : Char}
    {pattern a : String}
    {rest : List Char}
    (hPattern : pattern.toList = first :: rest)
    (hPart : first ∉ a.toList)
    (b : String) :
    split pattern (a ++ pattern ++ b) =
      a :: split pattern b := by
  unfold split
  rw [String.toList_append, String.toList_append, hPattern,
    List.append_assoc, splitFrom_append _ _ _ hPart,
    splitFrom_pattern, List.map_cons]
  simp

/- A text without the pattern is one part. -/
theorem split_of_not_contains
    {first : Char}
    {pattern s : String}
    {rest : List Char}
    (hPattern : pattern.toList = first :: rest)
    (hNone : contains pattern s = false) :
    split pattern s = [s] := by
  unfold contains at hNone
  unfold split
  rw [hPattern] at hNone ⊢
  rw [splitFrom_of_none _ _ _ hNone]
  simp

/- The first of several pieces ends at an occurrence. -/
theorem exists_of_split_eq
    {first : Char}
    {pattern s piece next : String}
    {rest : List Char}
    {pieces : List String}
    (hPattern : pattern.toList = first :: rest)
    (hPieces : split pattern s = piece :: next :: pieces) :
    ∃ t, s = piece ++ pattern ++ t ∧
      split pattern t = next :: pieces := by
  unfold split at hPieces
  rw [hPattern] at hPieces
  rcases List.map_eq_cons_iff.mp hPieces with
    ⟨x, xs, hSplit, rfl, hRest⟩
  rcases List.map_eq_cons_iff.mp hRest with
    ⟨y, ys, rfl, rfl, rfl⟩
  rcases exists_of_splitFrom_eq first rest hSplit with
    ⟨t, hText, hPieces'⟩
  refine ⟨String.ofList t, ?_, ?_⟩
  · refine String.toList_inj.mp ?_
    simpa [hPattern] using hText
  · unfold split
    rw [hPattern, String.toList_ofList, hPieces',
      List.map_cons]

theorem split_ne_nil (pattern s : String) :
    split pattern s ≠ [] := by
  unfold split
  rw [Ne, List.map_eq_nil_iff]
  exact splitFrom_ne_nil _ _ _ _

/- The first part is how the text begins. -/
theorem exists_of_split_head
    {first : Char}
    {pattern s piece : String}
    {rest : List Char}
    {pieces : List String}
    (hPattern : pattern.toList = first :: rest)
    (hPieces : split pattern s = piece :: pieces) :
    ∃ t, s = piece ++ t := by
  unfold split at hPieces
  rw [hPattern] at hPieces
  rcases List.map_eq_cons_iff.mp hPieces with
    ⟨x, xs, hSplit, rfl, -⟩
  rcases prefix_of_splitFrom_eq first rest hSplit with
    ⟨t, hText⟩
  refine ⟨String.ofList t, String.toList_inj.mp ?_⟩
  simpa using hText.symm

/- Cutting the first part at a stop is cutting the text. -/
theorem beforeAny_head_split
    {first : Char}
    {pattern s piece : String}
    {rest stops : List Char}
    {pieces : List String}
    (hPattern : pattern.toList = first :: rest)
    (hStop : first ∈ stops)
    (hPieces : split pattern s = piece :: pieces) :
    beforeAny stops piece = beforeAny stops s := by
  unfold split at hPieces
  rw [hPattern] at hPieces
  rcases List.map_eq_cons_iff.mp hPieces with
    ⟨x, xs, hSplit, rfl, -⟩
  have hRead :=
    takeWhile_head_splitFrom first rest
      (q := fun c => decide (c ∉ stops))
      (decide_eq_false (not_not_intro hStop)) hSplit
  unfold beforeAny
  rw [String.toList_ofList]
  exact congrArg String.ofList hRead

/- A pattern occurs where it was written. -/
theorem contains_append (a pattern b : String) :
    contains pattern (a ++ pattern ++ b) = true := by
  unfold contains
  rw [List.any_eq_true]
  refine ⟨pattern.toList ++ b.toList,
    (List.mem_tails _ _).mpr ⟨a.toList, by simp⟩, ?_⟩
  exact List.isPrefixOf_iff_prefix.mpr
    (List.prefix_append _ _)

/- What comes before the first stop. -/
theorem beforeAny_append
    {stops : List Char}
    {a b : String}
    (hBefore : ∀ c ∈ a.toList, c ∉ stops)
    (hAfter : ∀ c, b.toList.head? = some c → c ∈ stops) :
    beforeAny stops (a ++ b) = a := by
  unfold beforeAny
  have hEnd :
      b.toList.takeWhile (fun c => decide (c ∉ stops)) =
        [] := by
    cases hChars : b.toList with
    | nil => rfl
    | cons c cs =>
        have hStop := hAfter c (by rw [hChars]; rfl)
        simp [hStop]
  rw [String.toList_append,
    List.takeWhile_append_of_pos
      (fun c hc => decide_eq_true (hBefore c hc)),
    hEnd, List.append_nil, String.ofList_toList]

end Str
