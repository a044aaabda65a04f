import Mathlib.Data.List.Basic
import Mathlib.Data.List.Nodup

/-
  The first element of each key of a list, in the order in
  which the keys first occur.

  `newFirstsBy` leaves out the keys seen before, as a loop
  that carries them does; its two equations for `cons` are
  the two branches of that loop.

  Key definitions include:
    * `List.firstsBy`
    * `List.newFirstsBy`

  Key theorems include:
    * `List.newFirstsBy_cons_of_mem`
    * `List.newFirstsBy_cons_of_not_mem`
    * `List.nodup_map_firstsBy`
    * `List.mem_map_firstsBy_of_mem`
-/

------------------------------------------------------------
-- First Occurrences
------------------------------------------------------------

namespace List

variable {α κ : Type} [DecidableEq κ]

/- Keep the first element of each key. -/
def firstsBy (key : α → κ) (as : List α) : List α :=
  as.eraseDupsBy (fun a b => decide (key a = key b))

@[simp] theorem firstsBy_nil (key : α → κ) :
    ([] : List α).firstsBy key = [] := rfl

/- The first element hides all others with its key. -/
theorem firstsBy_cons
    (key : α → κ)
    (a : α)
    (as : List α) :
    (a :: as).firstsBy key =
      a :: (as.filter (fun b => key b ≠ key a)).firstsBy
        key := by
  simp [firstsBy, eraseDupsBy_cons]

/- The same for the keys that are not among `seen`. -/
def newFirstsBy
    (key : α → κ)
    (as : List α)
    (seen : List κ) : List α :=
  (as.filter (fun b => key b ∉ seen)).firstsBy key

@[simp] theorem newFirstsBy_nil
    (key : α → κ)
    (seen : List κ) :
    ([] : List α).newFirstsBy key seen = [] := rfl

theorem newFirstsBy_seen_nil
    (key : α → κ)
    (as : List α) :
    as.newFirstsBy key [] = as.firstsBy key := by
  simp [newFirstsBy]

/- An element whose key was seen adds nothing. -/
theorem newFirstsBy_cons_of_mem
    {key : α → κ}
    {seen : List κ}
    {a : α}
    (hSeen : key a ∈ seen)
    (as : List α) :
    (a :: as).newFirstsBy key seen =
      as.newFirstsBy key seen := by
  unfold newFirstsBy
  rw [filter_cons_of_neg (by simpa using hSeen)]

/- One with a new key comes first, and its key is seen. -/
theorem newFirstsBy_cons_of_not_mem
    {key : α → κ}
    {seen : List κ}
    {a : α}
    (hNew : key a ∉ seen)
    (as : List α) :
    (a :: as).newFirstsBy key seen =
      a :: as.newFirstsBy key (seen ++ [key a]) := by
  unfold newFirstsBy
  rw [filter_cons_of_pos (by simpa using hNew),
    firstsBy_cons, filter_filter]
  congr 2
  apply filter_congr
  intro b _
  simp [and_comm]

/- No key is kept twice, nor one that was seen before. -/
theorem nodup_map_newFirstsBy
    (key : α → κ)
    (seen : List κ)
    (as : List α) :
    ((as.newFirstsBy key seen).map key).Nodup ∧
      ∀ a ∈ as.newFirstsBy key seen, key a ∉ seen := by
  induction as generalizing seen with
  | nil => simp
  | cons a as ih =>
      by_cases hSeen : key a ∈ seen
      · rw [newFirstsBy_cons_of_mem hSeen]
        exact ih seen
      · rw [newFirstsBy_cons_of_not_mem hSeen]
        rcases ih (seen ++ [key a]) with ⟨hNodup, hFresh⟩
        refine ⟨?_, ?_⟩
        · rw [map_cons, nodup_cons]
          refine ⟨?_, hNodup⟩
          intro hMem
          rcases mem_map.mp hMem with ⟨b, hb, hEq⟩
          apply hFresh b hb
          rw [hEq]
          simp
        · intro b hb
          rcases mem_cons.mp hb with rfl | hRest
          · exact hSeen
          · intro hOld
            exact hFresh b hRest (mem_append_left _ hOld)

theorem nodup_map_firstsBy
    (key : α → κ)
    (as : List α) :
    ((as.firstsBy key).map key).Nodup := by
  rw [← newFirstsBy_seen_nil]
  exact (nodup_map_newFirstsBy key [] as).1

/- Every key of the list is kept or was seen. -/
theorem mem_seen_or_mem_newFirstsBy
    (key : α → κ)
    (seen : List κ)
    {as : List α}
    {a : α}
    (ha : a ∈ as) :
    key a ∈ seen ++ (as.newFirstsBy key seen).map key := by
  induction as generalizing seen with
  | nil => simp at ha
  | cons b as ih =>
      by_cases hSeen : key b ∈ seen
      · rw [newFirstsBy_cons_of_mem hSeen]
        rcases mem_cons.mp ha with rfl | hRest
        · exact mem_append_left _ hSeen
        · exact ih seen hRest
      · rw [newFirstsBy_cons_of_not_mem hSeen]
        rcases mem_cons.mp ha with rfl | hRest
        · simp
        · simpa using ih (seen ++ [key b]) hRest

/- Every key has a first one. -/
theorem mem_map_firstsBy_of_mem
    (key : α → κ)
    {as : List α}
    {a : α}
    (ha : a ∈ as) :
    key a ∈ (as.firstsBy key).map key := by
  rw [← newFirstsBy_seen_nil]
  simpa using mem_seen_or_mem_newFirstsBy key [] ha

end List
