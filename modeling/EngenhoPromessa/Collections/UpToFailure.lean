import Mathlib.Data.List.Basic
import Mathlib.Data.List.TakeWhile

/-
  Lists that are worked through until the first failure.

  `upToFailure` keeps the elements up to the first that
  fails a test, that one included; `failure?` is that
  element with what comes after it.

  Key definitions include:
    * `List.upToFailure`
    * `List.failure?`

  Key theorems include:
    * `List.upToFailure_append_of_all`
    * `List.upToFailure_append_of_failure`
    * `List.pairwise_upToFailure`
    * `List.forall₂_of_mapM_eq_some`
-/

------------------------------------------------------------
-- The First Failure
------------------------------------------------------------

namespace List

variable {α : Type}

/- The elements up to and with the first that is not ok. -/
def upToFailure (ok : α → Bool) : List α → List α
| [] => []
| a :: as =>
    if ok a then a :: upToFailure ok as else [a]

/- The first element that is not ok, and those after it. -/
def failure? (ok : α → Bool) :
    List α → Option (α × List α)
| [] => none
| a :: as => if ok a then failure? ok as else some (a, as)

/- The failure is one of the elements. -/
theorem mem_of_failure?_eq_some
    {ok : α → Bool}
    {as rest : List α}
    {a : α}
    (hFailure : as.failure? ok = some (a, rest)) :
    a ∈ as := by
  induction as with
  | nil =>
      simp [failure?] at hFailure
  | cons b bs ih =>
      by_cases hOk : ok b = true
      · have hRest : bs.failure? ok = some (a, rest) := by
          simpa [failure?, hOk] using hFailure
        exact mem_cons_of_mem b (ih hRest)
      · have hEq : b = a ∧ bs = rest := by
          simpa [failure?, hOk] using hFailure
        simp [hEq.1]

/- Elements that are all ok are passed over. -/
theorem failure?_append_of_all
    {ok : α → Bool}
    {as : List α}
    (hAll : as.failure? ok = none)
    (bs : List α) :
    (as ++ bs).failure? ok = bs.failure? ok := by
  induction as with
  | nil =>
      rfl
  | cons a as ih =>
      by_cases hOk : ok a = true
      · have hRest : as.failure? ok = none := by
          simpa [failure?, hOk] using hAll
        simpa [failure?, hOk] using ih hRest
      · simp [failure?, hOk] at hAll

/- A failure is the same whatever comes later. -/
theorem failure?_append_of_failure
    {ok : α → Bool}
    {as rest : List α}
    {a : α}
    (hFailure : as.failure? ok = some (a, rest))
    (bs : List α) :
    (as ++ bs).failure? ok = some (a, rest ++ bs) := by
  induction as with
  | nil =>
      simp [failure?] at hFailure
  | cons b as ih =>
      by_cases hOk : ok b = true
      · have hRest : as.failure? ok = some (a, rest) := by
          simpa [failure?, hOk] using hFailure
        simpa [failure?, hOk] using ih hRest
      · have hEq : b = a ∧ as = rest := by
          simpa [failure?, hOk] using hFailure
        rcases hEq with ⟨rfl, rfl⟩
        simp [failure?, hOk]

end List

------------------------------------------------------------
-- The Part That Is Worked Through
------------------------------------------------------------

namespace List

variable {α : Type}

/- Something is tried as soon as there is something to try. -/
@[simp] theorem upToFailure_eq_nil_iff
    (ok : α → Bool)
    (as : List α) :
    as.upToFailure ok = [] ↔ as = [] := by
  cases as with
  | nil =>
      simp [upToFailure]
  | cons a as =>
      by_cases hOk : ok a = true
      · simp [upToFailure, hOk]
      · simp [upToFailure, hOk]

/- Behind elements that are all ok the next ones follow. -/
theorem upToFailure_append_of_all
    {ok : α → Bool}
    {as : List α}
    (hAll : as.failure? ok = none)
    (bs : List α) :
    (as ++ bs).upToFailure ok =
      as ++ bs.upToFailure ok := by
  induction as with
  | nil =>
      rfl
  | cons a as ih =>
      by_cases hOk : ok a = true
      · have hRest : as.failure? ok = none := by
          simpa [failure?, hOk] using hAll
        simpa [upToFailure, hOk] using ih hRest
      · simp [failure?, hOk] at hAll

theorem upToFailure_of_all
    {ok : α → Bool}
    {as : List α}
    (hAll : as.failure? ok = none) :
    as.upToFailure ok = as := by
  simpa [upToFailure] using
    upToFailure_append_of_all hAll []

/- Nothing is tried behind a failure. -/
theorem upToFailure_append_of_failure
    {ok : α → Bool}
    {as : List α}
    (hFailure : as.failure? ok ≠ none)
    (bs : List α) :
    (as ++ bs).upToFailure ok = as.upToFailure ok := by
  induction as with
  | nil =>
      simp [failure?] at hFailure
  | cons a as ih =>
      by_cases hOk : ok a = true
      · have hRest : as.failure? ok ≠ none := by
          simpa [failure?, hOk] using hFailure
        simpa [upToFailure, hOk] using ih hRest
      · simp [upToFailure, hOk]

/- What is tried is a beginning of the list. -/
theorem upToFailure_isPrefix
    (ok : α → Bool)
    (as : List α) :
    as.upToFailure ok <+: as := by
  induction as with
  | nil => exact prefix_refl []
  | cons a as ih =>
      by_cases hOk : ok a = true
      · simpa [upToFailure, hOk] using ih
      · simp [upToFailure, hOk]

/- There is no failure when every element is ok. -/
theorem failure?_eq_none_of_forall
    {ok : α → Bool}
    {as : List α}
    (hAll : ∀ a ∈ as, ok a = true) :
    as.failure? ok = none := by
  induction as with
  | nil => rfl
  | cons a as ih =>
      rcases forall_mem_cons.mp hAll with ⟨hOk, hRest⟩
      rw [failure?, if_pos hOk, ih hRest]

/- Nothing comes after an element that fails. -/
theorem pairwise_upToFailure
    (ok : α → Bool)
    (as : List α) :
    (as.upToFailure ok).Pairwise
      (fun a _ => ok a = true) := by
  induction as with
  | nil =>
      simp [upToFailure]
  | cons a as ih =>
      by_cases hOk : ok a = true
      · simpa [upToFailure, hOk] using ih
      · simp [upToFailure, hOk]

end List

------------------------------------------------------------
-- Results Of All Elements
------------------------------------------------------------

namespace List

variable {α β : Type}

/- All elements have a result, in the order of the elements. -/
theorem forall₂_of_mapM_eq_some
    {f : α → Option β}
    {as : List α}
    {bs : List β}
    (hMap : as.mapM f = some bs) :
    Forall₂ (fun a b => f a = some b) as bs := by
  induction as generalizing bs with
  | nil =>
      obtain rfl : [] = bs := by simpa using hMap
      exact Forall₂.nil
  | cons a as ih =>
      rw [mapM_cons] at hMap
      rcases Option.bind_eq_some_iff.mp hMap with
        ⟨b, hHead, hRest⟩
      rcases Option.bind_eq_some_iff.mp hRest with
        ⟨rest, hTail, hCons⟩
      obtain rfl : b :: rest = bs := by simpa using hCons
      exact Forall₂.cons hHead (ih hTail)

/- Every image comes from an element. -/
theorem exists_of_mem_mapM
    {f : α → Option β}
    {as : List α}
    {bs : List β}
    (hMap : as.mapM f = some bs)
    {b : β}
    (hb : b ∈ bs) :
    ∃ a ∈ as, f a = some b := by
  have hAll := forall₂_of_mapM_eq_some hMap
  clear hMap
  induction hAll with
  | nil => simp at hb
  | cons hHead _ ih =>
      rcases mem_cons.mp hb with rfl | hb
      · exact ⟨_, mem_cons_self, hHead⟩
      · rcases ih hb with ⟨a, ha, hSome⟩
        exact ⟨a, mem_cons_of_mem _ ha, hSome⟩

/- Every element has its image. -/
theorem exists_mem_of_mapM
    {f : α → Option β}
    {as : List α}
    {bs : List β}
    (hMap : as.mapM f = some bs)
    {a : α}
    (ha : a ∈ as) :
    ∃ b ∈ bs, f a = some b := by
  have hAll := forall₂_of_mapM_eq_some hMap
  clear hMap
  induction hAll with
  | nil => simp at ha
  | cons hHead _ ih =>
      rcases mem_cons.mp ha with rfl | ha
      · exact ⟨_, mem_cons_self, hHead⟩
      · rcases ih ha with ⟨b, hb, hSome⟩
        exact ⟨b, mem_cons_of_mem _ hb, hSome⟩

end List
