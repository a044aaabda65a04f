import Mathlib.Order.Defs.LinearOrder
import Mathlib.Data.List.Basic
import Mathlib.Order.Lattice

/-
  Ordered sets, kept as strictly increasing lists.

  Iteration, difference and retention go through the list,
  so they visit the elements in increasing order.

  Key definitions include:
    * `BTreeSet`
    * `BTreeSet.insert`
    * `BTreeSet.ofList`
    * `BTreeSet.difference`
    * `BTreeSet.retain`
-/

------------------------------------------------------------
-- Sets
------------------------------------------------------------

/- A set as its elements in increasing order, each once. -/
structure BTreeSet (α : Type) [LT α] where
  toList : List α
  sorted : toList.Pairwise (· < ·)

namespace BTreeSet

variable {α : Type} [LinearOrder α]

instance : Membership α (BTreeSet α) where
  mem s a := a ∈ s.toList

instance (s : BTreeSet α) (a : α) : Decidable (a ∈ s) :=
  inferInstanceAs (Decidable (a ∈ s.toList))

theorem mem_def {s : BTreeSet α} {a : α} :
    a ∈ s ↔ a ∈ s.toList := Iff.rfl

theorem nodup (s : BTreeSet α) : s.toList.Nodup :=
  s.sorted.imp (fun hLess => ne_of_lt hLess)

/- The set of nothing. -/
def empty : BTreeSet α where
  toList := []
  sorted := List.Pairwise.nil

instance : EmptyCollection (BTreeSet α) := ⟨empty⟩

@[simp] theorem not_mem_empty (a : α) :
    a ∉ (∅ : BTreeSet α) :=
  List.not_mem_nil

/- Insert into a sorted list, unless it is there already. -/
def insertSorted (a : α) : List α → List α
| [] => [a]
| b :: bs =>
    if a < b then
      a :: b :: bs
    else if a = b then
      b :: bs
    else
      b :: insertSorted a bs

/- An insertion adds its element and loses none. -/
theorem mem_insertSorted
    (a c : α)
    (bs : List α) :
    c ∈ insertSorted a bs ↔ c = a ∨ c ∈ bs := by
  induction bs with
  | nil =>
      simp [insertSorted]
  | cons b bs ih =>
      by_cases hLt : a < b
      · simp [insertSorted, hLt]
      · by_cases hEq : a = b
        · simp [insertSorted, hEq]
        · simp only [insertSorted, hLt, hEq, if_false,
            List.mem_cons, ih]
          tauto

/- The list stays sorted, so a set stays a set. -/
theorem sorted_insertSorted
    (a : α)
    {bs : List α}
    (hSorted : bs.Pairwise (· < ·)) :
    (insertSorted a bs).Pairwise (· < ·) := by
  induction bs with
  | nil =>
      simp [insertSorted]
  | cons b bs ih =>
      rcases List.pairwise_cons.mp hSorted with
        ⟨hHead, hTail⟩
      by_cases hLt : a < b
      · simp only [insertSorted, hLt, if_true]
        refine List.pairwise_cons.mpr ⟨?_, hSorted⟩
        intro c hc
        rcases List.mem_cons.mp hc with hEq | hMem
        · exact hEq ▸ hLt
        · exact lt_trans hLt (hHead c hMem)
      · by_cases hEq : a = b
        · simpa [insertSorted, hEq] using hSorted
        · simp only [insertSorted, hLt, hEq, if_false]
          refine List.pairwise_cons.mpr ⟨?_, ih hTail⟩
          intro c hc
          rcases (mem_insertSorted a c bs).mp hc with
            hNew | hMem
          · rw [hNew]
            exact lt_of_le_of_ne (not_lt.mp hLt)
              (Ne.symm hEq)
          · exact hHead c hMem

/- An element that is there already changes nothing. -/
def insert (s : BTreeSet α) (a : α) : BTreeSet α where
  toList := insertSorted a s.toList
  sorted := sorted_insertSorted a s.sorted

@[simp] theorem mem_insert
    (s : BTreeSet α)
    (a c : α) :
    c ∈ s.insert a ↔ c = a ∨ c ∈ s :=
  mem_insertSorted a c s.toList

/- The set of what is in a list, in whatever order. -/
def ofList (as : List α) : BTreeSet α :=
  as.foldl insert ∅

/- The elements of both, by induction on the list. -/
theorem mem_foldl_insert
    (as : List α)
    (s : BTreeSet α)
    (c : α) :
    c ∈ as.foldl insert s ↔ c ∈ as ∨ c ∈ s := by
  induction as generalizing s with
  | nil =>
      simp
  | cons a as ih =>
      simp only [List.foldl_cons, ih, mem_insert,
        List.mem_cons]
      tauto

@[simp] theorem mem_ofList (as : List α) (c : α) :
    c ∈ ofList as ↔ c ∈ as := by
  simp [ofList, mem_foldl_insert]

/- The elements of `s` that are not in `t`, in order. -/
def difference (s t : BTreeSet α) : List α :=
  s.toList.filter (fun a => a ∉ t)

@[simp] theorem mem_difference
    (s t : BTreeSet α)
    (a : α) :
    a ∈ s.difference t ↔ a ∈ s ∧ a ∉ t := by
  simp [difference, mem_def]

/- Keep the elements that satisfy a test. -/
def retain
    (s : BTreeSet α)
    (keep : α → Bool) : BTreeSet α where
  toList := s.toList.filter keep
  sorted := s.sorted.filter keep

@[simp] theorem mem_retain
    (s : BTreeSet α)
    (keep : α → Bool)
    (a : α) :
    a ∈ s.retain keep ↔ a ∈ s ∧ keep a = true := by
  simp [retain, mem_def]

end BTreeSet
