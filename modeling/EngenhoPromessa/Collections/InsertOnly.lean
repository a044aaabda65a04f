import Mathlib.Data.List.Basic
import Mathlib.Data.List.Nodup

/-
  Tables of rows with a primary key, to which rows are only
  added: a batch is inserted as a whole, and only if its keys
  are new and differ.

  Key definitions include:
    * `InsertOnly.Fresh`
    * `InsertOnly.insertMany`

  Key theorems include:
    * `InsertOnly.nodup_insertMany`
    * `InsertOnly.insertMany_eq_some_iff`
-/

------------------------------------------------------------
-- Batches
------------------------------------------------------------

namespace InsertOnly

variable {κ ρ : Type} [DecidableEq κ]

/- The keys of a batch are new, and no two are the same. -/
def Fresh
    (key : ρ → κ)
    (rows batch : List ρ) : Prop :=
  (batch.map key).Nodup ∧
    ∀ r ∈ batch, key r ∉ rows.map key

instance
    (key : ρ → κ)
    (rows batch : List ρ) :
    Decidable (Fresh key rows batch) :=
  inferInstanceAs (Decidable (_ ∧ _))

/- All of the batch is added, or nothing if a key is taken. -/
def insertMany
    (key : ρ → κ)
    (rows batch : List ρ) : Option (List ρ) :=
  if Fresh key rows batch then some (rows ++ batch) else none

/- An accepted batch is fresh and stands at the end. -/
theorem insertMany_eq_some_iff
    {key : ρ → κ}
    {rows batch rows' : List ρ} :
    insertMany key rows batch = some rows' ↔
      Fresh key rows batch ∧ rows' = rows ++ batch := by
  unfold insertMany
  by_cases hFresh : Fresh key rows batch
  · simp [hFresh, eq_comm]
  · simp [hFresh]

/- No key is there twice, whatever is inserted. -/
theorem nodup_insertMany
    {key : ρ → κ}
    {rows batch rows' : List ρ}
    (hRows : (rows.map key).Nodup)
    (hInsert : insertMany key rows batch = some rows') :
    (rows'.map key).Nodup := by
  rcases insertMany_eq_some_iff.mp hInsert with
    ⟨⟨hBatch, hNew⟩, rfl⟩
  rw [List.map_append]
  refine List.nodup_append'.mpr ⟨hRows, hBatch, ?_⟩
  intro k hOld hMem
  rcases List.mem_map.mp hMem with ⟨r, hr, rfl⟩
  exact hNew r hr hOld

end InsertOnly
