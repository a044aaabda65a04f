import EngenhoPromessa.Collections.Tally

/-
  Counting into ordered maps of counters that do not wrap
  around.

  Key definitions include:
    * `Counts.increment`
    * `Counts.ofList`

  Key theorems include:
    * `Counts.mem_toList_ofList_iff`
    * `Counts.sum_ofList`
-/

------------------------------------------------------------
-- Counting
------------------------------------------------------------

namespace Counts

open Std (ExtTreeMap TransOrd LawfulEqOrd LawfulEqCmp)

variable {κ : Type} [Ord κ] [TransOrd κ] [LawfulEqOrd κ]

/- `*m.entry(k).or_insert(0) += 1`. -/
def increment
    (m : ExtTreeMap κ Nat)
    (k : κ) : ExtTreeMap κ Nat :=
  m.alter k (fun count => some (count.getD 0 + 1))

/- How often each key comes in the list. -/
def ofList (ks : List κ) : ExtTreeMap κ Nat :=
  ks.foldl increment ∅

omit [LawfulEqOrd κ] in
/- A key at the end is counted last. -/
theorem ofList_concat (ks : List κ) (k : κ) :
    ofList (ks ++ [k]) = increment (ofList ks) k := by
  simp [ofList]

variable [DecidableEq κ]

/- Each counter counts its key, and there are no others. -/
theorem getElem?_ofList (ks : List κ) (k : κ) :
    (ofList ks)[k]? =
      if k ∈ ks then some (ks.count k) else none := by
  induction ks using List.reverseRecOn with
  | nil => simp [ofList]
  | append_singleton ks k' ih =>
      rw [ofList_concat, increment, ExtTreeMap.getElem?_alter]
      by_cases hKey : k' = k
      · subst hKey
        by_cases hMem : k' ∈ ks
        · simp [ih, hMem]
        · simp [ih, hMem, List.count_eq_zero_of_not_mem hMem]
      · have hNe : k ≠ k' := fun hEq => hKey hEq.symm
        simp [LawfulEqCmp.compare_eq_iff_eq, hKey, hNe, ih]

/- Exactly the keys of the list have an entry, their count. -/
theorem mem_toList_ofList_iff
    (ks : List κ)
    (k : κ)
    (n : Nat) :
    (k, n) ∈ (ofList ks).toList ↔
      k ∈ ks ∧ n = ks.count k := by
  rw [ExtTreeMap.mem_toList_iff_getElem?_eq_some,
    getElem?_ofList]
  by_cases hMem : k ∈ ks
  · simp [hMem, eq_comm]
  · simp [hMem]

/- No element is dropped and none is counted twice. -/
theorem sum_ofList (ks : List κ) :
    ((ofList ks).toList.map Prod.snd).sum = ks.length := by
  have hCounts :
      (ofList ks).toList.map Prod.snd =
        (ofList ks).keys.map (fun k => ks.count k) := by
    rw [← ExtTreeMap.map_fst_toList_eq_keys, List.map_map]
    refine List.map_congr_left (fun entry hMem => ?_)
    exact ((mem_toList_ofList_iff ks _ _).mp hMem).2
  rw [hCounts]
  refine Tally.sum_map_count ExtTreeMap.nodup_keys
    (fun k hMem => ?_)
  rw [ExtTreeMap.mem_keys, ← ExtTreeMap.isSome_getElem?_iff_mem,
    getElem?_ofList, if_pos hMem]
  rfl

end Counts
