import Mathlib.Algebra.BigOperators.Group.Finset.Basic
import Mathlib.Algebra.GroupWithZero.Nat
import Mathlib.Data.List.Induction
import Mathlib.Data.String.Basic

/-
  Counting into ordered maps of 32-bit counters.

  A list is counted by adding one to the counter of each of
  its elements. The counters wrap around, so their sum is
  the length of the list as long as that fits.

  Key definitions include:
    * `Tally.increment`
    * `Tally.ofList`
    * `Tally.total`
    * `Tally.ofPairs`
    * `Tally.totalOf`

  Key theorems include:
    * `Tally.getElem?_ofList`
    * `Tally.total_ofList`
    * `Tally.totalOf_ofPairs`
-/

------------------------------------------------------------
-- Sums Of Counts
------------------------------------------------------------

namespace Tally

/- A list has its elements among those counted. -/
theorem sum_map_count
    {κ : Type}
    [DecidableEq κ]
    {keys ks : List κ}
    (hNodup : keys.Nodup)
    (hSubset : ∀ k ∈ ks, k ∈ keys) :
    (keys.map (fun k => ks.count k)).sum = ks.length := by
  have hCard :
      (∑ k ∈ keys.toFinset, (ks : Multiset κ).count k) =
        (ks : Multiset κ).card :=
    Multiset.sum_count_eq_card (fun k hMem =>
      List.mem_toFinset.mpr (hSubset k hMem))
  rw [List.sum_toFinset _ hNodup] at hCard
  simpa using hCard

end Tally

------------------------------------------------------------
-- Counting
------------------------------------------------------------

namespace Tally

open Std (ExtTreeMap TransOrd LawfulEqOrd LawfulEqCmp)

variable {κ : Type} [Ord κ] [TransOrd κ] [LawfulEqOrd κ]

/- `*m.entry(k).or_default() += 1`. -/
def increment
    (m : ExtTreeMap κ UInt32)
    (k : κ) : ExtTreeMap κ UInt32 :=
  m.alter k (fun count => some (count.getD 0 + 1))

/- How often each key comes in the list, as 32 bits count. -/
def ofList (ks : List κ) : ExtTreeMap κ UInt32 :=
  ks.foldl increment ∅

/- The sum of all counters. -/
def total (m : ExtTreeMap κ UInt32) : Nat :=
  (m.toList.map (fun entry => entry.2.toNat)).sum

/- A counter that is not there counts nothing. -/
def countOf (m : ExtTreeMap κ UInt32) (k : κ) : Nat :=
  (m[k]?.getD 0).toNat

omit [LawfulEqOrd κ] in
theorem ofList_concat (ks : List κ) (k : κ) :
    ofList (ks ++ [k]) = increment (ofList ks) k := by
  simp [ofList]

variable [DecidableEq κ]

/- A count goes up by one, and the others stay. -/
theorem getElem?_increment
    (m : ExtTreeMap κ UInt32)
    (k k' : κ) :
    (increment m k)[k']? =
      if k = k' then some (m[k]?.getD 0 + 1)
        else m[k']? := by
  simp [increment, ExtTreeMap.getElem?_alter,
    LawfulEqCmp.compare_eq_iff_eq]

/- Each counter counts its key, and there are no others. -/
theorem getElem?_ofList (ks : List κ) (k : κ) :
    (ofList ks)[k]? =
      if k ∈ ks then some (UInt32.ofNat (ks.count k))
        else none := by
  induction ks using List.reverseRecOn with
  | nil => simp [ofList]
  | append_singleton ks k' ih =>
      rw [ofList_concat, getElem?_increment]
      by_cases hKey : k' = k
      · subst hKey
        have hCount :
            ((ofList ks)[k']?).getD 0 =
              UInt32.ofNat (ks.count k') := by
          rw [ih]
          by_cases hMem : k' ∈ ks
          · simp [hMem]
          · simp [hMem, List.count_eq_zero_of_not_mem hMem]
        simp [hCount, UInt32.ofNat_add]
      · have hNe : k ≠ k' := fun hEq => hKey hEq.symm
        simp [hKey, hNe, ih]

/- A list that 32 bits can count is counted right. -/
theorem countOf_ofList
    {ks : List κ}
    (hLength : ks.length < 2 ^ 32)
    (k : κ) :
    countOf (ofList ks) k = ks.count k := by
  have hCount : ks.count k < UInt32.size :=
    lt_of_le_of_lt List.count_le_length hLength
  unfold countOf
  rw [getElem?_ofList]
  by_cases hMem : k ∈ ks
  · simp [hMem, UInt32.toNat_ofNat_of_lt' hCount]
  · simp [hMem, List.count_eq_zero_of_not_mem hMem]

theorem mem_keys_ofList_iff (ks : List κ) (k : κ) :
    k ∈ (ofList ks).keys ↔ k ∈ ks := by
  rw [ExtTreeMap.mem_keys, ← ExtTreeMap.isSome_getElem?_iff_mem,
    getElem?_ofList]
  by_cases hMem : k ∈ ks
  · simp [hMem]
  · simp [hMem]

/- The entries are the keys with their counters. -/
omit [DecidableEq κ] in
theorem toList_eq_map_keys
    (m : ExtTreeMap κ UInt32) :
    m.toList.map (fun entry => entry.2.toNat) =
      m.keys.map (countOf m) := by
  rw [← ExtTreeMap.map_fst_toList_eq_keys, List.map_map]
  refine List.map_congr_left (fun entry hMem => ?_)
  have hGet : m[entry.1]? = some entry.2 :=
    ExtTreeMap.mem_toList_iff_getElem?_eq_some.mp hMem
  simp [countOf, hGet]

/- No element is dropped and none is counted twice. -/
theorem total_ofList
    {ks : List κ}
    (hLength : ks.length < 2 ^ 32) :
    total (ofList ks) = ks.length := by
  have hCounts :
      (ofList ks).keys.map (countOf (ofList ks)) =
        (ofList ks).keys.map (fun k => ks.count k) :=
    List.map_congr_left
      (fun k _ => countOf_ofList hLength k)
  unfold total
  rw [toList_eq_map_keys, hCounts]
  exact sum_map_count ExtTreeMap.nodup_keys
    (fun k hMem => (mem_keys_ofList_iff ks k).mpr hMem)

end Tally

------------------------------------------------------------
-- Groups
------------------------------------------------------------

namespace Tally

variable {γ κ : Type} [DecidableEq γ]

/- The elements listed with a group. -/
def inGroup
    (entries : List (γ × κ))
    (group : γ) : List κ :=
  (entries.filter (fun entry => entry.1 = group)).map
    Prod.snd

theorem length_inGroup_le
    (entries : List (γ × κ))
    (group : γ) :
    (inGroup entries group).length ≤ entries.length := by
  unfold inGroup
  rw [List.length_map]
  exact List.length_filter_le _ _

/- A pair is counted in its group as often as it occurs. -/
theorem count_inGroup
    [DecidableEq κ]
    (entries : List (γ × κ))
    (group : γ)
    (k : κ) :
    (inGroup entries group).count k =
      ((entries.filter (fun entry => entry.2 = k)).map
        Prod.fst).count group := by
  induction entries with
  | nil => rfl
  | cons entry entries ih =>
      rcases entry with ⟨group', k'⟩
      unfold inGroup at ih ⊢
      by_cases hGroup : group' = group
      · by_cases hKey : k' = k
        · simp [hGroup, hKey, ih]
        · simp [hGroup, hKey, ih]
      · by_cases hKey : k' = k
        · simp [hGroup, hKey, ih]
        · simp [hGroup, hKey, ih]

/- Grouped or not, a key occurs as often. -/
omit [DecidableEq γ] in
theorem length_filter_snd
    [DecidableEq κ]
    (entries : List (γ × κ))
    (k : κ) :
    ((entries.filter (fun entry => entry.2 = k)).map
        Prod.fst).length =
      (entries.map Prod.snd).count k := by
  rw [List.length_map, List.count_eq_countP,
    List.countP_map, List.countP_eq_length_filter]
  rfl

end Tally

------------------------------------------------------------
-- Counting In Groups
------------------------------------------------------------

namespace Tally

open Std (ExtTreeMap TransOrd LawfulEqOrd LawfulEqCmp)

variable {γ κ : Type}
variable [Ord γ] [TransOrd γ] [LawfulEqOrd γ] [DecidableEq γ]
variable [Ord κ] [TransOrd κ] [LawfulEqOrd κ] [DecidableEq κ]

/- `*m.entry(group).or_default().entry(k).or_default() += 1`. -/
def incrementIn
    (m : ExtTreeMap γ (ExtTreeMap κ UInt32))
    (entry : γ × κ) : ExtTreeMap γ (ExtTreeMap κ UInt32) :=
  m.alter entry.1
    (fun inner => some (increment (inner.getD ∅) entry.2))

/- The counts of each group. -/
def ofPairs
    (entries : List (γ × κ)) :
    ExtTreeMap γ (ExtTreeMap κ UInt32) :=
  entries.foldl incrementIn ∅

/- The counters of one key, summed over all groups. -/
def totalOf
    (m : ExtTreeMap γ (ExtTreeMap κ UInt32))
    (k : κ) : Nat :=
  (m.toList.map (fun entry => countOf entry.2 k)).sum

omit [DecidableEq γ] [LawfulEqOrd γ] in
omit [DecidableEq κ] [LawfulEqOrd κ] in
/- An entry at the end is counted last. -/
theorem ofPairs_concat
    (entries : List (γ × κ))
    (entry : γ × κ) :
    ofPairs (entries ++ [entry]) =
      incrementIn (ofPairs entries) entry := by
  simp [ofPairs]

omit [DecidableEq κ] [LawfulEqOrd κ] in
/- Each group counts what is in it. -/
theorem getElem?_ofPairs
    (entries : List (γ × κ))
    (group : γ) :
    (ofPairs entries)[group]? =
      if group ∈ entries.map Prod.fst then
        some (ofList (inGroup entries group))
      else
        none := by
  induction entries using List.reverseRecOn with
  | nil => simp [ofPairs]
  | append_singleton entries entry ih =>
      rcases entry with ⟨group', k⟩
      rw [ofPairs_concat]
      simp only [incrementIn, ExtTreeMap.getElem?_alter,
        LawfulEqCmp.compare_eq_iff_eq]
      by_cases hGroup : group' = group
      · subst hGroup
        have hInner :
            ((ofPairs entries)[group']?).getD ∅ =
              ofList (inGroup entries group') := by
          rw [ih]
          by_cases hMem : group' ∈ entries.map Prod.fst
          · simp [hMem]
          · have hEmpty : inGroup entries group' = [] := by
              simp only [inGroup, List.map_eq_nil_iff,
                List.filter_eq_nil_iff, decide_eq_true_eq]
              intro entry hEntry hFst
              exact hMem (hFst ▸ List.mem_map_of_mem hEntry)
            simp [hMem, hEmpty, ofList]
        rw [hInner]
        simp [inGroup, ofList]
      · have hNe : group ≠ group' := fun hEq => hGroup hEq.symm
        by_cases hMem : group ∈ entries.map Prod.fst
        · simp [hGroup, ih, hMem, inGroup]
        · simp [hGroup, hNe, ih, hMem]

omit [DecidableEq κ] [LawfulEqOrd κ] in
/- The groups are those of the entries. -/
theorem mem_keys_ofPairs_iff
    (entries : List (γ × κ))
    (group : γ) :
    group ∈ (ofPairs entries).keys ↔
      group ∈ entries.map Prod.fst := by
  rw [ExtTreeMap.mem_keys, ← ExtTreeMap.isSome_getElem?_iff_mem,
    getElem?_ofPairs]
  by_cases hMem : group ∈ entries.map Prod.fst
  · simp [hMem]
  · simp [hMem]

/- Grouping neither drops nor repeats an occurrence. -/
theorem totalOf_ofPairs
    {entries : List (γ × κ)}
    (hLength : entries.length < 2 ^ 32)
    (k : κ) :
    totalOf (ofPairs entries) k =
      (entries.map Prod.snd).count k := by
  let groups :=
    (entries.filter (fun entry => entry.2 = k)).map Prod.fst
  have hCounts :
      (ofPairs entries).toList.map
          (fun entry => countOf entry.2 k) =
        (ofPairs entries).keys.map
          (fun group => groups.count group) := by
    rw [← ExtTreeMap.map_fst_toList_eq_keys, List.map_map]
    refine List.map_congr_left (fun entry hMem => ?_)
    have hGet : (ofPairs entries)[entry.1]? = some entry.2 :=
      ExtTreeMap.mem_toList_iff_getElem?_eq_some.mp hMem
    rw [getElem?_ofPairs] at hGet
    split at hGet
    · have hShort :
          (inGroup entries entry.1).length < 2 ^ 32 :=
        Nat.lt_of_le_of_lt (length_inGroup_le _ _) hLength
      rw [← Option.some.inj hGet, countOf_ofList hShort,
        count_inGroup]
      rfl
    · simp at hGet
  have hGroups : ∀ group ∈ groups,
      group ∈ (ofPairs entries).keys := by
    intro group hMem
    rw [mem_keys_ofPairs_iff]
    rcases List.mem_map.mp hMem with ⟨entry, hEntry, rfl⟩
    exact List.mem_map_of_mem (List.mem_of_mem_filter hEntry)
  unfold totalOf
  rw [hCounts, sum_map_count ExtTreeMap.nodup_keys hGroups,
    length_filter_snd]

end Tally
