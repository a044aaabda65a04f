import EngenhoPromessa.Json.Cover

/-
  The pseudo-code of RFC 7396, and the merge twice.

  The RFC tells a name that does not exist from one that is
  null; a merge that starts missing members from null comes
  to the same. A second merge of a patch finds every member
  as it would leave it.

  Key definitions include:
    * `Json.rfcMergePatch`

  Key theorems include:
    * `Json.rfcMergePatch_eq_mergePatch`
    * `Json.mergePatch_twice`
-/

------------------------------------------------------------
-- The Pseudo-Code
------------------------------------------------------------

namespace Json

/- A target that is not an object is made an empty one. -/
def objectOrEmpty :
    Option Json → List (String × Json)
| some (.obj ms) => ms
| _ => []

mutual

/-
  `MergePatch(Target, Patch)`. The target is `none` when it
  is a name's value and the name does not exist.
-/
def rfcMergePatch (target : Option Json) : Json → Json
| .obj pairs => .obj (rfcMergePairs (objectOrEmpty target) pairs)
| .null => .null
| .bool b => .bool b
| .num n => .num n
| .str s => .str s
| .arr elems => .arr elems

/- For each name/value pair in the patch. -/
def rfcMergePairs (target : List (String × Json)) :
    List (String × Json) → List (String × Json)
| [] => target
| (name, .null) :: pairs =>
    if (target.lookup name).isSome then
      rfcMergePairs (removeMember name target) pairs
    else
      rfcMergePairs target pairs
| (name, value) :: pairs =>
    rfcMergePairs
      (insertMember name
        (rfcMergePatch (target.lookup name) value) target)
      pairs

end

/- A key that is not there is not removed. -/
theorem removeMember_of_lookup_eq_none
    {key : String}
    {ms : List (String × Json)}
    (hNone : ms.lookup key = none) :
    removeMember key ms = ms := by
  refine List.filter_eq_self.mpr ?_
  intro m hm
  have hNe : key ≠ m.1 :=
    bne_iff_ne.mp (List.lookup_eq_none_iff.mp hNone m hm)
  exact decide_eq_true (Ne.symm hNe)

/- A value that is there already is not inserted again. -/
theorem insertMember_of_lookup_eq_some
    {key : String}
    {value : Json}
    {ms : List (String × Json)}
    (hSome : ms.lookup key = some value) :
    insertMember key value ms = ms := by
  induction ms with
  | nil => simp at hSome
  | cons m ms ih =>
      rcases m with ⟨k, v⟩
      rw [lookup_cons_ite] at hSome
      by_cases hk : k = key
      · rw [if_pos hk.symm] at hSome
        cases hSome
        rw [insertMember, if_pos hk, hk]
      · rw [if_neg (Ne.symm hk)] at hSome
        rw [insertMember, if_neg hk, ih hSome]

theorem objectOrEmpty_eq_members (target : Option Json) :
    objectOrEmpty target = (target.getD .null).members := by
  cases target with
  | none => rfl
  | some j => cases j <;> rfl

mutual

/- What is missing may as well be null. -/
theorem rfcMergePatch_eq_mergePatch
    (target : Option Json)
    (patch : Json) :
    rfcMergePatch target patch =
      mergePatch (target.getD .null) patch := by
  cases patch with
  | obj pairs =>
      rw [rfcMergePatch, mergePatch, objectOrEmpty_eq_members,
        rfcMergePairs_eq_mergeMembers]
  | null => rfl
  | bool b => rfl
  | num n => rfl
  | str s => rfl
  | arr elems => rfl

/- The two ways of merging members are one. -/
theorem rfcMergePairs_eq_mergeMembers
    (target pairs : List (String × Json)) :
    rfcMergePairs target pairs = mergeMembers target pairs := by
  cases pairs with
  | nil => rfl
  | cons m pairs =>
      rcases m with ⟨name, value⟩
      cases value with
      | null =>
          rw [rfcMergePairs, mergeMembers,
            rfcMergePairs_eq_mergeMembers _ pairs,
            rfcMergePairs_eq_mergeMembers _ pairs]
          cases hName : target.lookup name with
          | none =>
              rw [removeMember_of_lookup_eq_none hName]
              rfl
          | some value => rfl
      | obj ms =>
          simp only [rfcMergePairs, mergeMembers,
            rfcMergePairs_eq_mergeMembers _ pairs,
            rfcMergePatch_eq_mergePatch _ (.obj ms)]
      | bool b =>
          simp only [rfcMergePairs, mergeMembers,
            rfcMergePairs_eq_mergeMembers _ pairs,
            rfcMergePatch_eq_mergePatch _ (.bool b)]
      | num n =>
          simp only [rfcMergePairs, mergeMembers,
            rfcMergePairs_eq_mergeMembers _ pairs,
            rfcMergePatch_eq_mergePatch _ (.num n)]
      | str s =>
          simp only [rfcMergePairs, mergeMembers,
            rfcMergePairs_eq_mergeMembers _ pairs,
            rfcMergePatch_eq_mergePatch _ (.str s)]
      | arr elems =>
          simp only [rfcMergePairs, mergeMembers,
            rfcMergePairs_eq_mergeMembers _ pairs,
            rfcMergePatch_eq_mergePatch _ (.arr elems)]

end

end Json

------------------------------------------------------------
-- Merging Twice
------------------------------------------------------------

namespace Json

/- The members are as the patch would leave them. -/
def Merged (ms patch : List (String × Json)) : Prop :=
  ∀ m ∈ patch,
    mergeMember (ms.lookup m.1) (some m.2) = ms.lookup m.1

/- Members that are merged already stay as they are. -/
theorem mergeMembers_of_merged
    {ms patch : List (String × Json)}
    (hMerged : Merged ms patch) :
    mergeMembers ms patch = ms := by
  induction patch with
  | nil => simp [mergeMembers]
  | cons m patch ih =>
      rcases m with ⟨key, value⟩
      have hHead := hMerged _ List.mem_cons_self
      have hTail : Merged ms patch :=
        fun m hm => hMerged m (List.mem_cons_of_mem _ hm)
      by_cases hValue : value = .null
      · subst hValue
        rw [mergeMember_null] at hHead
        rw [mergeMembers,
          removeMember_of_lookup_eq_none hHead.symm, ih hTail]
      · rw [mergeMember_some hValue] at hHead
        rw [mergeMembers_cons _ _ _ _ hValue,
          insertMember_of_lookup_eq_some hHead.symm, ih hTail]

/- With distinct keys a member is found under its own. -/
theorem lookup_eq_some_of_mem
    {ms : List (String × Json)}
    (hKeys : (ms.map Prod.fst).Nodup)
    {m : String × Json}
    (hm : m ∈ ms) :
    ms.lookup m.1 = some m.2 := by
  induction ms with
  | nil => simp at hm
  | cons n ms ih =>
      rcases n with ⟨k, v⟩
      rcases List.nodup_cons.mp hKeys with ⟨hNot, hRest⟩
      rw [lookup_cons_ite]
      rcases List.mem_cons.mp hm with rfl | hMem
      · simp
      · have hNe : m.1 ≠ k := by
          intro hEq
          exact hNot (List.mem_map.mpr ⟨m, hMem, hEq⟩)
        rw [if_neg hNe, ih hRest hMem]

/-
  A second merge changes nothing, not even the order of the
  members. The induction is on the objects of the patch.
-/
theorem mergePatch_twice
    {patch : Json}
    (hKeys : patch.DistinctKeys)
    (target : Json) :
    mergePatch (mergePatch target patch) patch =
      mergePatch target patch := by
  induction hKeys generalizing target with
  | atomic hAtomic =>
      rw [mergePatch_of_isAtomic hAtomic,
        mergePatch_of_isAtomic hAtomic]
  | @object ms hKeys hValues ih =>
      have hMerged :
          Merged (mergeMembers target.members ms) ms := by
        intro m hm
        have hLookup := lookup_eq_some_of_mem hKeys hm
        rw [lookup_mergeMembers hKeys, hLookup]
        by_cases hNull : m.2 = .null
        · rw [hNull]
          rfl
        · rw [mergeMember_some hNull, mergeMember_some hNull,
            Option.getD_some, ih _ _ hLookup]
      rw [mergePatch, mergePatch, members,
        mergeMembers_of_merged hMerged]

end Json
