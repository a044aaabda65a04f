import EngenhoPromessa.Json.Value

/-
  JSON merge patch, RFC 7396.

  A patch that is an object is merged member by member: a
  null member removes the target's, any other member is
  merged into the target's own member of that key. A patch
  that is not an object replaces the target.

  Key definitions include:
    * `Json.mergePatch`
    * `Json.mergeMembers`
    * `Json.mergeMember`

  Key theorems include:
    * `Json.lookup_mergeMembers`
    * `Json.mergePatch_of_isAtomic`
    * `Json.mergePatch_ne_null`
-/

------------------------------------------------------------
-- Merging
------------------------------------------------------------

namespace Json

mutual

/- The RFC's `MergePatch(Target, Patch)`. -/
def mergePatch (target : Json) : Json → Json
| .obj patch => .obj (mergeMembers target.members patch)
| .null => .null
| .bool b => .bool b
| .num n => .num n
| .str s => .str s
| .arr elems => .arr elems

/- Merge the members of an object patch one after another. -/
def mergeMembers (target : List (String × Json)) :
    List (String × Json) → List (String × Json)
| [] => target
| (key, .null) :: patch =>
    mergeMembers (removeMember key target) patch
| (key, value) :: patch =>
    mergeMembers
      (insertMember key
        (mergePatch ((target.lookup key).getD .null) value)
        target)
      patch

end

/-
  What a merge leaves under one key, given what the target
  and the patch have there.
-/
def mergeMember
    (target : Option Json) :
    Option Json → Option Json
| none => target
| some .null => none
| some value =>
    some (mergePatch (target.getD .null) value)

/- A patch that is not an object replaces the target. -/
theorem mergePatch_of_isAtomic
    {patch : Json}
    (hAtomic : patch.IsAtomic)
    (target : Json) :
    mergePatch target patch = patch := by
  cases patch with
  | obj ms => exact hAtomic.elim
  | null => rfl
  | bool b => rfl
  | num n => rfl
  | str s => rfl
  | arr elems => rfl

/- Only a null patch merges to null. -/
theorem mergePatch_ne_null
    {patch : Json}
    (hPatch : patch ≠ .null)
    (target : Json) :
    mergePatch target patch ≠ .null := by
  cases patch with
  | null => exact absurd rfl hPatch
  | obj ms => simp [mergePatch]
  | bool b => simp [mergePatch]
  | num n => simp [mergePatch]
  | str s => simp [mergePatch]
  | arr elems => simp [mergePatch]

@[simp] theorem mergeMember_none
    (target : Option Json) :
    mergeMember target none = target := rfl

@[simp] theorem mergeMember_null
    (target : Option Json) :
    mergeMember target (some .null) = none := rfl

/- Any other value is merged into what is there. -/
theorem mergeMember_some
    {patch : Json}
    (hPatch : patch ≠ .null)
    (target : Option Json) :
    mergeMember target (some patch) =
      some (mergePatch (target.getD .null) patch) := by
  cases patch with
  | null => exact absurd rfl hPatch
  | obj ms => rfl
  | bool b => rfl
  | num n => rfl
  | str s => rfl
  | arr elems => rfl

/- A simple value replaces what is there. -/
theorem mergeMember_some_of_isAtomic
    {patch : Json}
    (hPatch : patch ≠ .null)
    (hAtomic : patch.IsAtomic)
    (target : Option Json) :
    mergeMember target (some patch) = some patch := by
  rw [mergeMember_some hPatch,
    mergePatch_of_isAtomic hAtomic]

/- An object patch starts from an empty object at a gap. -/
theorem mergeMember_some_obj
    (target : Option Json)
    (ms : List (String × Json)) :
    mergeMember target (some (.obj ms)) =
      some (.obj
        (mergeMembers (target.getD .null).members ms)) :=
  rfl

end Json

------------------------------------------------------------
-- Members Of The Result
------------------------------------------------------------

namespace Json

/- The members of a patch are merged one by one. -/
theorem mergeMembers_cons
    (target patch : List (String × Json))
    (key : String)
    (value : Json)
    (hValue : value ≠ .null) :
    mergeMembers target ((key, value) :: patch) =
      mergeMembers
        (insertMember key
          (mergePatch
            ((target.lookup key).getD .null) value)
          target)
        patch := by
  cases value with
  | null => exact absurd rfl hValue
  | obj ms => simp only [mergeMembers]
  | bool b => simp only [mergeMembers]
  | num n => simp only [mergeMembers]
  | str s => simp only [mergeMembers]
  | arr elems => simp only [mergeMembers]

/-
  The merge acts on each key by itself. The induction walks
  the patch; a key occurs in it once, so once its member has
  been merged the rest of the patch leaves it alone.
-/
theorem lookup_mergeMembers
    {patch : List (String × Json)}
    (hKeys : (patch.map Prod.fst).Nodup)
    (target : List (String × Json))
    (key : String) :
    (mergeMembers target patch).lookup key =
      mergeMember (target.lookup key)
        (patch.lookup key) := by
  induction patch generalizing target with
  | nil =>
      simp [mergeMembers]
  | cons m patch ih =>
      rcases m with ⟨k, value⟩
      rcases List.nodup_cons.mp hKeys with ⟨hNot, hRest⟩
      have hGone : patch.lookup k = none := by
        rw [List.lookup_eq_none_iff]
        intro m hm
        apply bne_iff_ne.mpr
        intro hEq
        exact hNot (List.mem_map.mpr ⟨m, hm, hEq.symm⟩)
      by_cases hValue : value = .null
      · subst hValue
        rw [mergeMembers, ih hRest,
          lookup_removeMember, lookup_cons_ite]
        by_cases hk : key = k
        · subst hk
          simp [hGone]
        · simp [hk]
      · rw [mergeMembers_cons _ _ _ _ hValue, ih hRest,
          lookup_insertMember, lookup_cons_ite]
        by_cases hk : key = k
        · subst hk
          simp [hGone, mergeMember_some hValue]
        · simp [hk]

end Json
