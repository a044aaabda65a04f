import EngenhoPromessa.Json.Equal
import EngenhoPromessa.Json.Rfc7396
import EngenhoPromessa.PromessaTypes.Action

/-
  The document a flux commit patches: the source's own merge,
  which is the one RFC 7396 describes, and the documents a
  sequence of commits goes through.

  Key definitions include:
    * `FluxCommit.mergeJson`
    * `TypedAction.fluxCommits`
    * `FluxCommit.applyCommits`

  Key theorems include:
    * `FluxCommit.mergeJson_eq_mergePatch`
    * `FluxCommit.mergeJson_isMergePatch`
-/

------------------------------------------------------------
-- Merging
------------------------------------------------------------

namespace EngenhoPromessa

namespace FluxCommit

mutual

/-
  `merge_json`: a target that is no object has no members,
  so it is made an empty one before the patch is merged in.
-/
def mergeJson (target : Json) : Json → Json
| .obj patchObj =>
    .obj (mergeEntries target.members patchObj)
| .null => .null
| .bool b => .bool b
| .num n => .num n
| .str s => .str s
| .arr elems => .arr elems

/- The loop over the patch; a missing entry starts as null. -/
def mergeEntries (target : List (String × Json)) :
    List (String × Json) → List (String × Json)
| [] => target
| (k, .null) :: patch =>
    mergeEntries (Json.removeMember k target) patch
| (k, v) :: patch =>
    let entry := (target.lookup k).getD .null
    mergeEntries
      (Json.insertMember k (mergeJson entry v) target) patch

end

mutual

/- The merge is the one RFC 7396 describes. -/
theorem mergeJson_eq_mergePatch
    (target patch : Json) :
    mergeJson target patch =
      Json.mergePatch target patch := by
  cases patch with
  | obj patchObj =>
      rw [mergeJson, Json.mergePatch,
        mergeEntries_eq_mergeMembers]
  | null => rfl
  | bool b => rfl
  | num n => rfl
  | str s => rfl
  | arr elems => rfl

/- The two ways of merging members are one. -/
theorem mergeEntries_eq_mergeMembers
    (target patch : List (String × Json)) :
    mergeEntries target patch =
      Json.mergeMembers target patch := by
  cases patch with
  | nil => rfl
  | cons m patch =>
      rcases m with ⟨k, v⟩
      cases v with
      | null =>
          rw [mergeEntries, Json.mergeMembers,
            mergeEntries_eq_mergeMembers]
      | obj ms =>
          simp only [mergeEntries, Json.mergeMembers,
            mergeEntries_eq_mergeMembers _ patch,
            mergeJson_eq_mergePatch _ (.obj ms)]
      | bool b =>
          simp only [mergeEntries, Json.mergeMembers,
            mergeEntries_eq_mergeMembers _ patch,
            mergeJson_eq_mergePatch _ (.bool b)]
      | num n =>
          simp only [mergeEntries, Json.mergeMembers,
            mergeEntries_eq_mergeMembers _ patch,
            mergeJson_eq_mergePatch _ (.num n)]
      | str s =>
          simp only [mergeEntries, Json.mergeMembers,
            mergeEntries_eq_mergeMembers _ patch,
            mergeJson_eq_mergePatch _ (.str s)]
      | arr elems =>
          simp only [mergeEntries, Json.mergeMembers,
            mergeEntries_eq_mergeMembers _ patch,
            mergeJson_eq_mergePatch _ (.arr elems)]

end

/- A member after a merge of an object, key by key. -/
theorem get?_mergeJson_obj
    {patch : List (String × Json)}
    (hKeys : (patch.map Prod.fst).Nodup)
    (target : Json)
    (key : String) :
    (mergeJson target (.obj patch)).get? key =
      Json.mergeMember (target.get? key)
        (patch.lookup key) := by
  rw [mergeJson_eq_mergePatch, Json.mergePatch, Json.get?_obj,
    Json.lookup_mergeMembers hKeys]
  rfl

end FluxCommit

end EngenhoPromessa

------------------------------------------------------------
-- The Merge Of The RFC
------------------------------------------------------------

namespace EngenhoPromessa

namespace FluxCommit

/- A key that the patch does not name keeps its value. -/
theorem get?_mergeJson_of_unnamed
    {patch : List (String × Json)}
    {key : String}
    (hUnnamed : patch.lookup key = none)
    (target : Json) :
    (mergeJson target (.obj patch)).get? key =
      target.get? key := by
  have hNone : Json.valuesUnder key patch = [] := by
    refine List.map_eq_nil_iff.mpr ?_
    refine List.filter_eq_nil_iff.mpr ?_
    intro m hm hEq
    have hNe : key ≠ m.1 :=
      bne_iff_ne.mp (List.lookup_eq_none_iff.mp hUnnamed m hm)
    exact hNe (of_decide_eq_true hEq).symm
  rw [mergeJson_eq_mergePatch, Json.mergePatch, Json.get?_obj,
    Json.lookup_mergeMembers_eq_foldl, hNone]
  rfl

/-
  The merge is the pseudo-code's, it leaves alone what the
  patch does not name, and the second of two merges changes
  nothing: neither as values, nor in the order of members
  when the patch is a map.
-/
theorem mergeJson_isMergePatch (target patch : Json) :
    mergeJson target patch =
        Json.rfcMergePatch (some target) patch ∧
      (∀ patchObj key,
        patch = .obj patchObj →
          patchObj.lookup key = none →
            (mergeJson target patch).get? key =
              target.get? key) ∧
      Json.Equal (mergeJson (mergeJson target patch) patch)
        (mergeJson target patch) ∧
      (patch.DistinctKeys →
        mergeJson (mergeJson target patch) patch =
          mergeJson target patch) := by
  refine ⟨?_, ?_, ?_, ?_⟩
  · rw [mergeJson_eq_mergePatch,
      Json.rfcMergePatch_eq_mergePatch, Option.getD_some]
  · rintro patchObj key rfl hUnnamed
    exact get?_mergeJson_of_unnamed hUnnamed target
  · simp only [mergeJson_eq_mergePatch]
    exact Json.equal_mergePatch_twice target patch
  · intro hKeys
    simp only [mergeJson_eq_mergePatch]
    exact Json.mergePatch_twice hKeys target

/- A tag is set beside a digest that is null. -/
theorem mergeJson_isMergePatch_tag :
    let patch :=
      Json.obj [("image", .obj [("tag", .str "1.2")])]
    let target :=
      Json.obj [("image", .obj [("digest", .null)])]
    patch.DistinctKeys ∧
      mergeJson (mergeJson target patch) patch =
        mergeJson target patch := by
  intro patch target
  have hKeys : patch.DistinctKeys :=
    Json.distinctKeys_singleton
      (Json.distinctKeys_singleton (.atomic trivial))
  exact ⟨hKeys,
    (mergeJson_isMergePatch target patch).2.2.2 hKeys⟩

end FluxCommit

end EngenhoPromessa

------------------------------------------------------------
-- The Commits Of An Action
------------------------------------------------------------

namespace EngenhoPromessa

namespace TypedAction

mutual

/- The path and the patch of every flux commit, in order. -/
def fluxCommits : TypedAction → List (String × Json)
| .fluxCommit path patch => [(path, patch)]
| .compose steps => fluxCommitsSteps steps
| _ => []

/- The same of the steps of a compose, in order. -/
def fluxCommitsSteps :
    List TypedAction → List (String × Json)
| [] => []
| step :: steps => fluxCommits step ++ fluxCommitsSteps steps

end

theorem fluxCommitsSteps_eq_flatMap
    (steps : List TypedAction) :
    fluxCommitsSteps steps = steps.flatMap fluxCommits := by
  induction steps with
  | nil => rfl
  | cons step steps ih =>
      rw [fluxCommitsSteps, ih, List.flatMap_cons]

end TypedAction

namespace Decision

/- What a decision commits, approved or not. -/
def fluxCommits : Decision → List (String × Json)
| .noAction => []
| .autoCorrect action => action.fluxCommits
| .requireApproval action => action.fluxCommits
| .alert => []
| .suppressedAfterRepeatedFailure _ => []

end Decision

namespace FluxCommit

/- The document after the commits that name its path. -/
def applyCommits
    (path : String)
    (commits : List (String × Json))
    (document : Json) : Json :=
  (commits.filter (fun c => c.1 = path)).foldl
    (fun document c => mergeJson document c.2) document

end FluxCommit

end EngenhoPromessa
