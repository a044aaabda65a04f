import EngenhoPromessa.Json.MergePatch

/-
  When a merge patch leaves exactly itself.

  Two values are the same when they agree at every path of
  keys; the order of an object's members does not count. A
  patch covers a target when it has no null member and a
  member wherever the target has one, at every depth at
  which both are objects.

  Key definitions include:
    * `Json.valueAt`
    * `Json.Same`
    * `Json.DistinctKeys`
    * `Json.Covers`

  Key theorems include:
    * `Json.same_obj_iff`
    * `Json.same_mergePatch_iff`
-/

------------------------------------------------------------
-- Sameness
------------------------------------------------------------

namespace Json

/- The value at the end of a path of keys. -/
def valueAt : List String → Json → Option Json
| [], j => some j
| key :: path, j => (j.get? key).bind (valueAt path)

/- A value without its members. -/
def shell : Json → Json
| .obj _ => .obj []
| .null => .null
| .bool b => .bool b
| .num n => .num n
| .str s => .str s
| .arr elems => .arr elems

/- The values agree wherever one can look. -/
def Same (a b : Json) : Prop :=
  ∀ path, (valueAt path a).map shell =
    (valueAt path b).map shell

theorem same_refl (j : Json) : Same j j :=
  fun _ => rfl

/- Both members are missing, or they have the same value. -/
def SameMember : Option Json → Option Json → Prop
| none, none => True
| some a, some b => Same a b
| none, some _ => False
| some _, none => False

/- Objects are the same if their members are, key by key. -/
theorem same_obj_iff
    {as bs : List (String × Json)} :
    Same (.obj as) (.obj bs) ↔
      ∀ key, SameMember (as.lookup key) (bs.lookup key) := by
  constructor
  · intro hSame key
    have hAt :
        ∀ path,
          ((as.lookup key).bind (valueAt path)).map shell =
            ((bs.lookup key).bind (valueAt path)).map
              shell :=
      fun path => hSame (key :: path)
    cases hLeft : as.lookup key with
    | none =>
        cases hRight : bs.lookup key with
        | none => trivial
        | some b => simpa [hLeft, hRight, valueAt] using hAt []
    | some a =>
        cases hRight : bs.lookup key with
        | none => simpa [hLeft, hRight, valueAt] using hAt []
        | some b =>
            intro path
            simpa [hLeft, hRight] using hAt path
  · intro hMembers path
    cases path with
    | nil => rfl
    | cons key path =>
        have hMember := hMembers key
        change ((as.lookup key).bind (valueAt path)).map
            shell =
          ((bs.lookup key).bind (valueAt path)).map shell
        cases hLeft : as.lookup key with
        | none =>
            cases hRight : bs.lookup key with
            | none => rfl
            | some b =>
                simp [hLeft, hRight, SameMember] at hMember
        | some a =>
            cases hRight : bs.lookup key with
            | none =>
                simp [hLeft, hRight, SameMember] at hMember
            | some b =>
                rw [hLeft, hRight] at hMember
                exact hMember path

end Json

------------------------------------------------------------
-- Covering Patches
------------------------------------------------------------

namespace Json

/- No object in the value has two members of one key. -/
inductive DistinctKeys : Json → Prop where
  | atomic
      {j : Json}
      (hAtomic : j.IsAtomic) :
      DistinctKeys j
  | object
      {ms : List (String × Json)}
      (hKeys : (ms.map Prod.fst).Nodup)
      (hValues :
        ∀ key v, ms.lookup key = some v → DistinctKeys v) :
      DistinctKeys (.obj ms)

/- The patch has a value for all that the target shows. -/
inductive Covers : Json → Json → Prop where
  | atomic
      {patch target : Json}
      (hAtomic : patch.IsAtomic) :
      Covers patch target
  | object
      {ms : List (String × Json)}
      {target : Json}
      (hGone :
        ∀ key, ms.lookup key = none →
          target.get? key = none)
      (hNull : ∀ key, ms.lookup key ≠ some .null)
      (hValues :
        ∀ key v, ms.lookup key = some v →
          Covers v ((target.get? key).getD .null)) :
      Covers (.obj ms) target

/- A member of a value with distinct keys has them too. -/
theorem distinctKeys_of_get?
    {j v : Json}
    {key : String}
    (hKeys : j.DistinctKeys)
    (hMember : j.get? key = some v) :
    v.DistinctKeys := by
  cases hKeys with
  | atomic hAtomic =>
      cases j with
      | obj ms => exact hAtomic.elim
      | null => simp [get?, members] at hMember
      | bool b => simp [get?, members] at hMember
      | num n => simp [get?, members] at hMember
      | str s => simp [get?, members] at hMember
      | arr elems => simp [get?, members] at hMember
  | object _ hValues => exact hValues _ _ hMember

/- One member has no key twice. -/
theorem distinctKeys_singleton
    {key : String}
    {v : Json}
    (hKeys : v.DistinctKeys) :
    DistinctKeys (.obj [(key, v)]) := by
  refine .object (by simp) (fun k w hMember => ?_)
  rw [lookup_cons_ite] at hMember
  split at hMember
  · rwa [← Option.some.inj hMember]
  · simp at hMember

/- What it takes for one member of a patch to be left. -/
theorem sameMember_mergeMember_iff
    (target member : Option Json) :
    SameMember (mergeMember target member) member ↔
      (member = none → target = none) ∧
        member ≠ some .null ∧
        ∀ v, member = some v →
          Same (mergePatch (target.getD .null) v) v := by
  cases member with
  | none => cases target <;> simp [SameMember]
  | some v =>
      by_cases hNull : v = .null
      · subst hNull
        simp [SameMember]
      · simp [mergeMember_some hNull, SameMember, hNull]

/-
  A patch is what it leaves of a target exactly when it
  covers it. The induction walks the objects of the patch.
-/
theorem same_mergePatch_iff
    {patch : Json}
    (hKeys : patch.DistinctKeys)
    (target : Json) :
    Same (mergePatch target patch) patch ↔
      Covers patch target := by
  induction hKeys generalizing target with
  | @atomic patch hAtomic =>
      rw [mergePatch_of_isAtomic hAtomic]
      exact ⟨fun _ => .atomic hAtomic,
        fun _ => same_refl patch⟩
  | @object ms hKeys hValues ih =>
      have hMembers :
          ∀ key,
            SameMember
                ((mergeMembers target.members ms).lookup key)
                (ms.lookup key) ↔
              (ms.lookup key = none →
                  target.get? key = none) ∧
                ms.lookup key ≠ some .null ∧
                ∀ v, ms.lookup key = some v →
                  Covers v
                    ((target.get? key).getD .null) := by
        intro key
        rw [lookup_mergeMembers hKeys,
          sameMember_mergeMember_iff]
        exact and_congr_right' (and_congr_right'
          (forall_congr' (fun v =>
            forall_congr' (fun hMember => ih key v hMember _))))
      rw [mergePatch, same_obj_iff]
      constructor
      · intro hSame
        exact .object
          (fun key => ((hMembers key).mp (hSame key)).1)
          (fun key => ((hMembers key).mp (hSame key)).2.1)
          (fun key => ((hMembers key).mp (hSame key)).2.2)
      · intro hCovers key
        cases hCovers with
        | atomic hAtomic => exact hAtomic.elim
        | object hGone hNull hCovered =>
            exact (hMembers key).mpr
              ⟨hGone key, hNull key, hCovered key⟩

end Json
