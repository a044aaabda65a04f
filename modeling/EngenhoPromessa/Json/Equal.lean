import Mathlib.Algebra.GroupWithZero.Nat
import EngenhoPromessa.Json.MergePatch

/-
  Equality of JSON values, and what it says of merges.

  Two values are equal when they agree at every path of keys
  and indices. The order of an object's members does not
  count, and neither does the sign of a zero.

  Key definitions include:
    * `Json.partAt`
    * `Json.Alike`
    * `Json.Equal`
    * `Json.equals`

  Key theorems include:
    * `Json.equals_iff`
    * `Json.equal_mergePatch_of_equal`
    * `Json.equal_mergePatch_twice`
-/

------------------------------------------------------------
-- Paths
------------------------------------------------------------

namespace JsonNumber

/- A float's bit pattern, with one pattern for zero. -/
def normal : JsonNumber → JsonNumber
| .int n => .int n
| .float bits =>
    if bits = 0x8000000000000000 then
      .float 0
    else
      .float bits

end JsonNumber

namespace Json

/- One step into a value. -/
inductive Step where
  | key (name : String)
  | index (i : Nat)

/- What lies one step into a value. -/
def part : Step → Json → Option Json
| .key name, j => j.get? name
| .index i, .arr elems => elems[i]?
| .index _, _ => none

/- The value at the end of a path. -/
def partAt : List Step → Json → Option Json
| [], j => some j
| s :: path, j => (part s j).bind (partAt path)

/- A value without its parts. -/
def outline : Json → Json
| .obj _ => .obj []
| .arr _ => .arr []
| .num n => .num n.normal
| .null => .null
| .bool b => .bool b
| .str s => .str s

/- Both are missing, or they agree at every path. -/
def Alike (o p : Option Json) : Prop :=
  ∀ path, (o.bind (partAt path)).map outline =
    (p.bind (partAt path)).map outline

/- The values look alike down every path. -/
def Equal (a b : Json) : Prop :=
  Alike (some a) (some b)

/- Alikeness is an equivalence: each is like itself. -/
theorem alike_refl (o : Option Json) : Alike o o :=
  fun _ => rfl

/- It does not matter which one comes first. -/
theorem alike_symm
    {o p : Option Json}
    (hAlike : Alike o p) :
    Alike p o :=
  fun path => (hAlike path).symm

theorem alike_trans
    {o p q : Option Json}
    (hFirst : Alike o p)
    (hSecond : Alike p q) :
    Alike o q :=
  fun path => (hFirst path).trans (hSecond path)

/- Alike values have alike parts. -/
theorem alike_part
    {o p : Option Json}
    (hAlike : Alike o p)
    (s : Step) :
    Alike (o.bind (part s)) (p.bind (part s)) := by
  intro path
  simpa [partAt, Option.bind_assoc] using
    hAlike (s :: path)

/- Equal values look alike and have equal parts. -/
theorem equal_iff
    {a b : Json} :
    Equal a b ↔
      a.outline = b.outline ∧
        ∀ s, Alike (part s a) (part s b) := by
  constructor
  · intro hEqual
    refine ⟨?_, fun s => alike_part hEqual s⟩
    simpa [partAt] using hEqual []
  · rintro ⟨hOutline, hParts⟩ path
    cases path with
    | nil => simpa [partAt] using hOutline
    | cons s path => exact hParts s path

/- What is like a value is a value equal to it. -/
theorem alike_some_iff
    {a : Json}
    {p : Option Json} :
    Alike (some a) p ↔ ∃ b, p = some b ∧ Equal a b := by
  constructor
  · intro hAlike
    cases p with
    | none => simpa [partAt] using hAlike []
    | some b => exact ⟨b, rfl, hAlike⟩
  · rintro ⟨b, rfl, hEqual⟩
    exact hEqual

/- Only nothing is like nothing. -/
theorem alike_none_iff
    {p : Option Json} :
    Alike none p ↔ p = none := by
  constructor
  · intro hAlike
    cases p with
    | none => rfl
    | some b => simpa [partAt] using hAlike []
  · rintro rfl
    exact alike_refl none

/- Values without parts are equal by their outline. -/
theorem equal_iff_outline
    {a b : Json}
    (hLeft : ∀ s, part s a = none)
    (hRight : ∀ s, part s b = none) :
    Equal a b ↔ a.outline = b.outline := by
  rw [equal_iff]
  constructor
  · rintro ⟨hOutline, _⟩
    exact hOutline
  · intro hOutline
    refine ⟨hOutline, ?_⟩
    intro s
    rw [hLeft s, hRight s]
    exact alike_refl none

@[simp] theorem part_null (s : Step) :
    part s .null = none := by
  cases s <;> rfl

@[simp] theorem part_bool (s : Step) (b : Bool) :
    part s (.bool b) = none := by
  cases s <;> rfl

@[simp] theorem part_num (s : Step) (n : JsonNumber) :
    part s (.num n) = none := by
  cases s <;> rfl

@[simp] theorem part_str (s : Step) (t : String) :
    part s (.str t) = none := by
  cases s <;> rfl

/- Objects are equal when their members are, key by key. -/
theorem equal_obj_iff
    {as bs : List (String × Json)} :
    Equal (.obj as) (.obj bs) ↔
      ∀ key, Alike (as.lookup key) (bs.lookup key) := by
  rw [equal_iff]
  constructor
  · intro hEqual key
    exact hEqual.2 (.key key)
  · intro hMembers
    refine ⟨rfl, ?_⟩
    intro s
    cases s with
    | key name => exact hMembers name
    | index i => exact alike_refl none

/- Arrays are equal element by element. -/
theorem equal_arr_iff
    {as bs : List Json} :
    Equal (.arr as) (.arr bs) ↔
      ∀ i : Nat, Alike as[i]? bs[i]? := by
  rw [equal_iff]
  constructor
  · intro hEqual i
    exact hEqual.2 (.index i)
  · intro hElems
    refine ⟨rfl, ?_⟩
    intro s
    cases s with
    | key name => exact alike_refl none
    | index i => exact hElems i

end Json

------------------------------------------------------------
-- The Test
------------------------------------------------------------

namespace Json

mutual

/-
  `==` on values: maps of one size whose entries are equal.
  A key that comes again in a list is no entry of the map.
-/
def equals : Json → Json → Bool
| .null, .null => true
| .bool a, .bool b => a == b
| .num a, .num b => a.normal == b.normal
| .str a, .str b => a == b
| .arr as, .arr bs => equalElems as bs
| .obj as, .obj bs =>
    equalMembers as [] bs &&
      bs.all (fun m => (as.lookup m.1).isSome)
| _, _ => false

/- Arrays of one length with equal elements. -/
def equalElems : List Json → List Json → Bool
| [], [] => true
| a :: as, b :: bs => equals a b && equalElems as bs
| _, _ => false

/- Every entry of the first is one of the second. -/
def equalMembers :
    List (String × Json) → List String →
      List (String × Json) → Bool
| [], _, _ => true
| (key, a) :: as, seen, bs =>
    (seen.contains key ||
      match bs.lookup key with
      | some b => equals a b
      | none => false) &&
    equalMembers as (key :: seen) bs

end

/- What the walk over the entries finds out. -/
def CoversUnseen
    (as : List (String × Json))
    (seen : List String)
    (bs : List (String × Json)) : Prop :=
  ∀ key, key ∉ seen →
    (as.lookup key).isSome = true →
      Alike (as.lookup key) (bs.lookup key)

/- Objects are equal if each covers the other's keys. -/
theorem equal_obj_iff_covers
    {as bs : List (String × Json)} :
    Equal (.obj as) (.obj bs) ↔
      CoversUnseen as [] bs ∧
        ∀ m ∈ bs, (as.lookup m.1).isSome = true := by
  rw [equal_obj_iff]
  constructor
  · intro hMembers
    refine ⟨fun key _ _ => hMembers key, ?_⟩
    intro m hm
    have hSome : (bs.lookup m.1).isSome = true := by
      rw [List.lookup_isSome_iff]
      exact ⟨m, hm, by simp⟩
    cases hLeft : as.lookup m.1 with
    | some a => rfl
    | none =>
        have hAlike := hMembers m.1
        rw [hLeft, alike_none_iff] at hAlike
        rw [hAlike] at hSome
        exact hSome
  · rintro ⟨hCovers, hBack⟩ key
    cases hLeft : as.lookup key with
    | some a =>
        rw [← hLeft]
        exact hCovers key (by simp) (by simp [hLeft])
    | none =>
        rw [alike_none_iff, List.lookup_eq_none_iff]
        intro m hm
        apply bne_iff_ne.mpr
        rintro rfl
        have hSome := hBack m hm
        rw [hLeft] at hSome
        simp at hSome

/- The walk, by induction on the entries still to come. -/
theorem coversUnseen_cons_iff
    {key : String}
    {a : Json}
    {as bs : List (String × Json)}
    {seen : List String} :
    CoversUnseen ((key, a) :: as) seen bs ↔
      (key ∈ seen ∨ Alike (some a) (bs.lookup key)) ∧
        CoversUnseen as (key :: seen) bs := by
  constructor
  · intro hCovers
    constructor
    · by_cases hSeen : key ∈ seen
      · exact Or.inl hSeen
      · right
        simpa using hCovers key hSeen (by simp)
    · intro k hUnseen hSome
      rw [List.mem_cons, not_or] at hUnseen
      rcases hUnseen with ⟨hk, hSeen⟩
      have hSkip :
          ((key, a) :: as).lookup k = as.lookup k := by
        rw [lookup_cons_ite, if_neg hk]
      have hAlike := hCovers k hSeen
      rw [hSkip] at hAlike
      exact hAlike hSome
  · rintro ⟨hHead, hTail⟩ k hSeen hSome
    rw [lookup_cons_ite] at hSome ⊢
    by_cases hk : k = key
    · subst hk
      rw [if_pos rfl]
      exact hHead.resolve_left hSeen
    · rw [if_neg hk] at hSome ⊢
      exact hTail k (by simp [hk, hSeen]) hSome

mutual

/- The check decides equality. -/
theorem equals_iff (a b : Json) :
    equals a b = true ↔ Equal a b := by
  cases a with
  | obj as =>
      cases b with
      | obj bs =>
          rw [equals, Bool.and_eq_true,
            equalMembers_iff as [] bs, List.all_eq_true,
            equal_obj_iff_covers]
      | _ => simp [equals, equal_iff, outline]
  | arr as =>
      cases b with
      | arr bs =>
          rw [equals, equalElems_iff as bs, equal_arr_iff]
      | _ => simp [equals, equal_iff, outline]
  | null =>
      cases b with
      | null => simp [equals, equal_iff_outline]
      | _ => simp [equals, equal_iff, outline]
  | bool x =>
      cases b with
      | bool y => simp [equals, equal_iff_outline, outline]
      | _ => simp [equals, equal_iff, outline]
  | num m =>
      cases b with
      | num n => simp [equals, equal_iff_outline, outline]
      | _ => simp [equals, equal_iff, outline]
  | str x =>
      cases b with
      | str y => simp [equals, equal_iff_outline, outline]
      | _ => simp [equals, equal_iff, outline]

/- The check of the elements decides theirs. -/
theorem equalElems_iff (as bs : List Json) :
    equalElems as bs = true ↔
      ∀ i : Nat, Alike as[i]? bs[i]? := by
  cases as with
  | nil =>
      cases bs with
      | nil =>
          simp only [equalElems, true_iff]
          exact fun i => alike_refl none
      | cons b bs =>
          simp only [equalElems, Bool.false_eq_true,
            false_iff]
          intro hElems
          simpa using alike_none_iff.mp (hElems 0)
  | cons a as =>
      cases bs with
      | nil =>
          simp only [equalElems, Bool.false_eq_true,
            false_iff]
          intro hElems
          rcases alike_some_iff.mp (hElems 0) with
            ⟨b, hNone, _⟩
          simp at hNone
      | cons b bs =>
          rw [equalElems, Bool.and_eq_true, equals_iff a b,
            equalElems_iff as bs]
          constructor
          · rintro ⟨hHead, hTail⟩ i
            cases i with
            | zero => exact hHead
            | succ i => exact hTail i
          · intro hElems
            exact ⟨hElems 0, fun i => hElems (i + 1)⟩

/- The check of the members decides their covering. -/
theorem equalMembers_iff
    (as : List (String × Json))
    (seen : List String)
    (bs : List (String × Json)) :
    equalMembers as seen bs = true ↔
      CoversUnseen as seen bs := by
  cases as with
  | nil => simp [equalMembers, CoversUnseen]
  | cons m as =>
      rcases m with ⟨key, a⟩
      rw [coversUnseen_cons_iff, equalMembers,
        Bool.and_eq_true, Bool.or_eq_true,
        equalMembers_iff as (key :: seen) bs,
        List.contains_iff_mem]
      cases hFound : bs.lookup key with
      | none => simp [alike_some_iff]
      | some b => simp [equals_iff a b, Equal]

end

end Json

------------------------------------------------------------
-- Merging Into Equal Values
------------------------------------------------------------

namespace Json

/- One value of a patch, merged into what is there. -/
def mergeValue
    (target : Option Json)
    (value : Json) : Option Json :=
  mergeMember target (some value)

/- The values a list holds under a key, in their order. -/
def valuesUnder
    (key : String)
    (ms : List (String × Json)) : List Json :=
  (ms.filter (fun m => m.1 = key)).map Prod.snd

/- A member counts under its own key only. -/
theorem valuesUnder_cons
    (key : String)
    (m : String × Json)
    (ms : List (String × Json)) :
    valuesUnder key (m :: ms) =
      if m.1 = key then m.2 :: valuesUnder key ms
      else valuesUnder key ms := by
  by_cases hKey : m.1 = key
  · simp [valuesUnder, hKey]
  · simp [valuesUnder, hKey]

/- One member of a patch changes what its key holds. -/
theorem mergeMembers_cons_eq
    (target patch : List (String × Json))
    (key : String)
    (value : Json) :
    ∃ next, mergeMembers target ((key, value) :: patch) =
        mergeMembers next patch ∧
      ∀ k, next.lookup k =
        if k = key then mergeValue (target.lookup k) value
        else target.lookup k := by
  by_cases hNull : value = .null
  · subst hNull
    refine ⟨removeMember key target, by rw [mergeMembers],
      ?_⟩
    intro k
    rw [lookup_removeMember]
    rfl
  · refine ⟨_, mergeMembers_cons target patch key value hNull,
      ?_⟩
    intro k
    rw [lookup_insertMember, mergeValue,
      mergeMember_some hNull]
    split
    · rename_i hKey
      rw [hKey]
    · rfl

/-
  A merge goes through the patch's values under a key, one
  after another. In a patch with distinct keys there is one
  at most.
-/
theorem lookup_mergeMembers_eq_foldl
    (target patch : List (String × Json))
    (key : String) :
    (mergeMembers target patch).lookup key =
      (valuesUnder key patch).foldl mergeValue
        (target.lookup key) := by
  induction patch generalizing target with
  | nil => rw [mergeMembers]; rfl
  | cons m patch ih =>
      rcases m with ⟨k, value⟩
      rcases mergeMembers_cons_eq target patch k value with
        ⟨next, hMerge, hNext⟩
      rw [hMerge, ih, hNext, valuesUnder_cons]
      by_cases hKey : k = key
      · simp [hKey]
      · have hOther : ¬ key = k := fun hEq => hKey hEq.symm
        simp [hKey, hOther]

/- What is no object has no members. -/
theorem lookup_members_getD
    (o : Option Json)
    (key : String) :
    (o.getD .null).members.lookup key =
      o.bind (fun j => j.get? key) := by
  cases o with
  | none => rfl
  | some j => rfl

/- An object merged into what is there is an object. -/
theorem mergeValue_obj
    (o : Option Json)
    (ms : List (String × Json)) :
    ∃ merged, mergeValue o (.obj ms) = some (.obj merged) ∧
      ∀ key, merged.lookup key =
        (valuesUnder key ms).foldl mergeValue
          (o.bind (fun j => j.get? key)) := by
  refine ⟨_, mergeMember_some_obj o ms, ?_⟩
  intro key
  rw [lookup_mergeMembers_eq_foldl, lookup_members_getD]

/- Any other value of a patch replaces what is there. -/
theorem mergeValue_of_isAtomic
    {value : Json}
    (hAtomic : value.IsAtomic)
    (o p : Option Json) :
    mergeValue o value = mergeValue p value := by
  by_cases hNull : value = .null
  · rw [hNull]
    rfl
  · rw [mergeValue, mergeValue,
      mergeMember_some_of_isAtomic hNull hAtomic,
      mergeMember_some_of_isAtomic hNull hAtomic]

mutual

/- Merging respects equality of the targets. -/
theorem alike_mergeValue
    {o p : Option Json}
    (value : Json)
    (hAlike : Alike o p) :
    Alike (mergeValue o value) (mergeValue p value) := by
  cases value with
  | obj ms =>
      rcases mergeValue_obj o ms with ⟨os, hLeft, hos⟩
      rcases mergeValue_obj p ms with ⟨ps, hRight, hps⟩
      rw [hLeft, hRight]
      apply equal_obj_iff.mpr
      intro key
      rw [hos, hps]
      exact alike_foldl ms key (alike_part hAlike (.key key))
  | null => exact alike_refl _
  | bool b => exact alike_refl _
  | num n => exact alike_refl _
  | str s => exact alike_refl _
  | arr elems => exact alike_refl _

/- A run of merges keeps what is alike alike. -/
theorem alike_foldl
    {o p : Option Json}
    (ms : List (String × Json))
    (key : String)
    (hAlike : Alike o p) :
    Alike ((valuesUnder key ms).foldl mergeValue o)
      ((valuesUnder key ms).foldl mergeValue p) := by
  cases ms with
  | nil => exact hAlike
  | cons m ms =>
      rcases m with ⟨k, value⟩
      rw [valuesUnder_cons]
      split
      · exact alike_foldl ms key
          (alike_mergeValue value hAlike)
      · exact alike_foldl ms key hAlike

end

/- A merge is a merge into a target that is there. -/
theorem mergeValue_some
    (target : Json)
    {patch : Json}
    (hPatch : patch ≠ .null) :
    mergeValue (some target) patch =
      some (mergePatch target patch) :=
  mergeMember_some hPatch (some target)

/- A patch does the same to equal values. -/
theorem equal_mergePatch_of_equal
    {a b : Json}
    (hEqual : Equal a b)
    (patch : Json) :
    Equal (mergePatch a patch) (mergePatch b patch) := by
  by_cases hNull : patch = .null
  · rw [hNull]
    exact alike_refl _
  · have hAlike := alike_mergeValue patch hEqual
    rwa [mergeValue_some a hNull, mergeValue_some b hNull]
      at hAlike

end Json

------------------------------------------------------------
-- Merging Twice
------------------------------------------------------------

namespace Json

/- The size of a list of values, for the induction below. -/
noncomputable def weight (vs : List Json) : Nat :=
  (vs.map sizeOf).sum

theorem exists_obj_of_not_isAtomic
    {j : Json}
    (hObject : ¬ j.IsAtomic) :
    ∃ ms, j = .obj ms := by
  cases j with
  | obj ms => exact ⟨ms, rfl⟩
  | _ => exact absurd trivial hObject

/- The values under a key weigh less than the object. -/
theorem weight_valuesUnder_le
    (key : String)
    (ms : List (String × Json)) :
    weight (valuesUnder key ms) ≤ sizeOf ms := by
  induction ms with
  | nil => simp [weight, valuesUnder]
  | cons m ms ih =>
      rcases m with ⟨k, value⟩
      rw [valuesUnder_cons]
      split
      · simp only [weight, List.map_cons, List.sum_cons,
          List.cons.sizeOf_spec, Prod.mk.sizeOf_spec] at ih ⊢
        omega
      · simp only [List.cons.sizeOf_spec]
        omega

/- The values a list of objects holds under a key. -/
def valuesWithin
    (key : String)
    (vs : List Json) : List Json :=
  vs.flatMap (fun v => valuesUnder key v.members)

/- One step further in there is less to go through. -/
theorem weight_valuesWithin_lt
    (key : String)
    {vs : List Json}
    (hSome : vs ≠ [])
    (hObjects : ∀ v ∈ vs, ¬ v.IsAtomic) :
    weight (valuesWithin key vs) < weight vs := by
  induction vs with
  | nil => exact absurd rfl hSome
  | cons v vs ih =>
      have hHead :
          weight (valuesUnder key v.members) < sizeOf v := by
        rcases exists_obj_of_not_isAtomic
          (hObjects v List.mem_cons_self) with ⟨ms, rfl⟩
        have hLe := weight_valuesUnder_le key ms
        simp only [members, Json.obj.sizeOf_spec]
        omega
      have hSplit :
          weight (valuesWithin key (v :: vs)) =
            weight (valuesUnder key v.members) +
              weight (valuesWithin key vs) := by
        simp [weight, valuesWithin]
      have hWhole : weight (v :: vs) = sizeOf v + weight vs := by
        simp [weight]
      by_cases hRest : vs = []
      · subst hRest
        have hNil : weight (valuesWithin key []) = 0 := rfl
        omega
      · have hTail := ih hRest (fun w hw =>
          hObjects w (List.mem_cons_of_mem _ hw))
        omega

/- A sequence of objects merges into an object. -/
theorem foldl_objects
    {vs : List Json}
    (hSome : vs ≠ [])
    (hObjects : ∀ v ∈ vs, ¬ v.IsAtomic)
    (o : Option Json) :
    ∃ merged, vs.foldl mergeValue o = some (.obj merged) ∧
      ∀ key, merged.lookup key =
        (valuesWithin key vs).foldl mergeValue
          (o.bind (fun j => j.get? key)) := by
  induction vs generalizing o with
  | nil => exact absurd rfl hSome
  | cons v vs ih =>
      rcases exists_obj_of_not_isAtomic
        (hObjects v List.mem_cons_self) with ⟨ms, rfl⟩
      rcases mergeValue_obj o ms with
        ⟨first, hFirst, hLookup⟩
      by_cases hRest : vs = []
      · subst hRest
        refine ⟨first, hFirst, ?_⟩
        intro key
        rw [hLookup]
        simp [valuesWithin, members]
      · rcases ih hRest (fun w hw =>
          hObjects w (List.mem_cons_of_mem _ hw))
          (some (.obj first)) with ⟨merged, hFold, hMerged⟩
        refine ⟨merged, ?_, ?_⟩
        · rw [List.foldl_cons, hFirst, hFold]
        · intro key
          rw [hMerged, Option.bind_some, get?_obj, hLookup]
          simp [valuesWithin, members]

/-
  To merge a sequence a second time changes nothing. The
  induction is on its size: a value that is no object makes
  it forget what was there, and objects are merged key by
  key, with the smaller sequences they hold.
-/
theorem alike_foldl_twice
    (vs : List Json)
    (o : Option Json) :
    Alike (vs.foldl mergeValue (vs.foldl mergeValue o))
      (vs.foldl mergeValue o) := by
  by_cases hObjects : ∀ v ∈ vs, ¬ v.IsAtomic
  · by_cases hSome : vs = []
    · rw [hSome]
      exact alike_refl o
    · rcases foldl_objects hSome hObjects o with
        ⟨once, hOnce, hLookup⟩
      rcases foldl_objects hSome hObjects
        (some (.obj once)) with ⟨twice, hTwice, hAgain⟩
      rw [hOnce, hTwice]
      apply equal_obj_iff.mpr
      intro key
      rw [hAgain, Option.bind_some, get?_obj, hLookup]
      have hSmaller :=
        weight_valuesWithin_lt key hSome hObjects
      exact alike_foldl_twice (valuesWithin key vs) _
  · simp only [not_forall, not_not] at hObjects
    rcases hObjects with ⟨v, hv, hAtomic⟩
    rcases List.append_of_mem hv with ⟨before, after, rfl⟩
    have hForgets :
        ∀ p q, (before ++ v :: after).foldl mergeValue p =
          (before ++ v :: after).foldl mergeValue q := by
      intro p q
      rw [List.foldl_append, List.foldl_append,
        List.foldl_cons, List.foldl_cons,
        mergeValue_of_isAtomic hAtomic]
    rw [hForgets _ o]
    exact alike_refl _
termination_by weight vs

/- RFC 7396 merges are idempotent. -/
theorem equal_mergePatch_twice
    (target patch : Json) :
    Equal (mergePatch (mergePatch target patch) patch)
      (mergePatch target patch) := by
  by_cases hNull : patch = .null
  · rw [hNull]
    exact alike_refl _
  · have hTwice := alike_foldl_twice [patch] (some target)
    simp only [List.foldl_cons, List.foldl_nil,
      mergeValue_some _ hNull] at hTwice
    exact hTwice

end Json
