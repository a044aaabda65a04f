import Mathlib.Data.List.Basic

/-
  JSON values and their members.

  An object is the list of its members in insertion order,
  as an order-preserving map keeps them; every reader below
  goes through `List.lookup`, so two lists with the same
  lookups are the same object to it.

  Key definitions include:
    * `Json`
    * `Json.get?`
    * `Json.structValues`
    * `Json.record`
    * `Json.insertMember`
    * `Json.removeMember`
    * `Json.Within`

  Key theorems include:
    * `Json.lookup_insertMember`
    * `Json.lookup_removeMember`
    * `Json.lookup_record`
-/

------------------------------------------------------------
-- Values
------------------------------------------------------------

/-
  A JSON number is an integer or the bit pattern of a binary
  floating-point number; no arithmetic is done on the latter.
-/
inductive JsonNumber where
  | int (n : Int)
  | float (bits : UInt64)
deriving DecidableEq, Repr

/- A JSON value; an object keeps its members in order. -/
inductive Json where
  | null
  | bool (b : Bool)
  | num (n : JsonNumber)
  | str (s : String)
  | arr (elems : List Json)
  | obj (members : List (String × Json))
deriving Repr, Inhabited

namespace Json

/- The members of an object; no other value has any. -/
def members : Json → List (String × Json)
| .obj ms => ms
| _ => []

/- The member of an object under a key, if there is one. -/
def get? (j : Json) (key : String) : Option Json :=
  j.members.lookup key

/- The text, if the value is one. -/
def asStr : Json → Option String
| .str s => some s
| _ => none

/- The truth value, if the value is one. -/
def asBool : Json → Option Bool
| .bool b => some b
| _ => none

/- The elements, if the value is an array. -/
def asArray : Json → Option (List Json)
| .arr elems => some elems
| _ => none

/- The members, if the value is an object. -/
def asObject : Json → Option (List (String × Json))
| .obj ms => some ms
| _ => none

/- The number, if the value is one. -/
def asNumber : Json → Option JsonNumber
| .num n => some n
| _ => none

/- An integral number literal. -/
def ofInt (n : Int) : Json :=
  .num (.int n)

/- The integer a value denotes, if it denotes one. -/
def asInt : Json → Option Int
| .num (.int n) => some n
| _ => none

/- The value has no members: it is not an object. -/
def IsAtomic : Json → Prop
| .obj _ => False
| _ => True

/-
  The field values of a struct, in declaration order. It is
  read from an object by name, other members ignored, or
  from an array of exactly its length.
-/
def structValues (fields : List String) :
    Json → Option (List Json)
| .obj ms => fields.mapM (fun field => ms.lookup field)
| .arr elems =>
    if elems.length = fields.length then some elems else none
| _ => none

@[simp] theorem get?_obj
    (ms : List (String × Json))
    (key : String) :
    (Json.obj ms).get? key = ms.lookup key := rfl

@[simp] theorem asInt_ofInt (n : Int) :
    (ofInt n).asInt = some n := rfl

end Json

------------------------------------------------------------
-- Member Updates
------------------------------------------------------------

namespace Json

/- Set the member under `key`, in place when it exists. -/
def insertMember
    (key : String)
    (value : Json) :
    List (String × Json) → List (String × Json)
| [] => [(key, value)]
| (k, v) :: ms =>
    if k = key then
      (key, value) :: ms
    else
      (k, v) :: insertMember key value ms

/- Drop every member under `key`. -/
def removeMember
    (key : String)
    (ms : List (String × Json)) :
    List (String × Json) :=
  ms.filter (fun m => m.1 ≠ key)

/- A key is found in the first member that has it. -/
theorem lookup_cons_ite
    (k key : String)
    (v : Json)
    (ms : List (String × Json)) :
    List.lookup key ((k, v) :: ms) =
      if key = k then some v else List.lookup key ms := by
  by_cases h : key = k
  · simp [h]
  · have hBeq : (key == k) = false := by simpa using h
    simp [List.lookup_cons, hBeq, h]

/- Setting one member changes the lookup of its key only. -/
theorem lookup_insertMember
    (key k : String)
    (value : Json)
    (ms : List (String × Json)) :
    (insertMember key value ms).lookup k =
      if k = key then some value else ms.lookup k := by
  induction ms with
  | nil =>
      simp [insertMember, lookup_cons_ite]
  | cons m ms ih =>
      rcases m with ⟨l, v⟩
      by_cases hKey : l = key
      · subst hKey
        by_cases hk : k = l
        · simp [insertMember, hk]
        · simp [insertMember, lookup_cons_ite, hk]
      · by_cases hl : k = l
        · simp [insertMember, hKey, hl]
        · simp [insertMember, lookup_cons_ite, hKey, hl,
            ih]

/- An object with a member set; other values have none. -/
def setMember
    (j : Json)
    (key : String)
    (value : Json) : Json :=
  .obj (insertMember key value j.members)

theorem get?_setMember
    (j : Json)
    (key k : String)
    (value : Json) :
    (j.setMember key value).get? k =
      if k = key then some value else j.get? k :=
  lookup_insertMember key k value j.members

/- Dropping one key changes the lookup of that key only. -/
theorem lookup_removeMember
    (key k : String)
    (ms : List (String × Json)) :
    (removeMember key ms).lookup k =
      if k = key then none else ms.lookup k := by
  induction ms with
  | nil =>
      simp [removeMember]
  | cons m ms ih =>
      rcases m with ⟨l, v⟩
      by_cases hKey : l = key
      · have hDrop :
            removeMember key ((l, v) :: ms) =
              removeMember key ms := by
          simp [removeMember, hKey]
        rw [hDrop, ih, lookup_cons_ite, hKey]
        by_cases hk : k = key
        · simp [hk]
        · simp [hk]
      · have hKeep :
            removeMember key ((l, v) :: ms) =
              (l, v) :: removeMember key ms := by
          simp [removeMember, hKey]
        rw [hKeep, lookup_cons_ite, lookup_cons_ite, ih]
        by_cases hl : k = l
        · simp [hl, hKey]
        · simp [hl]

end Json

------------------------------------------------------------
-- Records With Skipped Members
------------------------------------------------------------

namespace Json

/-
  The members a record writes: a field that serializes to
  `none` is left out.
-/
def recordMembers :
    List (String × Option Json) → List (String × Json)
| [] => []
| (key, some value) :: fields =>
    (key, value) :: recordMembers fields
| (_, none) :: fields => recordMembers fields

/- The object a record serializes to. -/
def record (fields : List (String × Option Json)) : Json :=
  .obj (recordMembers fields)

/- Only the listed fields become members. -/
theorem key_mem_of_mem_recordMembers
    {fields : List (String × Option Json)}
    {m : String × Json}
    (hm : m ∈ recordMembers fields) :
    m.1 ∈ fields.map Prod.fst := by
  induction fields with
  | nil =>
      simp [recordMembers] at hm
  | cons field fields ih =>
      rcases field with ⟨key, _ | value⟩
      · exact List.mem_cons_of_mem _ (ih hm)
      · rcases List.mem_cons.mp hm with hEq | hMem
        · simp [hEq]
        · exact List.mem_cons_of_mem _ (ih hMem)

/- Skipping members keeps the keys distinct. -/
theorem nodup_recordMembers
    {fields : List (String × Option Json)}
    (hKeys : (fields.map Prod.fst).Nodup) :
    ((recordMembers fields).map Prod.fst).Nodup := by
  induction fields with
  | nil =>
      simp [recordMembers]
  | cons field fields ih =>
      rcases field with ⟨key, _ | value⟩
      · exact ih (List.nodup_cons.mp hKeys).2
      · rcases List.nodup_cons.mp hKeys with ⟨hNot, hRest⟩
        refine List.nodup_cons.mpr ⟨?_, ih hRest⟩
        intro hMem
        rcases List.mem_map.mp hMem with ⟨m, hm, hEq⟩
        apply hNot
        rw [← hEq]
        exact key_mem_of_mem_recordMembers hm

/- A record's member is what its field serialized to. -/
theorem lookup_recordMembers
    {fields : List (String × Option Json)}
    (hKeys : (fields.map Prod.fst).Nodup)
    (key : String) :
    (recordMembers fields).lookup key =
      (fields.lookup key).join := by
  induction fields with
  | nil =>
      simp [recordMembers]
  | cons field fields ih =>
      rcases List.nodup_cons.mp hKeys with ⟨hNot, hRest⟩
      rcases field with ⟨k, _ | value⟩
      · by_cases hk : key = k
        · subst hk
          have hNone :
              (recordMembers fields).lookup key = none := by
            rw [List.lookup_eq_none_iff]
            intro m hm
            have hMem := key_mem_of_mem_recordMembers hm
            apply bne_iff_ne.mpr
            intro hEq
            exact hNot (hEq ▸ hMem)
          simp [recordMembers, hNone]
        · have hBeq : (key == k) = false := by
            simpa using hk
          simp [recordMembers, List.lookup_cons, hBeq,
            ih hRest]
      · by_cases hk : key = k
        · simp [recordMembers, hk]
        · have hBeq : (key == k) = false := by
            simpa using hk
          simp [recordMembers, List.lookup_cons, hBeq,
            ih hRest]

end Json

------------------------------------------------------------
-- Values Within A Value
------------------------------------------------------------

namespace Json

/- A value occurs in another: it is that, or in a part. -/
inductive Within (j : Json) : Json → Prop where
  | refl : Within j j
  | member
      {ms : List (String × Json)}
      {key : String}
      {v : Json}
      (hMember : ms.lookup key = some v)
      (hWithin : Within j v) :
      Within j (.obj ms)
  | element
      {elems : List Json}
      {v : Json}
      (hElem : v ∈ elems)
      (hWithin : Within j v) :
      Within j (.arr elems)

/- What is within an object is itself or within a member. -/
theorem within_obj_iff
    {j : Json}
    {ms : List (String × Json)} :
    Within j (.obj ms) ↔
      j = .obj ms ∨
        ∃ key v, ms.lookup key = some v ∧ Within j v := by
  constructor
  · intro hWithin
    cases hWithin with
    | refl => exact Or.inl rfl
    | member hMember hWithin =>
        exact Or.inr ⟨_, _, hMember, hWithin⟩
  · rintro (rfl | ⟨key, v, hMember, hWithin⟩)
    · exact .refl
    · exact .member hMember hWithin

end Json
