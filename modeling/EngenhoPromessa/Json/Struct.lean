import EngenhoPromessa.Json.Codec

/-
  Structs whose members are all written, a missing value as
  null, and enumerations that name their variant in a member
  beside those of its struct.

  A struct is read from an object by its keys, whatever else
  the object has, or from an array of its values.

  Key definitions include:
    * `Json.fieldValues`
    * `Json.Struct`
    * `Json.Struct.fromValue`
    * `Json.tagged`

  Key theorems include:
    * `Json.Struct.fromValue_of_lookup`
    * `Json.Struct.fromValue_arr`
    * `Json.tagged_of_lookup`
-/

------------------------------------------------------------
-- Structs
------------------------------------------------------------

namespace Json

/- A missing value is written as null. -/
def nullable
    {α : Type}
    (c : AtomicCodec α)
    (a : Option α) : Json :=
  (a.map c.encode).getD .null

/- A value or null is read as the option it was. -/
theorem decode_nullable
    {α : Type}
    (c : AtomicCodec α)
    (a : Option α) :
    (Field.optional c).decode (some (nullable c a)) =
      some a := by
  cases a with
  | none => rfl
  | some a => exact Field.decodeOptional_encode c a

theorem decode_required
    {α : Type}
    (c : AtomicCodec α)
    (a : α) :
    (Field.required c).decode (some (c.encode a)) = some a :=
  c.decode_encode a

/-
  The values found under the keys of a struct, in the order
  of the keys: of an object those that are there, of an array
  all its elements, if it has as many.
-/
def fieldValues (keys : List String) :
    Json → Option (List (Option Json))
| .obj ms => some (keys.map (fun key => ms.lookup key))
| .arr elems =>
    if elems.length = keys.length then
      some (elems.map some)
    else
      none
| _ => none

/- A struct with its keys, and its values in their order. -/
structure Struct (α : Type) where
  keys : List String
  values : α → List Json
  ofValues : List (Option Json) → Option α
  nodup_keys : keys.Nodup
  length_values : ∀ a, (values a).length = keys.length
  ofValues_values :
    ∀ a, ofValues ((values a).map some) = some a

namespace Struct

variable {α : Type}

/- The members, each value under its key. -/
def members
    (c : Struct α)
    (a : α) : List (String × Json) :=
  c.keys.zip (c.values a)

/- Reads the values of the keys, and the value from them. -/
def fromValue (c : Struct α) (j : Json) : Option α :=
  (fieldValues c.keys j).bind c.ofValues

/- Under its key a value is found. -/
theorem map_lookup_zip
    {keys : List String}
    {values : List Json}
    (hNodup : keys.Nodup)
    (hLength : values.length = keys.length) :
    keys.map (fun key => (keys.zip values).lookup key) =
      values.map some := by
  induction keys generalizing values with
  | nil =>
      obtain rfl := List.length_eq_zero_iff.mp hLength
      rfl
  | cons key keys ih =>
      cases values with
      | nil => cases hLength
      | cons value values =>
          rcases List.nodup_cons.mp hNodup with
            ⟨hNew, hRest⟩
          have hTail :
              keys.map (fun k =>
                  ((key, value) ::
                    keys.zip values).lookup k) =
                keys.map (fun k =>
                  (keys.zip values).lookup k) := by
            refine List.map_congr_left (fun k hk => ?_)
            rw [lookup_cons_ite, if_neg]
            rintro rfl
            exact hNew hk
          rw [List.zip_cons_cons, List.map_cons, hTail,
            ih hRest (Nat.succ.inj hLength)]
          simp

/- A struct is read from every object that has its members. -/
theorem fromValue_of_lookup
    (c : Struct α)
    (a : α)
    {ms : List (String × Json)}
    (hMembers : ∀ key ∈ c.keys,
      ms.lookup key = (c.members a).lookup key) :
    c.fromValue (.obj ms) = some a := by
  have hValues :
      c.keys.map (fun key => ms.lookup key) =
        (c.values a).map some := by
    rw [List.map_congr_left hMembers]
    exact map_lookup_zip c.nodup_keys (c.length_values a)
  rw [fromValue, fieldValues, hValues]
  exact c.ofValues_values a

/- It is read from the array of its values. -/
theorem fromValue_arr
    (c : Struct α)
    (a : α) :
    c.fromValue (.arr (c.values a)) = some a := by
  rw [fromValue, fieldValues, if_pos (c.length_values a)]
  exact c.ofValues_values a

end Struct

end Json

------------------------------------------------------------
-- Tags
------------------------------------------------------------

namespace Json

/-
  The tag and the content beside it: the other members of an
  object, or the other elements of an array.
-/
def tagged (key : String) : Json → Option (String × Json)
| .obj ms => do
    let tag ← (← ms.lookup key).asStr
    return (tag, .obj (removeMember key ms))
| .arr (tag :: elems) => do
    return (← tag.asStr, .arr elems)
| _ => none

theorem tagged_of_lookup
    {key tag : String}
    {ms : List (String × Json)}
    (hTag : ms.lookup key = some (.str tag)) :
    tagged key (.obj ms) =
      some (tag, .obj (removeMember key ms)) := by
  simp [tagged, hTag, asStr]

end Json
