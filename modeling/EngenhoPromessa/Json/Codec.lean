import EngenhoPromessa.Json.MergePatch

/-
  Typed views of JSON values that are written by merge
  patches.

  A `Codec` reads back what it wrote. A `Field` is a member
  of an object, possibly left out when written; its law says
  what is read from the member after the written value has
  been merged over what was stored there before. A `Record`
  is the same for a whole object.

  Key definitions include:
    * `Json.Codec`
    * `Json.AtomicCodec`
    * `Json.Field`
    * `Json.Record`

  Key theorems include:
    * `Json.Field.decode_lookup_mergeMembers`
    * `Json.Field.decode_lookup_recordMembers`
    * `Json.Field.decode_lookup_encode`
-/

------------------------------------------------------------
-- Codecs
------------------------------------------------------------

namespace Json

/- A type that is written as JSON and read back. -/
structure Codec (α : Type) where
  encode : α → Json
  decode : Json → Option α
  decode_encode : ∀ a, decode (encode a) = some a

/-
  A codec whose values have no members, so that a merge
  replaces them whole.
-/
structure AtomicCodec (α : Type) extends Codec α where
  encode_isAtomic : ∀ a, (encode a).IsAtomic
  encode_ne_null : ∀ a, encode a ≠ .null

namespace Codec

variable {α : Type}

/- Decoding a written list gives the list back. -/
theorem mapM_decode_encode
    (c : Codec α)
    (xs : List α) :
    (xs.map c.encode).mapM c.decode = some xs := by
  induction xs with
  | nil => rfl
  | cons x xs ih =>
      simp [List.mapM_cons, c.decode_encode, ih]

end Codec

namespace AtomicCodec

/- Texts as JSON strings. -/
def string : AtomicCodec String where
  encode s := .str s
  decode j := j.asStr
  decode_encode _ := rfl
  encode_isAtomic _ := trivial
  encode_ne_null _ := by simp

/- Integers as JSON numbers. -/
def int : AtomicCodec Int where
  encode n := ofInt n
  decode j := j.asInt
  decode_encode _ := rfl
  encode_isAtomic _ := trivial
  encode_ne_null _ := by simp [ofInt]

/- Naturals as numbers, of which no negative one is read. -/
def nat : AtomicCodec Nat where
  encode n := ofInt n
  decode j := j.asInt.bind Int.toNat?
  decode_encode n := by simp [Int.toNat?]
  encode_isAtomic _ := trivial
  encode_ne_null _ := by simp [ofInt]

/- A value written as a string that can be read back. -/
def ofString
    {α : Type}
    (print : α → String)
    (parse : String → Option α)
    (hParse : ∀ a, parse (print a) = some a) :
    AtomicCodec α where
  encode a := .str (print a)
  decode j := j.asStr.bind parse
  decode_encode a := by simp [asStr, hParse]
  encode_isAtomic _ := trivial
  encode_ne_null _ := by simp

/- A unit-only enumeration, written as its variant's name. -/
def enumeration
    {α : Type}
    (name : α → String)
    (variants : List α)
    (hName :
      ∀ a, variants.find? (fun b => name b = name a) =
        some a) :
    AtomicCodec α :=
  ofString name
    (fun s => variants.find? (fun b => name b = s))
    hName

/- A simple value replaces what was there. -/
theorem mergeMember_encode
    {α : Type}
    (c : AtomicCodec α)
    (target : Option Json)
    (a : α) :
    mergeMember target (some (c.encode a)) =
      some (c.encode a) :=
  mergeMember_some_of_isAtomic (c.encode_ne_null a)
    (c.encode_isAtomic a) target

end AtomicCodec

end Json

------------------------------------------------------------
-- Fields
------------------------------------------------------------

namespace Json

/-
  `merge old new` is the value read after `new` has been
  merged over a member that read as `old`, or over no member
  when `old` is `none`. `Writable` are the values a merge
  patch can store: null is not one, a null member removes.
-/
structure Field (α : Type) where
  encode : α → Option Json
  decode : Option Json → Option α
  merge : Option α → α → α
  Writable : α → Prop
  decode_encode : ∀ a, decode (encode a) = some a
  decode_fresh :
    ∀ {a}, Writable a →
      decode (mergeMember none (encode a)) =
        some (merge none a)
  decode_merge :
    ∀ {a old member}, Writable a →
      decode member = some old →
        decode (mergeMember member (encode a)) =
          some (merge (some old) a)

namespace Field

variable {α : Type}

/- A member that must be there. -/
def required (c : AtomicCodec α) : Field α where
  encode a := some (c.encode a)
  decode member := member.bind c.decode
  merge _ a := a
  Writable _ := True
  decode_encode a := by simp [c.decode_encode]
  decode_fresh {a} _ := by
    simp [c.mergeMember_encode, c.decode_encode]
  decode_merge {a _ _} _ _ := by
    simp [c.mergeMember_encode, c.decode_encode]

/- A member that reads as `default` when it is missing. -/
def withDefault
    (c : AtomicCodec α)
    (default : α) : Field α where
  encode a := some (c.encode a)
  decode
  | none => some default
  | some j => c.decode j
  merge _ a := a
  Writable _ := True
  decode_encode a := by simp [c.decode_encode]
  decode_fresh {a} _ := by
    simp [c.mergeMember_encode, c.decode_encode]
  decode_merge {a _ _} _ _ := by
    simp [c.mergeMember_encode, c.decode_encode]

/- A missing or null member reads as `none`. -/
def decodeOptional
    (read : Json → Option α) :
    Option Json → Option (Option α)
| none => some none
| some .null => some none
| some j => (read j).map some

/- A value that is there and not null must be read. -/
theorem decodeOptional_of_ne_null
    (read : Json → Option α)
    {j : Json}
    (hNull : j ≠ .null) :
    decodeOptional read (some j) = (read j).map some := by
  cases j with
  | null => exact absurd rfl hNull
  | bool b => rfl
  | num n => rfl
  | str s => rfl
  | arr elems => rfl
  | obj ms => rfl

/- What is written is read back as being there. -/
theorem decodeOptional_encode
    (c : AtomicCodec α)
    (a : α) :
    decodeOptional c.decode (some (c.encode a)) =
      some (some a) := by
  rw [decodeOptional_of_ne_null c.decode
    (c.encode_ne_null a), c.decode_encode]
  rfl

/- An optional object is one that decodes, or missing. -/
theorem decode_members_of_decodeOptional
    {decode : List (String × Json) → Option α}
    {default : α}
    (hNil : decode [] = some default)
    {stored : Option Json}
    {old : Option α}
    (hOld :
      decodeOptional (fun j => j.asObject.bind decode)
        stored = some old) :
    decode (stored.getD .null).members =
      some (old.getD default) := by
  rcases stored with _ | j
  · obtain rfl : none = old := by
      simpa [decodeOptional] using hOld
    exact hNil
  · cases j with
    | null =>
        obtain rfl : none = old := by
          simpa [decodeOptional] using hOld
        exact hNil
    | obj ms =>
        simp only [decodeOptional, asObject,
          Option.bind_some, Option.map_eq_some_iff] at hOld
        rcases hOld with ⟨s, hs, rfl⟩
        simpa [members] using hs
    | bool b => simp [decodeOptional, asObject] at hOld
    | num n => simp [decodeOptional, asObject] at hOld
    | str s => simp [decodeOptional, asObject] at hOld
    | arr elems => simp [decodeOptional, asObject] at hOld

/- It is read back after an object was merged over it. -/
theorem decodeOptional_mergeMember_obj
    {decode : List (String × Json) → Option α}
    {stored : Option Json}
    {ms : List (String × Json)}
    {a : α}
    (hRead :
      decode
          (mergeMembers (stored.getD .null).members ms) =
        some a) :
    decodeOptional (fun j => j.asObject.bind decode)
        (mergeMember stored (some (.obj ms))) =
      some (some a) := by
  simp [mergeMember_some_obj, decodeOptional, asObject,
    hRead]

/- An optional member, left out when it is `none`. -/
def optional (c : AtomicCodec α) : Field (Option α) where
  encode a := a.map c.encode
  decode := decodeOptional c.decode
  merge old a := a.or old.join
  Writable _ := True
  decode_encode a := by
    cases a with
    | none => rfl
    | some a => exact decodeOptional_encode c a
  decode_fresh {a} _ := by
    cases a with
    | none => rfl
    | some a =>
        simp [c.mergeMember_encode, decodeOptional_encode]
  decode_merge {a old member} _ hOld := by
    cases a with
    | none => simpa using hOld
    | some a =>
        simp [c.mergeMember_encode, decodeOptional_encode]

/- A list member, left out when it is empty. -/
def list (c : Codec α) : Field (List α) where
  encode
  | [] => none
  | xs => some (.arr (xs.map c.encode))
  decode
  | none => some []
  | some (.arr js) => js.mapM c.decode
  | some _ => none
  merge old xs := if xs.isEmpty then old.getD [] else xs
  Writable _ := True
  decode_encode xs := by
    cases xs with
    | nil => rfl
    | cons x xs => exact c.mapM_decode_encode (x :: xs)
  decode_fresh {xs} _ := by
    cases xs with
    | nil => rfl
    | cons x xs =>
        have hRead := c.mapM_decode_encode (x :: xs)
        simpa [mergeMember, mergePatch] using hRead
  decode_merge {xs old member} _ hOld := by
    cases xs with
    | nil => simpa using hOld
    | cons x xs =>
        have hRead := c.mapM_decode_encode (x :: xs)
        simpa [mergeMember, mergePatch] using hRead

/- A member kept as the JSON value it is. -/
def value : Field Json where
  encode j := some j
  decode member := member
  merge old j := mergePatch (old.getD .null) j
  Writable j := j ≠ .null
  decode_encode _ := rfl
  decode_fresh hNull := mergeMember_some hNull none
  decode_merge hNull hOld := by
    rw [hOld]
    exact mergeMember_some hNull _

/- A record's field is read back as it was written. -/
theorem decode_lookup_encode
    (f : Field α)
    {fields : List (String × Option Json)}
    {key : String}
    {a : α}
    (hKeys : (fields.map Prod.fst).Nodup)
    (hField : fields.lookup key = some (f.encode a)) :
    f.decode ((recordMembers fields).lookup key) =
      some a := by
  rw [lookup_recordMembers hKeys, hField]
  exact f.decode_encode a

/- What a merge leaves of one field of a record. -/
theorem decode_lookup_mergeMembers
    (f : Field α)
    {fields : List (String × Option Json)}
    {ms : List (String × Json)}
    {key : String}
    {a old : α}
    (hKeys : (fields.map Prod.fst).Nodup)
    (hField : fields.lookup key = some (f.encode a))
    (hWritable : f.Writable a)
    (hOld : f.decode (ms.lookup key) = some old) :
    f.decode
        ((mergeMembers ms (recordMembers fields)).lookup
          key) =
      some (f.merge (some old) a) := by
  rw [lookup_mergeMembers (nodup_recordMembers hKeys),
    lookup_recordMembers hKeys, hField]
  exact f.decode_merge hWritable hOld

/- A required member is overwritten, whatever was there. -/
theorem decode_lookup_mergeMembers_required
    (c : AtomicCodec α)
    {fields : List (String × Option Json)}
    {key : String}
    {a : α}
    (hKeys : (fields.map Prod.fst).Nodup)
    (hField :
      fields.lookup key = some ((required c).encode a))
    (ms : List (String × Json)) :
    (required c).decode
        ((mergeMembers ms (recordMembers fields)).lookup
          key) =
      some a := by
  rw [lookup_mergeMembers (nodup_recordMembers hKeys),
    lookup_recordMembers hKeys, hField]
  change (mergeMember (ms.lookup key)
    (some (c.encode a))).bind c.decode = some a
  rw [c.mergeMember_encode]
  exact c.decode_encode a

/- A patch leaves a member it does not name. -/
theorem lookup_mergeMembers_of_not_named
    {fields : List (String × Option Json)}
    (hKeys : (fields.map Prod.fst).Nodup)
    {key : String}
    (hField : fields.lookup key = none)
    (ms : List (String × Json)) :
    (mergeMembers ms (recordMembers fields)).lookup key =
      ms.lookup key := by
  rw [lookup_mergeMembers (nodup_recordMembers hKeys),
    lookup_recordMembers hKeys, hField]
  rfl

/- The same for a record written where none was. -/
theorem decode_lookup_recordMembers
    (f : Field α)
    {fields : List (String × Option Json)}
    {key : String}
    {a : α}
    (hKeys : (fields.map Prod.fst).Nodup)
    (hField : fields.lookup key = some (f.encode a))
    (hWritable : f.Writable a) :
    f.decode
        ((mergeMembers [] (recordMembers fields)).lookup
          key) =
      some (f.merge none a) := by
  rw [lookup_mergeMembers (nodup_recordMembers hKeys),
    lookup_recordMembers hKeys, hField]
  exact f.decode_fresh hWritable

end Field

end Json

------------------------------------------------------------
-- Records
------------------------------------------------------------

namespace Json

/-
  An object with a typed reading. `fields` lists its members
  in the order they are written, `decode` reads them back.
-/
structure Record (α : Type) where
  fields : α → List (String × Option Json)
  decode : List (String × Json) → Option α
  merge : Option α → α → α
  Writable : α → Prop
  decode_encode :
    ∀ a, decode (recordMembers (fields a)) = some a
  decode_fresh :
    ∀ {a}, Writable a →
      decode (mergeMembers [] (recordMembers (fields a))) =
        some (merge none a)
  decode_merge :
    ∀ {a old ms}, Writable a → decode ms = some old →
      decode (mergeMembers ms (recordMembers (fields a))) =
        some (merge (some old) a)

namespace Record

variable {α : Type}

/- The object that is written for a value. -/
def encode (r : Record α) (a : α) : Json :=
  record (r.fields a)

/- Only an object can be read. -/
def ofJson (r : Record α) : Json → Option α
| .obj ms => r.decode ms
| _ => none

/- An optional object, left out when it is `none`. -/
def optional (r : Record α) : Field (Option α) where
  encode a := a.map r.encode
  decode := Field.decodeOptional r.ofJson
  merge old
  | none => old.join
  | some a => some (r.merge old.join a)
  Writable a := ∀ x, a = some x → r.Writable x
  decode_encode a := by
    cases a with
    | none => rfl
    | some a =>
        simp [encode, record, Field.decodeOptional, ofJson,
          r.decode_encode]
  decode_fresh {a} hWritable := by
    cases a with
    | none => rfl
    | some a =>
        have hRead := r.decode_fresh (hWritable a rfl)
        simp [encode, record, mergeMember_some_obj,
          members, Field.decodeOptional, ofJson, hRead]
  decode_merge {a old member} hWritable hOld := by
    cases a with
    | none => simpa using hOld
    | some a =>
        have hFresh := r.decode_fresh (hWritable a rfl)
        rcases member with _ | j
        · obtain rfl : none = old := by
            simpa [Field.decodeOptional] using hOld
          simp [encode, record, mergeMember_some_obj,
            members, Field.decodeOptional, ofJson, hFresh]
        · cases j with
          | null =>
              obtain rfl : none = old := by
                simpa [Field.decodeOptional] using hOld
              simp [encode, record, mergeMember_some_obj,
                members, Field.decodeOptional, ofJson,
                hFresh]
          | obj ms =>
              simp only [Field.decodeOptional, ofJson,
                Option.map_eq_some_iff] at hOld
              rcases hOld with ⟨x, hx, rfl⟩
              have hRead :=
                r.decode_merge (hWritable a rfl) hx
              simp [encode, record, mergeMember_some_obj,
                members, Field.decodeOptional, ofJson,
                hRead]
          | bool b =>
              simp [Field.decodeOptional, ofJson] at hOld
          | num n =>
              simp [Field.decodeOptional, ofJson] at hOld
          | str s =>
              simp [Field.decodeOptional, ofJson] at hOld
          | arr elems =>
              simp [Field.decodeOptional, ofJson] at hOld

end Record

end Json
