import EngenhoPromessa.Json.Codec
import Mathlib.Order.Basic
import Mathlib.Data.Int.Order.Basic
import Mathlib.Data.Nat.Basic
import Mathlib.Order.Defs.LinearOrder

/-
  What the controllers take from crates outside the
  repository: time and its printed forms, hashing, and the
  text form of JSON. Each class lists the functions the code
  calls and what it relies on about them.

  Key definitions include:
    * `DateTime`
    * `DateTime.numDaysSince`
    * `Chrono`
    * `Blake3`
    * `SerdeJson`
    * `Env`
-/

------------------------------------------------------------
-- Time
------------------------------------------------------------

namespace EngenhoPromessa

/- A UTC instant, in nanoseconds since the Unix epoch. -/
@[ext] structure DateTime where
  nanos : Int
deriving DecidableEq, Repr, Inhabited

namespace DateTime

instance : LinearOrder DateTime :=
  LinearOrder.lift' DateTime.nanos
    (fun _ _ h => DateTime.ext h)

/- The nanoseconds of a day. -/
def nanosPerDay : Int := 86400000000000

/- Whole days between two instants, truncated toward zero. -/
def numDaysSince (now earlier : DateTime) : Int :=
  (now.nanos - earlier.nanos).tdiv nanosPerDay

end DateTime

/-
  The two printed forms of an instant: the one serde writes
  and reads back, and `to_rfc3339`.
-/
class Chrono where
  serialize : DateTime → String
  deserialize : String → Option DateTime
  toRfc3339 : DateTime → String
  deserialize_serialize :
    ∀ t, deserialize (serialize t) = some t
  toRfc3339_injective : Function.Injective toRfc3339

/- Instants as the texts that serde writes. -/
def dateTimeCodec [Chrono] : Json.AtomicCodec DateTime :=
  Json.AtomicCodec.ofString Chrono.serialize
    Chrono.deserialize Chrono.deserialize_serialize

end EngenhoPromessa

------------------------------------------------------------
-- Hashes And JSON Text
------------------------------------------------------------

namespace EngenhoPromessa

/- A 32-bit floating-point number, by its bits. -/
structure F32 where
  bits : UInt32
deriving DecidableEq, Repr

/- `hash(bytes).to_hex()`. -/
class Blake3 where
  hashHex : List UInt8 → String

/-
  `from_str` and `to_vec` on JSON values, `as_f64` followed
  by the cast to `f32`, and the number an `f32` is written
  as. A written `f32` is read back as it was.
-/
class SerdeJson where
  fromStr : String → Except String Json
  toVec : Json → List UInt8
  asF32 : JsonNumber → F32
  ofF32 : F32 → JsonNumber
  asF32_ofF32 : ∀ x, asF32 (ofF32 x) = x

/- Such a number is stored as a number and read back. -/
def f32Codec [SerdeJson] : Json.AtomicCodec F32 where
  encode x := .num (SerdeJson.ofF32 x)
  decode j := j.asNumber.map SerdeJson.asF32
  decode_encode x := by
    simp [Json.asNumber, SerdeJson.asF32_ofF32]
  encode_isAtomic _ := trivial
  encode_ne_null _ := by simp

end EngenhoPromessa

------------------------------------------------------------
-- The Process Environment
------------------------------------------------------------

namespace EngenhoPromessa

/- `std::env::var(name).ok()`. -/
abbrev Env := String → Option String

namespace Env

/- A switch is on for these four values and no other. -/
def isOn (env : Env) (name : String) : Bool :=
  match env name with
  | some v => v ∈ ["1", "true", "TRUE", "yes"]
  | none => false

/- `std::env::var(name).ok().filter(|s| !s.is_empty())`. -/
def nonempty (env : Env) (name : String) : Option String :=
  (env name).filter (fun s => !s.isEmpty)

end Env

end EngenhoPromessa
