import Mathlib.Data.List.Basic

/-
  The UTF-8 bytes of a text.

  Key definitions include:
    * `Str.asBytes`

  Key theorems include:
    * `Str.asBytes_injective`
    * `Str.asBytes_append`
-/

------------------------------------------------------------
-- Bytes
------------------------------------------------------------

namespace Str

/- `s.as_bytes()`. -/
def asBytes (s : String) : List UInt8 :=
  s.toUTF8.data.toList

theorem asBytes_injective : Function.Injective asBytes := by
  intro a b hBytes
  refine String.toByteArray_inj.mp (ByteArray.ext ?_)
  exact Array.toList_inj.mp hBytes

theorem asBytes_append (a b : String) :
    asBytes (a ++ b) = asBytes a ++ asBytes b := by
  unfold asBytes
  rw [String.toUTF8_eq_toByteArray]
  simp [String.toByteArray_append, ByteArray.data_append]

end Str
