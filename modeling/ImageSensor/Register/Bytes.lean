/-!
# Byte order

A register value of several bytes travels with its most significant byte
first.  Only the low bytes of a word are sent when the width asks for fewer
than four.
-/

namespace ImageSensor
namespace Register

/-- The low bytes of a word, the most significant first. -/
def toBytes : (width : Nat) -> (value : UInt32) -> List UInt8
  | 0, _ => []
  | width + 1, value => toBytes width (value / 256) ++ [value.toUInt8]

/-- The word that bytes stand for, the most significant first. -/
def ofBytes (bytes : List UInt8) : UInt32 :=
  bytes.foldl (fun value byte => value * 256 + byte.toUInt32) 0

@[simp]
theorem length_toBytes (width : Nat) (value : UInt32) :
    (toBytes width value).length = width := by
  induction width generalizing value with
  | zero => rfl
  | succ width ih => simp [toBytes, ih]

@[simp]
theorem ofBytes_nil : ofBytes [] = 0 := rfl

theorem ofBytes_append_singleton (bytes : List UInt8) (byte : UInt8) :
    ofBytes (bytes ++ [byte]) = ofBytes bytes * 256 + byte.toUInt32 := by
  simp [ofBytes, List.foldl_append]

end Register
end ImageSensor
