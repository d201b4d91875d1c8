/-!
# Hexadecimal text

Addresses and bytes are shown with a fixed number of lower-case digits.
-/

namespace ImageSensor

/-- The low digits of a number in base sixteen, as many as asked for. -/
def hexDigits : (width : Nat) -> (n : Nat) -> List Char
  | 0, _ => []
  | width + 1, n => hexDigits width (n / 16) ++ [Nat.digitChar (n % 16)]

@[simp]
theorem length_hexDigits (width n : Nat) :
    (hexDigits width n).length = width := by
  induction width generalizing n with
  | zero => rfl
  | succ width ih => simp [hexDigits, ih]

/-- A number in base sixteen with a fixed number of digits. -/
def hex (width n : Nat) : String :=
  String.ofList (hexDigits width n)

end ImageSensor
