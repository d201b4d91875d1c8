/-!
# Register files

A register file holds a byte at some of the 2¹⁶ addresses; a register that was
never written reads as zero.  Bytes of a longer value go to successive
addresses, and the address after the last is the first.
-/

namespace ImageSensor

/-- The bytes stored in a device, by address. -/
@[ext]
structure RegisterFile where
  stored : UInt16 -> Option UInt8

namespace RegisterFile

/-- The file in which nothing was written. -/
def empty : RegisterFile :=
  ⟨fun _ => none⟩

/-- The byte that a read of this address returns. -/
def get (f : RegisterFile) (address : UInt16) : UInt8 :=
  (f.stored address).getD 0

/-- The file with one register written. -/
def set (f : RegisterFile) (address : UInt16) (value : UInt8) : RegisterFile :=
  ⟨fun a => if a = address then some value else f.stored a⟩

/-- The file with several registers written one after the other. -/
def load (f : RegisterFile) : List (UInt16 × UInt8) -> RegisterFile
  | [] => f
  | (address, value) :: rest => (f.set address value).load rest

/-- Writes bytes to successive addresses. -/
def store (f : RegisterFile) (address : UInt16) : List UInt8 -> RegisterFile
  | [] => f
  | value :: rest => (f.set address value).store (address + 1) rest

/-- Reads bytes from successive addresses. -/
def fetch (f : RegisterFile) (address : UInt16) : Nat -> List UInt8
  | 0 => []
  | count + 1 => f.get address :: f.fetch (address + 1) count

/-!
# Reading back
-/

@[simp]
theorem get_set_same (f : RegisterFile) (a : UInt16) (v : UInt8) :
    (f.set a v).get a = v := by
  simp [get, set]

@[simp]
theorem length_fetch (f : RegisterFile) (a : UInt16) (n : Nat) :
    (f.fetch a n).length = n := by
  induction n generalizing a with
  | zero => rfl
  | succ n ih => simp [fetch, ih]

end RegisterFile
end ImageSensor
