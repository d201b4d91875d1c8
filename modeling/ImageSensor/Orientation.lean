/-!
# Readout orientation

The readout may be mirrored left to right and flipped top to bottom.  Both
axes together make a two-bit code, the mirror in the lower bit.
-/

namespace ImageSensor

/-- Which axes of the readout are reversed. -/
@[ext]
structure Orientation where
  mirror : Bool
  flip : Bool
deriving DecidableEq

namespace Orientation

/-- The readout as the pixels lie on the sensor. -/
def normal : Orientation :=
  ⟨false, false⟩

/-- The bit of the code that stands for the mirror. -/
def mirrorBit : UInt8 := 1

/-- The bit of the code that stands for the flip. -/
def flipBit : UInt8 := 2

/-- The two-bit code. -/
def code (o : Orientation) : UInt8 :=
  (if o.mirror then mirrorBit else 0) ||| (if o.flip then flipBit else 0)

/-- The orientation of a code; bits above the lowest two mean nothing. -/
def ofCode (code : UInt8) : Orientation where
  mirror := code &&& mirrorBit != 0
  flip := code &&& flipBit != 0

@[simp]
theorem ofCode_code (o : Orientation) : ofCode o.code = o := by
  rcases o with ⟨mirror, flip⟩
  cases mirror <;> cases flip <;> rfl

end Orientation
end ImageSensor
