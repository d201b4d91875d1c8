import ImageSensor.Register.Program

/-!
# Operating modes

A mode fixes the pixel format, the readout size, the total line and frame
lengths with their blanking, the default exposure and the register program
that brings the sensor there.  Blanking and distances are differences and sums
of words, hence checked.
-/

namespace ImageSensor

/-- How pixels are coded on the media bus. -/
inductive PixelFormat where
  | sgrbg10
  | sgrbg12
deriving DecidableEq

namespace PixelFormat

/-- The media bus code. -/
def code : PixelFormat -> UInt32
  | .sgrbg10 => 0x300a
  | .sgrbg12 => 0x3011

end PixelFormat

/-- How many exposures make up a frame. -/
inductive Hdr where
  | off
  | two
  | three
deriving DecidableEq

namespace Hdr

/-- The number hosts know the scheme by. -/
def code : Hdr -> UInt32
  | .off => 0
  | .two => 5
  | .three => 6

end Hdr

/-- A frame interval in seconds. -/
structure Fraction where
  numerator : UInt32
  denominator : UInt32
deriving DecidableEq

/-- How many source pads a mode describes. -/
abbrev padCount : Nat := 4

/-- One operating mode. -/
structure Mode where
  format : PixelFormat
  width : UInt32
  height : UInt32
  /-- The interval at the highest frame rate. -/
  interval : Fraction
  /-- Pixels of a line, blanking included. -/
  lineLength : UInt32
  /-- Lines of a frame, blanking included. -/
  frameLength : UInt32
  /-- The default exposure in lines. -/
  exposure : UInt32
  program : Program
  hdr : Hdr
  /-- The virtual channel of each source pad. -/
  channels : Vector UInt8 padCount
deriving DecidableEq

namespace Mode

/-- Whether each frame has a single exposure. -/
def isLinear (m : Mode) : Bool :=
  decide (m.hdr = .off)

/-- The blanking at the end of each line. -/
def horizontalBlank (m : Mode) : Checked UInt32 :=
  Checked.sub m.lineLength m.width

/-- The blanking at the end of each frame of the default length. -/
def verticalBlank (m : Mode) : Checked UInt32 :=
  Checked.sub m.frameLength m.height

/-- How far the readout size is from a requested size, width plus height. -/
def distance (m : Mode) (width height : UInt32) : Checked UInt32 :=
  Checked.add (Checked.distance m.width width) (Checked.distance m.height height)

/-- The exact distance of the readout size from a requested size. -/
def exactDistance (m : Mode) (width height : UInt32) : Nat :=
  ((m.width.toNat - width.toNat) + (width.toNat - m.width.toNat)) +
    ((m.height.toNat - height.toNat) + (height.toNat - m.height.toNat))

theorem distance_eq_ok_iff {m : Mode} {width height d : UInt32} :
    m.distance width height = .ok d <-> m.exactDistance width height = d.toNat := by
  unfold distance exactDistance
  rw [Checked.add_eq_ok_iff, Checked.toNat_distance, Checked.toNat_distance]

/-- The virtual channel of a pad; only with several exposures do pads differ. -/
def channel (m : Mode) (pad : UInt32) : UInt8 :=
  if h : pad.toNat < padCount ∧ m.hdr ≠ .off then
    m.channels[pad.toNat]
  else
    m.channels[0]

end Mode
end ImageSensor
