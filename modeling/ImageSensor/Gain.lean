/-!
# Analog gain

Gain is requested in linear units.  The sensor takes it as a power of two
times a number of sixteenths, split over two registers, and wants a ramp bias
that follows the gain.  Only the points of `table` are used, with nothing in
between: a request takes the first point whose bound covers it.
-/

namespace ImageSensor
namespace Gain

/-- The register fields of one analog gain. -/
structure Fields where
  /-- Bits 7 to 0 of the ramp gain. -/
  coarse : UInt8
  /-- Bit 8 of the ramp gain. -/
  extension : UInt8
  /-- The ramp bias. -/
  compound : UInt8
deriving DecidableEq

/-- The fields that serve every request up to a bound. -/
structure Point where
  bound : UInt32
  fields : Fields
deriving DecidableEq

/-!
# The unit
-/

/-- The units that stand for a gain of one. -/
def unit : UInt32 := 0x5dc

def minimum : UInt32 := unit

def maximum : UInt32 := unit * 32

def step : UInt32 := 1

def initial : UInt32 := unit

/-!
# The table
-/

/-- The gains in use, by ascending bound. -/
def table : List Point :=
  [ ⟨800, ⟨0x00, 0x0, 0x1f⟩⟩,
    ⟨1000, ⟨0x04, 0x0, 0x1f⟩⟩,
    ⟨1250, ⟨0x09, 0x0, 0x1f⟩⟩,
    ⟨1500, ⟨0x0e, 0x0, 0x1f⟩⟩,
    ⟨1750, ⟨0x13, 0x0, 0x2b⟩⟩,
    ⟨2200, ⟨0x1c, 0x0, 0x2b⟩⟩,
    ⟨2450, ⟨0x21, 0x0, 0x2b⟩⟩,
    ⟨2700, ⟨0x26, 0x0, 0x2b⟩⟩,
    ⟨2950, ⟨0x2b, 0x0, 0x2b⟩⟩,
    ⟨3400, ⟨0x34, 0x0, 0x30⟩⟩,
    ⟨3650, ⟨0x39, 0x0, 0x30⟩⟩,
    ⟨3900, ⟨0x3e, 0x0, 0x30⟩⟩,
    ⟨4150, ⟨0x43, 0x0, 0x30⟩⟩,
    ⟨4600, ⟨0x4c, 0x0, 0x30⟩⟩,
    ⟨4850, ⟨0x51, 0x0, 0x30⟩⟩,
    ⟨5100, ⟨0x56, 0x0, 0x30⟩⟩,
    ⟨5350, ⟨0x5b, 0x0, 0x30⟩⟩,
    ⟨5800, ⟨0x64, 0x0, 0x30⟩⟩,
    ⟨6050, ⟨0x69, 0x0, 0x30⟩⟩,
    ⟨6300, ⟨0x6e, 0x0, 0x30⟩⟩,
    ⟨6550, ⟨0x73, 0x0, 0x32⟩⟩,
    ⟨7000, ⟨0x7c, 0x0, 0x32⟩⟩,
    ⟨7800, ⟨0xbe, 0x0, 0x32⟩⟩,
    ⟨8800, ⟨0xc8, 0x0, 0x32⟩⟩,
    ⟨9800, ⟨0xd2, 0x0, 0x32⟩⟩,
    ⟨10800, ⟨0xdc, 0x0, 0x32⟩⟩,
    ⟨12600, ⟨0xee, 0x0, 0x32⟩⟩,
    ⟨13600, ⟨0xf8, 0x0, 0x32⟩⟩,
    ⟨14600, ⟨0x39, 0x1, 0x32⟩⟩,
    ⟨15600, ⟨0x3e, 0x1, 0x32⟩⟩,
    ⟨17400, ⟨0x47, 0x1, 0x32⟩⟩,
    ⟨18400, ⟨0x4c, 0x1, 0x32⟩⟩,
    ⟨19400, ⟨0x51, 0x1, 0x32⟩⟩,
    ⟨20400, ⟨0x56, 0x1, 0x32⟩⟩,
    ⟨22200, ⟨0x5f, 0x1, 0x32⟩⟩,
    ⟨23200, ⟨0x64, 0x1, 0x32⟩⟩,
    ⟨24200, ⟨0x69, 0x1, 0x32⟩⟩,
    ⟨25200, ⟨0x6e, 0x1, 0x32⟩⟩,
    ⟨25600, ⟨0x70, 0x1, 0x32⟩⟩ ]

/-- The point with the highest gain. -/
def last : Point :=
  table.getLast (by decide)

/-- A request brought into the range of the table. -/
def clamp (gain : UInt32) : UInt32 :=
  min (max gain minimum) (maximum - 1)

/-- The register fields for a requested gain. -/
def encode (gain : UInt32) : Fields :=
  match table.find? fun point => decide (clamp gain ≤ point.bound) with
  | some point => point.fields
  | none => last.fields

namespace Fields

/-- The ramp gain as one nine-bit number. -/
def ramp (f : Fields) : Nat :=
  256 * f.extension.toNat + f.coarse.toNat

/-- The gain that the fields encode, in sixteenths. -/
def sixteenths (f : Fields) : Nat :=
  (16 + f.ramp % 128) <<< (f.ramp / 128)

end Fields

end Gain
end ImageSensor
