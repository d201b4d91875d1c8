import ImageSensor.Mode

/-!
# The pixel link

Pixels leave the sensor over a serial link of two lanes.  Its frequency does
not depend on the mode; the pixel rate follows from it at two transfers per
clock and twelve bits per sample.
-/

namespace ImageSensor
namespace Link

def lanes : UInt32 := 2

def bitsPerSample : UInt32 := 12

/-- The clock frequency of a lane in hertz. -/
def frequency : UInt32 := 576000000

/-- Pixels per second over all lanes. -/
def pixelRate : UInt32 :=
  frequency / bitsPerSample * 2 * lanes

/-- How the link is set up. -/
structure Config where
  lanes : UInt32
  /-- Bit n is set when virtual channel n carries pixels. -/
  channels : UInt8
  continuousClock : Bool
deriving DecidableEq

/-- The virtual channels in use, one for each exposure. -/
def channels : Hdr -> UInt8
  | .off => 0b001
  | .two => 0b011
  | .three => 0b111

/-- The set-up for a number of lanes and an exposure scheme. -/
def config (lanes : UInt32) (hdr : Hdr) : Config :=
  ⟨lanes, channels hdr, true⟩

end Link
end ImageSensor
