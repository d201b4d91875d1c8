/-!
# Register map

Addresses are 16 bits wide, values 8 bits.  Values wider than a byte are
spread over several registers: the exposure over three, the analog gain over a
coarse part, its ninth bit and a ramp bias.
-/

namespace ImageSensor
namespace Register

/-- The first of the two identification bytes. -/
def chipId : UInt16 := 0x0011

/-- Bits 7 to 0 of the ramp gain. -/
def gainCoarse : UInt16 := 0x0018

/-- Bit 8 of the ramp gain. -/
def gainExtension : UInt16 := 0x0019

/-- The ramp bias. -/
def gainCompound : UInt16 := 0x001b

def flip : UInt16 := 0x0099

def mirror : UInt16 := 0x009a

def exposureLow : UInt16 := 0x00cd

def exposureMiddle : UInt16 := 0x00ce

def exposureHigh : UInt16 := 0x00cf

/-- Software standby and streaming. -/
def streamControl : UInt16 := 0x0126

/-!
# Values
-/

/-- What a genuine part answers at `chipId`. -/
def genuineChip : UInt16 := 0x0400

/-- The value of `streamControl` that starts the stream. -/
def streaming : UInt8 := 0x00

/-- The value of `streamControl` that stops the stream. -/
def standby : UInt8 := 0x01

end Register
end ImageSensor
