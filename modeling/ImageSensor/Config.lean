import ImageSensor.Orientation

/-!
# Configuration

What a board knows about its sensor before it talks to it: the bus address and
clock rate to use, whether a boot stage has already set the sensor up, and how
the camera module is built and mounted.
-/

namespace ImageSensor

/-- The side of the device that the camera looks out of. -/
inductive Facing where
  | back
  | front
deriving DecidableEq

namespace Facing

/-- The letter for the side in a subdevice name. -/
def letter : Facing -> Char
  | .back => 'b'
  | .front => 'f'

end Facing

/-- The module around the sensor. -/
structure CameraModule where
  index : UInt32
  facing : Facing
  name : String
  lens : String
deriving DecidableEq

/-- What the module is made of. -/
structure ModuleInfo where
  sensor : String
  name : String
  lens : String
deriving DecidableEq

/-- The description of a sensor and its place on the board. -/
structure Config where
  device : UInt8
  /-- The reference clock rate to ask for, in hertz. -/
  clockRate : UInt32
  /-- An earlier boot stage has powered and programmed the sensor. -/
  fastBoot : Bool
  camera : CameraModule
  /-- Where the flip controls start. -/
  orientation : Orientation
deriving DecidableEq

namespace Config

def sensorName : String :=
  "mia1321"

/-- The clock rate in hertz that the register programs assume. -/
def referenceClock : UInt32 := 26000000

/-- The configuration that a board changes where it differs. -/
def standard : Config where
  device := 0x36
  clockRate := referenceClock
  fastBoot := false
  camera := ⟨0, .back, "", ""⟩
  orientation := .normal

def moduleInfo (c : Config) : ModuleInfo :=
  ⟨sensorName, c.camera.name, c.camera.lens⟩

/-- A number in base ten, with a leading zero if it has a single digit. -/
def twoDigits (n : Nat) : String :=
  if n < 10 then "0" ++ toString n else toString n

/--
The name the sensor is listed under: the module index with at least two
digits, the side it faces, the sensor, and the name of the bus device.
-/
def subdeviceName (c : Config) (device : String) : String :=
  "m" ++ twoDigits c.camera.index.toNat ++ "_" ++
    c.camera.facing.letter.toString ++ "_" ++ sensorName ++ " " ++ device

end Config
end ImageSensor
