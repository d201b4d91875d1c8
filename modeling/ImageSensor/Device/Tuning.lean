import ImageSensor.Device.Power
import ImageSensor.Register

/-!
# Tuning the device

A control that spreads over several registers is written as a whole: all its
registers are attempted and the first error is reported.  Exposure and gain
reach the registers in linear modes only.  A flip reads both axes from the
sensor, changes one and writes both, so that the axes stay independent.
-/

namespace ImageSensor

namespace Bus

/-- Attempts every write, and reports the first error. -/
def writeEach : List (UInt16 × UInt8) -> Action Bus Unit
  | [] => pure ()
  | (register, value) :: rest =>
      Action.both (writeByte register value) (writeEach rest)

end Bus

namespace Register

/-- The writes that set an exposure. -/
def exposureWrites (lines : UInt32) : List (UInt16 × UInt8) :=
  [exposureHigh, exposureMiddle, exposureLow].zip (toBytes 3 lines)

/-- The writes that set a gain. -/
def gainWrites (fields : Gain.Fields) : List (UInt16 × UInt8) :=
  [ (gainCompound, fields.compound),
    (gainExtension, fields.extension),
    (gainCoarse, fields.coarse) ]

/-- The writes that set an orientation. -/
def orientationWrites (o : Orientation) : List (UInt16 × UInt8) :=
  [ (flip, o.flip.toUInt8),
    (mirror, o.mirror.toUInt8) ]

end Register

namespace Device

/-- The orientation of the sensor, each axis from its own register. -/
def readOrientation : Action Device Orientation := do
  let mirror <- onBus (Bus.readByte Register.mirror)
  let flip <- onBus (Bus.readByte Register.flip)
  pure ⟨mirror &&& 1 != 0, flip &&& 1 != 0⟩

/-- Writes both axes of a code, and remembers them if both writes succeed. -/
def setOrientation (code : UInt8) : Action Device Unit := do
  let o := Orientation.ofCode code
  onBus (Bus.writeEach (Register.orientationWrites o))
  changeSession fun s => { s with orientation := o }

/-- The code of an orientation stands for all that is written of it. -/
theorem setOrientation_code (o : Orientation) :
    setOrientation o.code =
      (onBus (Bus.writeEach (Register.orientationWrites o)) >>= fun _ =>
        changeSession fun s => { s with orientation := o }) := by
  rw [setOrientation, Orientation.ofCode_code]

/-- Puts the value of a control into the sensor. -/
def push : Control -> Action Device Unit
  | .exposure lines => do
      let mode <- Action.inspect Device.mode
      Action.when mode.isLinear
        (onBus (Bus.writeEach (Register.exposureWrites lines)))
  | .analogGain gain => do
      let mode <- Action.inspect Device.mode
      Action.when mode.isLinear
        (onBus (Bus.writeEach (Register.gainWrites (Gain.encode gain))))
  | .horizontalBlank _ => pure ()
  | .verticalBlank _ =>
      -- frames keep their default length; only the exposure limit follows
      changeSession fun s => { s with frameLength := s.entry.mode.frameLength }
  | .testPattern _ => pure ()
  | .horizontalFlip on => do
      let o <- readOrientation
      setOrientation { o with mirror := on }.code
  | .verticalFlip on => do
      let o <- readOrientation
      setOrientation { o with flip := on }.code

/-- Puts the values of several controls into the sensor, up to the first error. -/
def pushAll : List Control -> Action Device Unit
  | [] => pure ()
  | control :: rest => do
      push control
      pushAll rest

/-- Puts a control into the sensor, and the exposure too if it had to move. -/
def pushStored (request : Control) : ControlSet × Bool -> Action Device Unit
  | (_, false) => push request
  | (controls, true) =>
      Action.both (push request) (push (.exposure controls.exposure.value))

/--
Puts a stored control into the sensor and gives up the user added for that.
If the sensor cannot be written the controls become what they were before.
-/
def deliver (before : ControlSet) (request : Control) (stored : ControlSet × Bool) :
    Action Device Unit :=
  Action.onError (Action.ensuring (pushStored request stored) release)
    (changeControls before)

/--
Follows the host's request for a control.  Without power the value waits for
the next start of the stream.  If the sensor cannot be written, all controls
keep the values they had.
-/
def applyControl (request : Control) : Action Device Unit := do
  let before <- Action.inspect Device.controls
  let mode <- Action.inspect Device.mode
  if before.accepts request then do
    let stored <- Action.compute (before.store request mode)
    changeControls stored.1
    let inUse <- onRig Rig.getIfInUse
    Action.when inUse (deliver before request stored)
  else
    Action.report .invalidArgument

end Device
end ImageSensor
