import ImageSensor.Device
import ImageSensor.Mode.Programs

/-!
# Powering the device

The device is powered while its usage count is positive.  A sensor that a boot
stage has set up is not touched: only its clock runs under our control, until
the first stream has been stopped and the last user has gone.
-/

namespace ImageSensor
namespace Device

/-- Brings up the rails, with the clock already running. -/
def raiseRails : Action Device Unit := do
  let config <- Action.inspect Device.config
  onRig (Rig.raiseRails config.clockRate)

/-- Runs the power-up sequence. -/
def powerOn : Action Device Unit := do
  let device <- Action.inspect id
  onRig (Rig.startClock device.config.clockRate)
  Action.when (!device.session.fastBoot) raiseRails
  changeSession fun s => { s with active := true }

/--
Runs the power-down sequence.  While the boot stage's set-up is in use and no
stream was stopped yet, only the clock stops; after that the set-up is given
up together with the power.
-/
def powerOff : Action Device Unit := do
  onRig Rig.stopClock
  changeSession fun s => { s with active := false, programmed := false }
  let session <- Action.inspect Device.session
  if session.fastBoot && !session.stoppedOnce then
    pure ()
  else do
    Action.when session.fastBoot
      (changeSession fun s => { s with fastBoot := false, stoppedOnce := false })
    onRig Rig.lowerRails

/-!
# Users
-/

/-- Adds a user and powers up for the first.  Without power there is no user. -/
def acquire : Action Device Unit := do
  let first <- onRig Rig.get
  Action.when first (Action.onError powerOn (onRig Rig.putNoIdle))

/-- Removes a user and powers down after the last. -/
def release : Action Device Unit := do
  let last <- onRig Rig.put
  Action.when last powerOff

/-- Replays the program common to all modes, or removes the user it was for. -/
def loadCommon : Action Device Unit :=
  Action.onError (onBus (Program.replay Program.common)) (onRig Rig.putNoIdle)

/-- Makes the host a user of the device. -/
def grantPower : Action Device Unit := do
  acquire
  let session <- Action.inspect Device.session
  Action.when (!session.fastBoot) loadCommon
  changeSession fun s => { s with hostPower := true }

/-- Ends the host's use of the device. -/
def withdrawPower : Action Device Unit := do
  release
  changeSession fun s => { s with hostPower := false }

/-- Follows the host's request for power. -/
def setPower (on : Bool) : Action Device Unit := do
  let session <- Action.inspect Device.session
  if session.hostPower = on then
    pure ()
  else if on then
    grantPower
  else
    withdrawPower

end Device
end ImageSensor
