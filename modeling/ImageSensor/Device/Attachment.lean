import ImageSensor.Device.Power
import ImageSensor.Register

/-!
# Attaching and detaching

A device is attached by powering it up once and asking for its identity; then
it is powered down until it has a user.  With a boot stage's set-up in use
nothing is asked: the clock keeps running and a user is added that stays until
the first stream has been stopped.
-/

namespace ImageSensor
namespace Device

/-- Checks that the right part answers. -/
def identify : Action Device Unit := do
  let id <- onBus (Bus.readPair Register.chipId)
  if id = Register.genuineChip then
    pure ()
  else
    Action.report (.wrongChip id)

/-- Powers the sensor up, identifies it, and leaves it waiting for a user. -/
def bringUp : Action Device Unit := do
  powerOn
  let session <- Action.inspect Device.session
  if session.fastBoot then do
    let _first <- onRig Rig.get
    pure ()
  else do
    Action.onError identify powerOff
    powerOff

/-- Attaches the sensor of a rig. -/
def attach (c : Config) (rig : Rig) : Outcome Device Unit :=
  bringUp.run (initial c rig)

/-- Powers the sensor down if it is not, and gives up the device. -/
def detach : Action Device Unit := do
  let session <- Action.inspect Device.session
  Action.when session.active powerOff

end Device
end ImageSensor
