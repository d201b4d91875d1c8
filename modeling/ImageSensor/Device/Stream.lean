import ImageSensor.Device.Tuning

/-!
# Streaming

To start, the mode's program is replayed and all controls are put into the
sensor before the stream is switched on; if any of this fails the user that
was added for the stream is removed again.  To stop, the stream is switched
off and the user removed, whatever the sensor answers.  A sensor that a boot
stage has set up is started as it is, unless the board reports that the
hand-over failed; then its rails are brought up first.
-/

namespace ImageSensor
namespace Device

/-- Switches the stream on or off in the sensor, and does nothing else. -/
def switchStream (on : Bool) : Action Device Unit :=
  onBus (Bus.writeByte Register.streamControl
    (if on then Register.streaming else Register.standby))

/-- Replays the program of the current mode and puts in all controls. -/
def loadMode : Action Device Unit := do
  let program <- Action.inspect fun d => d.mode.program
  onBus (Program.replay program)
  changeSession fun s => { s with programmed := true }
  let controls <- Action.inspect fun d => d.controls.snapshot
  pushAll controls

/-- Prepares the sensor, unless a boot stage has, and switches the stream on. -/
def startStream : Action Device Unit := do
  let session <- Action.inspect Device.session
  Action.when (!session.fastBoot) loadMode
  switchStream true

/-- Removes the user that stands for the boot stage's set-up. -/
def leaveBootStage : Action Device Unit := do
  changeSession fun s => { s with stoppedOnce := true }
  release

/-- Switches the stream off, leaving the boot stage's set-up if it is in use. -/
def stopStream : Action Device Unit := do
  let session <- Action.inspect Device.session
  Action.when session.fastBoot leaveBootStage
  switchStream false

/-- Records that the clock has stopped, and removes the user added at attach. -/
def abandonTakeOver : Action Device Unit := do
  changeSession fun s => { s with active := false }
  onRig Rig.putNoIdle

/--
Brings up the rails after a failed hand-over, under the clock that runs since
the device was attached.  Answers whether the user added at that time is still
there; a clock that was stopped has taken it along.
-/
def takeOver : Action Device Bool := do
  changeSession fun s => { s with fastBoot := false }
  let session <- Action.inspect Device.session
  Action.when session.active (Action.onError raiseRails abandonTakeOver)
  pure session.active

/-- Takes over from the boot stage if the board reports a failed hand-over. -/
def takeOverIfNeeded : Action Device Bool := do
  let device <- Action.inspect id
  if device.session.fastBoot && device.rig.board.reportsHandoffFailure then
    takeOver
  else
    pure false

/-- Adds a user for the stream and starts it. -/
def beginStream : Action Device Unit := do
  let surplus <- takeOverIfNeeded
  acquire
  Action.when surplus (onRig Rig.putNoIdle)
  Action.onError startStream release
  changeSession fun s => { s with streaming := true }

/-- Removes the user of the stream. -/
def leaveStream : Action Device Unit := do
  release
  changeSession fun s => { s with streaming := false }

/-- Stops the stream and removes its user, whatever the sensor answers. -/
def endStream : Action Device Unit :=
  Action.ensuring stopStream leaveStream

/-- Follows the host's request for a stream. -/
def setStream (on : Bool) : Action Device Unit := do
  let session <- Action.inspect Device.session
  if session.streaming = on then
    pure ()
  else if on then
    beginStream
  else
    endStream

end Device
end ImageSensor
