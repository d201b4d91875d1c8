import ImageSensor.Config
import ImageSensor.Control.Set
import ImageSensor.Format
import ImageSensor.Power.Rig

/-!
# The device

A device joins a sensor's configuration, the session with its host, its
controls and the rig it lives in.  The session keeps what the registers cannot
tell: the mode in use, who asked for power, and how far the sensor has been
brought up.  Every operation runs to its end before the next begins.
-/

namespace ImageSensor

/-- What is known about the sensor between two operations. -/
structure Session where
  entry : Entry
  /-- The host asked for power. -/
  hostPower : Bool
  streaming : Bool
  /-- The power-up sequence ran and was not undone. -/
  active : Bool
  /-- The program of the current mode was replayed. -/
  programmed : Bool
  interval : Fraction
  frameLength : UInt32
  /-- The orientation last written to the sensor. -/
  orientation : Orientation
  /-- The sensor still runs on what the boot stage set up. -/
  fastBoot : Bool
  /-- A stream was stopped while the boot stage's set-up was in use. -/
  stoppedOnce : Bool
  scratchFormat : FrameFormat
deriving DecidableEq

/-- A sensor under control. -/
structure Device where
  config : Config
  session : Session
  controls : ControlSet
  rig : Rig

/-- How far the sensor is brought up. -/
inductive PowerState where
  /-- The clock is stopped. -/
  | off
  /-- Powered, without a mode program. -/
  | standby
  | configured (entry : Entry)
  | streaming (entry : Entry)
deriving DecidableEq

namespace ControlSet

theorem isSome_ofMode_first (o : Orientation) :
    (ofMode Catalog.first.mode o).toOption.isSome = true := rfl

/-- The controls of the mode the sensor starts in. -/
def initial (o : Orientation) : ControlSet :=
  (ofMode Catalog.first.mode o).toOption.get (isSome_ofMode_first o)

theorem ofMode_first (o : Orientation) :
    ofMode Catalog.first.mode o = .ok (initial o) := rfl

end ControlSet

namespace Session

/-- The session before anything was done. -/
def initial (c : Config) : Session where
  entry := Catalog.first
  hostPower := false
  streaming := false
  active := false
  programmed := false
  interval := Catalog.first.mode.interval
  frameLength := Catalog.first.mode.frameLength
  orientation := c.orientation
  fastBoot := c.fastBoot
  stoppedOnce := false
  scratchFormat := FrameFormat.ofMode Catalog.first.mode 0

/-- How far the sensor is brought up. -/
def powerState (s : Session) : PowerState :=
  if s.streaming then .streaming s.entry
  else if !s.active then .off
  else if s.programmed then .configured s.entry
  else .standby

/-- The tracked interval while streaming, else that of the mode. -/
def frameInterval (s : Session) : Fraction :=
  if s.streaming then s.interval else s.entry.mode.interval

end Session

namespace Device

variable {α : Type}

/-- A device before anything was done, on the bus address of its configuration. -/
def initial (c : Config) (rig : Rig) : Device where
  config := c
  session := Session.initial c
  controls := ControlSet.initial c.orientation
  rig := { rig with bus := rig.bus.address c.device }

/-- The mode in use. -/
def mode (d : Device) : Mode :=
  d.session.entry.mode

/-!
# Parts
-/

def onRig : Action Rig α -> Action Device α :=
  Action.within ⟨Device.rig, fun rig device => { device with rig := rig }⟩

def onBus (x : Action Bus α) : Action Device α :=
  onRig (Rig.onBus x)

def changeSession (f : Session -> Session) : Action Device Unit :=
  Action.update fun d => { d with session := f d.session }

def changeControls (controls : ControlSet) : Action Device Unit :=
  Action.update fun d => { d with controls := controls }

end Device
end ImageSensor
