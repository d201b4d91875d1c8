import ImageSensor.Device.Operation

/-!
# Scenarios

A scenario is a device on a rig, and a list of steps: operations of the host,
changes in the surroundings, and finally giving the device up.  Running it
yields one record for the attachment and one for each step.  Nothing runs
after an attachment that failed, after an overflow, or after the device was
given up.
-/

namespace ImageSensor
namespace Scenario

variable {α : Type}

/-!
# Steps
-/

/-- Settings of the board to change; what is absent stays. -/
structure BoardChange where
  refusesRate : Option Bool
  refusesClock : Option Bool
  refusesSupplies : Option Bool
  refusesPins : Option Bool
  refusesLevels : Option Bool
  /-- Single settings of pins and lines to refuse, counted from the next. -/
  refusedSettings : List Nat
  handoffFailed : Option Bool
  claimedRate : Option UInt32
deriving DecidableEq

namespace BoardChange

def none : BoardChange :=
  ⟨.none, .none, .none, .none, .none, [], .none, .none⟩

/-- The board after the change. -/
def apply (change : BoardChange) (b : Board) : Board :=
  { b with
    refusesRate := change.refusesRate.getD b.refusesRate
    refusesClock := change.refusesClock.getD b.refusesClock
    refusesSupplies := change.refusesSupplies.getD b.refusesSupplies
    refusesPins := change.refusesPins.getD b.refusesPins
    refusesLevels := change.refusesLevels.getD b.refusesLevels
    refusedSettings := b.refusedSettings ++
      change.refusedSettings.map fun k => b.settings + k
    handoffFailed := change.handoffFailed.getD b.handoffFailed
    claimedRate := change.claimedRate.orElse fun _ => b.claimedRate }

end BoardChange

/-- A change in the surroundings, behind the back of the device. -/
inductive Disturbance where
  | load (registers : List (UInt16 × UInt8))
  /-- Plan faults of the bus, and let services of the board fail or work. -/
  | fail (faults : Faults) (board : BoardChange)
  /-- Drop all planned faults of the bus. -/
  | heal
  /-- Another user of the device, which does not power it. -/
  | usage (call : UsageCall)
deriving DecidableEq

/-- One step of a scenario. -/
inductive Step where
  | operation (request : Operation)
  /-- A control named by kind and number, which may name no request. -/
  | setting (kind : Control.Kind) (value : UInt32)
  | disturbance (change : Disturbance)
  /-- Look at the byte stored in a register. -/
  | peek (register : UInt16)
  | detach
deriving DecidableEq

/-!
# Records
-/

/-- What a step answers. -/
inductive Reply where
  | answer (answer : Operation.Answer)
  | flag (flag : Bool)
  | stored (byte : Option UInt8)
  | refused (error : Error)
  /-- The step named a setting that no request stands for. -/
  | unknownSetting
deriving DecidableEq

/-- What can be seen of a device between two steps. -/
structure Status where
  state : PowerState
  entry : Entry
  fastBoot : Bool
  frameLength : UInt32
  orientation : Orientation
  controls : ControlSet
deriving DecidableEq

namespace Status

def ofDevice (d : Device) : Status where
  state := d.session.powerState
  entry := d.session.entry
  fastBoot := d.session.fastBoot
  frameLength := d.session.frameLength
  orientation := d.session.orientation
  controls := d.controls

end Status

/-- The record of a step. -/
inductive Record where
  /-- Word arithmetic overflowed, and the run ended there. -/
  | overflowed (kind : Overflow) (events : List Event)
  /-- The step answered.  There is no status once the device is gone. -/
  | answered (reply : Reply) (events : List Event) (usage : UInt32)
      (status : Option Status)
deriving DecidableEq

/-!
# Performing a step
-/

namespace Disturbance

/-- Lets a disturbance happen. -/
def happen : Disturbance -> Action Rig Reply
  | .load registers => do
      Action.update fun rig =>
        { rig with bus := { rig.bus with file := rig.bus.file.load registers } }
      pure (.answer .done)
  | .fail faults change => do
      Action.update fun rig =>
        { rig with
          bus := rig.bus.plan faults
          board := change.apply rig.board }
      pure (.answer .done)
  | .heal => do
      Action.update fun rig => { rig with bus := rig.bus.heal }
      pure (.answer .done)
  | .usage .get => .flag <$> Rig.get
  | .usage .getIfInUse => .flag <$> Rig.getIfInUse
  | .usage .put => .flag <$> Rig.put
  | .usage .putNoIdle => do
      Rig.putNoIdle
      pure (.answer .done)

end Disturbance

namespace Step

/-- The address that the bus is tried at once it was handed back. -/
def probeDevice : UInt8 := 0x7f

/-- What is sent to it: an address with no byte behind it. -/
def probeMessage : List UInt8 := [0, 0]

/-- Performs a step. -/
def perform : Step -> Action Device Reply
  | .operation request => .answer <$> request.perform
  | .setting kind value =>
      match Control.ofValue? kind value with
      | some request => .answer <$> (Operation.applyControl request).perform
      | none => pure .unknownSetting
  | .disturbance change => Device.onRig change.happen
  | .peek register =>
      Action.inspect fun d => .stored (d.rig.bus.file.stored register)
  | .detach => do
      Device.detach
      Device.onBus do
        Action.update fun bus => { bus with device := probeDevice }
        Bus.transmit probeMessage
      pure (.answer .done)

/-- Whether the device is gone after the step. -/
def isFinal : Step -> Bool
  | .detach => true
  | _ => false

end Step

/-!
# Running a scenario
-/

/-- The record of an outcome that ended without an overflow. -/
def record (reply : Reply) (o : Outcome Device α) (kept : Bool) : Record :=
  .answered reply o.events o.state.rig.usage.count
    (if kept then some (Status.ofDevice o.state) else none)

/-- Performs the steps in order. -/
def run (d : Device) : List Step -> List Record
  | [] => []
  | step :: rest =>
      let o := step.perform.run d
      match o.result with
      | .error (.overflow kind) => [.overflowed kind o.events]
      | .error (.reported error) =>
          record (.refused error) o (!step.isFinal) ::
            (if step.isFinal then [] else run o.state rest)
      | .ok reply =>
          record reply o (!step.isFinal) ::
            (if step.isFinal then [] else run o.state rest)

/-- Attaches a device and performs the steps. -/
def play (c : Config) (rig : Rig) (steps : List Step) : List Record :=
  let o := Device.attach c rig
  match o.result with
  | .error (.overflow kind) => [.overflowed kind o.events]
  | .error (.reported error) => [record (.refused error) o false]
  | .ok () => record (.answer .done) o true :: run o.state steps

end Scenario
end ImageSensor
