import ImageSensor.Bus
import ImageSensor.Power.Board
import ImageSensor.Power.Lines
import ImageSensor.Power.UsageCount

/-!
# The rig

The surroundings of the sensor in one value: bus, board, control lines and
usage count, with the power sequences that use several of them.  The order
within a sequence is electrical: rails before reset is released, reset before
the power-down line, and a pause before the first bus access that covers the
start-up of the sensor at the given clock.
-/

namespace ImageSensor

variable {α : Type}

/-- Everything around the sensor. -/
structure Rig where
  bus : Bus
  board : Board
  lines : Lines
  usage : UsageCount

namespace Rig

/-!
# Parts
-/

def onBus : Action Bus α -> Action Rig α :=
  Action.within ⟨Rig.bus, fun bus rig => { rig with bus := bus }⟩

def onBoard : Action Board α -> Action Rig α :=
  Action.within ⟨Rig.board, fun board rig => { rig with board := board }⟩

/-- What the board does with the lines it wires. -/
def onLines (x : Lines -> Action Board α) : Action Rig α := do
  let lines <- Action.inspect Rig.lines
  onBoard (x lines)

def pauseMicroseconds (count : UInt32) : Action Rig Unit :=
  Action.emit (.pauseMicroseconds count)

/-!
# Usage
-/

/-- Moves the usage count and records the call. -/
def moveUsage (call : UsageCall) (move : UsageCount -> Checked (Bool × UsageCount)) :
    Action Rig Bool :=
  ⟨fun rig =>
    match move rig.usage with
    | .ok (answer, usage) =>
        { result := .ok answer
          state := { rig with usage := usage }
          events := [.usage call (some answer) usage.count] }
    | .error o =>
        { result := .error (.overflow o)
          state := rig
          events := [] }⟩

/-- Adds a user.  Answers whether the device has to be powered up. -/
def get : Action Rig Bool :=
  moveUsage .get UsageCount.get

/-- Adds a user if there is one already.  Answers whether there was. -/
def getIfInUse : Action Rig Bool :=
  moveUsage .getIfInUse UsageCount.getIfInUse

/-- Removes a user.  Answers whether the device has to be powered down. -/
def put : Action Rig Bool :=
  moveUsage .put fun usage => pure usage.put

/-- Removes a user and leaves the power as it is. -/
def putNoIdle : Action Rig Unit :=
  ⟨fun rig =>
    { result := .ok ()
      state := { rig with usage := rig.usage.putNoIdle }
      events := [.usage .putNoIdle none rig.usage.putNoIdle.count] }⟩

/-!
# Power sequences
-/

/-- Clock cycles the sensor needs from power-up to its first bus access. -/
def readyCycles : UInt32 := 8192

/-- Microseconds that cover some cycles of a clock, rounded up. -/
def coveringDelay (cycles hertz : UInt32) : Checked UInt32 := do
  let perMicrosecond := max (hertz / 1000000) 1
  let sum <- Checked.add cycles perMicrosecond
  let rounded <- Checked.sub sum 1
  pure (rounded / perMicrosecond)

/--
Starts the reference clock.  Pins that stay as they are, a rate that is
refused and a rate that reads back differently are all tolerated.
-/
def startClock (hertz : UInt32) : Action Rig Unit := do
  let _pinsSet <- onBoard (Board.selectPins .default)
  let _rateSet <- onBoard (Board.setClockRate hertz)
  let _rateHeld <- Action.inspect fun rig => rig.board.clockRate == hertz
  onBoard Board.enableClock

def stopClock : Action Rig Unit :=
  onBoard Board.disableClock

/--
Brings up the rails under a running clock and lets the sensor start.  When the
rails cannot be brought up the clock is stopped again.
-/
def raiseRails (hertz : UInt32) : Action Rig Unit := do
  onLines Lines.assertReset
  Action.onError (onBoard Board.enableSupplies) stopClock
  onLines Lines.releaseReset
  pauseMicroseconds 500
  onLines Lines.powerUp
  let hasReset <- Action.inspect fun rig => rig.lines.hasReset
  pauseMicroseconds (if hasReset then 6000 else 12000)
  let ready <- Action.compute (coveringDelay readyCycles hertz)
  pauseMicroseconds ready

/-- Takes the rails down, with the clock already stopped. -/
def lowerRails : Action Rig Unit := do
  onLines Lines.powerDown
  onLines Lines.assertReset
  let _pinsSet <- onBoard (Board.selectPins .sleep)
  onBoard Board.disableSupplies

end Rig
end ImageSensor
