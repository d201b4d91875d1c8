import ImageSensor.Action

/-!
# The board

The board provides the reference clock, the supply rails and the settings of the
pin multiplexer and the control lines, and knows whether an earlier boot stage
handed the sensor over.  Each of its services may refuse.  Settings are numbered,
so that one may be refused and the next one not.  A minimal board has no
multiplexer and takes no part in a hand-over.
-/

namespace ImageSensor

/-- The services of the board and which of them refuse. -/
structure Board where
  refusesRate : Bool
  refusesClock : Bool
  refusesSupplies : Bool
  /-- All settings of the multiplexer. -/
  refusesPins : Bool
  /-- All levels on the control lines. -/
  refusesLevels : Bool
  /-- Single settings of either kind, by their number. -/
  refusedSettings : List Nat
  /-- How many settings were asked for. -/
  settings : Nat
  /-- The boot stage left the sensor unconfigured. -/
  handoffFailed : Bool
  minimal : Bool
  /-- The rate last set. -/
  rate : UInt32
  /-- The rate the board claims whatever was set, if it does. -/
  claimedRate : Option UInt32
deriving DecidableEq

namespace Board

/-- A board on which everything works. -/
def sound : Board :=
  ⟨false, false, false, false, false, [], 0, false, false, 0, none⟩

/-- The clock rate as the board tells it. -/
def clockRate (b : Board) : UInt32 :=
  b.claimedRate.getD b.rate

/-- Whether the board reports that the hand-over from the boot stage failed. -/
def reportsHandoffFailure (b : Board) : Bool :=
  !b.minimal && b.handoffFailed

/-- Whether the board agrees to the next setting, of a kind that it may refuse always. -/
def agrees (b : Board) (refusesAll : Bool) : Bool :=
  !(refusesAll || b.refusedSettings.contains b.settings)

/-- The board after some more settings. -/
def settle (b : Board) (count : Nat) : Board :=
  { b with settings := b.settings + count }

/-!
# Services
-/

/-- Sets the pin multiplexer.  Answers whether the board agreed. -/
def selectPins (state : PinState) : Action Board Bool :=
  ⟨fun b =>
    let agrees := b.agrees b.refusesPins
    { result := .ok (b.minimal || agrees)
      state := b.settle (!b.minimal).toNat
      events := if b.minimal then [] else [.pins state agrees] }⟩

/-- Asks for a clock rate.  Answers whether the board agreed. -/
def setClockRate (hertz : UInt32) : Action Board Bool :=
  ⟨fun b =>
    { result := .ok (!b.refusesRate)
      state := if b.refusesRate then b else { b with rate := hertz }
      events := [.clockRate hertz (!b.refusesRate)] }⟩

def enableClock : Action Board Unit :=
  ⟨fun b =>
    { result :=
        if b.refusesClock then .error (.reported (.unavailable .clock)) else .ok ()
      state := b
      events := [.clockOn (!b.refusesClock)] }⟩

def disableClock : Action Board Unit :=
  Action.emit .clockOff

def enableSupplies : Action Board Unit :=
  ⟨fun b =>
    { result :=
        if b.refusesSupplies then .error (.reported (.unavailable .supplies))
        else .ok ()
      state := b
      events := [.suppliesOn (!b.refusesSupplies)] }⟩

def disableSupplies : Action Board Unit :=
  Action.emit .suppliesOff

end Board
end ImageSensor
