import ImageSensor.Power.Board

/-!
# Control lines

A board may wire the reset line, the power-down line, both or neither.  Reset
is asserted low; the sensor runs while the power-down line is high.  A line
that refuses a level is no reason to stop a power sequence.
-/

namespace ImageSensor

/-- Which lines are wired. -/
structure Lines where
  hasReset : Bool
  hasPowerDown : Bool
deriving DecidableEq

namespace Lines

/-- Both lines, in order. -/
def wired : Lines :=
  ⟨true, true⟩

/-- Whether a line is wired. -/
def has (l : Lines) : Line -> Bool
  | .reset => l.hasReset
  | .powerDown => l.hasPowerDown

/-- Puts a level on a line, if it is wired. -/
def drive (line : Line) (high : Bool) (l : Lines) : Action Board Unit :=
  ⟨fun b =>
    { result := .ok ()
      state := b.settle (l.has line).toNat
      events := if l.has line then [.line line high (b.agrees b.refusesLevels)] else [] }⟩

def assertReset : Lines -> Action Board Unit :=
  drive .reset false

def releaseReset : Lines -> Action Board Unit :=
  drive .reset true

def powerDown : Lines -> Action Board Unit :=
  drive .powerDown false

def powerUp : Lines -> Action Board Unit :=
  drive .powerDown true

end Lines
end ImageSensor
