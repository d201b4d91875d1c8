import ImageSensor.Bus

/-!
# Register programs

A program is a list of steps, each an address and a byte.  Two addresses do
not name registers: one asks for a pause, one ends the program, whatever
stands behind it.  A program without an end runs to its last step.
-/

namespace ImageSensor

namespace Program

/-- An address and a byte. -/
structure Step where
  address : UInt16
  value : UInt8
deriving DecidableEq

end Program

/-- The steps that bring the sensor to an operating point. -/
abbrev Program : Type :=
  List Program.Step

namespace Program

/-- The address that asks for a pause. -/
def pauseAddress : UInt16 := 0xfffe

/-- The address that ends a program. -/
def endAddress : UInt16 := 0xffff

/-- The step that ends a program. -/
def stop : Step :=
  ⟨endAddress, 0x00⟩

/-- The step that pauses for some milliseconds. -/
def pause (milliseconds : UInt8) : Step :=
  ⟨pauseAddress, milliseconds⟩

/-- Performs the steps in order, up to the end or to the first failed write. -/
def replay : Program -> Action Bus Unit
  | [] => pure ()
  | step :: rest =>
      if step.address = endAddress then
        pure ()
      else if step.address = pauseAddress then do
        Action.emit (.pauseMilliseconds step.value.toUInt32)
        replay rest
      else do
        Bus.writeByte step.address step.value
        replay rest

/-- The part of a program before its end. -/
def body (p : Program) : Program :=
  p.takeWhile fun step => decide (step.address ≠ endAddress)

section

variable {step : Step}

theorem replay_cons_of_end (h : step.address = endAddress) (rest : Program) :
    replay (step :: rest) = pure () :=
  if_pos h

theorem replay_cons_of_pause (h : step.address = pauseAddress) (rest : Program) :
    replay (step :: rest) =
      (Action.emit (.pauseMilliseconds step.value.toUInt32) >>= fun _ => replay rest) := by
  have hend : step.address ≠ endAddress := by
    rw [h]
    decide
  rw [replay, if_neg hend, if_pos h]

theorem replay_cons_of_write (hend : step.address ≠ endAddress)
    (hpause : step.address ≠ pauseAddress) (rest : Program) :
    replay (step :: rest) =
      (Bus.writeByte step.address step.value >>= fun _ => replay rest) := by
  rw [replay, if_neg hend, if_neg hpause]

theorem body_cons_of_end (h : step.address = endAddress) (rest : Program) :
    body (step :: rest) = [] := by
  simp [body, h]

theorem body_cons (h : step.address ≠ endAddress) (rest : Program) :
    body (step :: rest) = step :: body rest := by
  simp [body, h]

end

end Program
end ImageSensor
