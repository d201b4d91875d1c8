import ImageSensor.Checked

/-!
# Errors

What a request to the sensor may be refused for.  An error names its cause and
carries what a caller needs to act on it; a failed transfer keeps the register
it addressed.  An overflow of the word arithmetic is no answer to a request:
it ends the run, so `Failure` keeps the two apart.
-/

namespace ImageSensor

/-- The direction of a transfer on the two-wire bus. -/
inductive Access where
  | read
  | write
deriving DecidableEq

/-- A service of the board that may not be available. -/
inductive Resource where
  | clock
  | supplies
deriving DecidableEq

/-- Why a request was refused. -/
inductive Error where
  /-- The bus transaction on this register failed. -/
  | transfer (access : Access) (register : UInt16)
  /-- No mode has the requested geometry and exposure scheme. -/
  | unsupportedMode
  /-- A width, value or index outside its bounds, or a read-only control. -/
  | invalidArgument
  /-- The board could not provide a resource. -/
  | unavailable (resource : Resource)
  /-- Another part answers at the configured address. -/
  | wrongChip (id : UInt16)
  /-- The mode is locked while the sensor streams. -/
  | busy
deriving DecidableEq

/-- How an action ends when it does not return. -/
inductive Failure where
  | reported (error : Error)
  | overflow (kind : Overflow)
deriving DecidableEq

end ImageSensor
