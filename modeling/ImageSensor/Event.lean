import ImageSensor.Error

/-!
# Events

Everything the sensor's controller does to its surroundings is one event: a
bus transaction, a pause, a call to the board, a level on a line, a move of
the usage count.  An attempt that fails is an event as well and says so.
-/

namespace ImageSensor

/-- A control line between the board and the sensor. -/
inductive Line where
  | reset
  | powerDown
deriving DecidableEq

/-- A setting of the board's pin multiplexer. -/
inductive PinState where
  | default
  | sleep
deriving DecidableEq

/-- A call on the usage count. -/
inductive UsageCall where
  | get
  | getIfInUse
  | put
  | putNoIdle
deriving DecidableEq

/-- One effect on the surroundings. -/
inductive Event where
  | write (device : UInt8) (register : UInt16) (bytes : List UInt8) (ok : Bool)
  | read (device : UInt8) (register : UInt16) (bytes : List UInt8)
  | readFailure (device : UInt8) (register : UInt16) (width : Nat)
  | pauseMilliseconds (count : UInt32)
  | pauseMicroseconds (count : UInt32)
  | clockRate (hertz : UInt32) (ok : Bool)
  | clockOn (ok : Bool)
  | clockOff
  | suppliesOn (ok : Bool)
  | suppliesOff
  | pins (state : PinState) (ok : Bool)
  | line (wire : Line) (high : Bool) (ok : Bool)
  /-- The count after the call; giving up a reference quietly has no answer. -/
  | usage (call : UsageCall) (answer : Option Bool) (count : UInt32)
deriving DecidableEq

namespace Event

/-- Whether the event is a bus transaction, successful or not. -/
def isTransaction : Event -> Bool
  | .write .. => true
  | .read .. => true
  | .readFailure .. => true
  | _ => false

end Event
end ImageSensor
