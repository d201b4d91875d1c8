import ImageSensor.Event
import ImageSensor.Text.Hex

/-!
# Log lines

Each event is written as one line: a short word for what was done, then its
numbers.  An exclamation mark stands at the word of a failed transaction and
at the end of any other line whose attempt failed.
-/

namespace ImageSensor

namespace Access

def name : Access -> String
  | .read => "read"
  | .write => "write"

end Access

namespace Resource

def name : Resource -> String
  | .clock => "Clock"
  | .supplies => "Supplies"

end Resource

namespace Line

def name : Line -> String
  | .reset => "rst"
  | .powerDown => "pwdn"

end Line

namespace PinState

def name : PinState -> String
  | .default => "Default"
  | .sleep => "Sleep"

end PinState

namespace UsageCall

def name : UsageCall -> String
  | .get => "get"
  | .getIfInUse => "get_if_in_use"
  | .put => "put"
  | .putNoIdle => "put_noidle"

end UsageCall

namespace Error

/-- What an error carries beside its cause. -/
def detail : Error -> Option String
  | .transfer access register =>
      some (access.name ++ " " ++ hex 4 register.toNat)
  | .unavailable resource => some resource.name
  | .wrongChip id => some (hex 4 id.toNat)
  | .unsupportedMode => none
  | .invalidArgument => none
  | .busy => none

end Error

namespace Event

/-- Bytes in order, two digits each. -/
def bytesText (bytes : List UInt8) : String :=
  String.join (bytes.map fun byte => hex 2 byte.toNat)

/-- The device and the register of a transaction. -/
def addressText (device : UInt8) (register : UInt16) : String :=
  hex 2 device.toNat ++ " " ++ hex 4 register.toNat

/-- The mark of a failed attempt. -/
def mark (ok : Bool) : String :=
  if ok then "" else "!"

def flagText (flag : Bool) : String :=
  if flag then "true" else "false"

/-- The line for an event. -/
def text : Event -> String
  | .write device register bytes ok =>
      "w" ++ mark ok ++ " " ++ addressText device register ++ " " ++ bytesText bytes
  | .read device register bytes =>
      "r " ++ addressText device register ++ " " ++ bytesText bytes
  | .readFailure device register width =>
      "r! " ++ addressText device register ++ " " ++ toString width
  | .pauseMilliseconds count => "ms " ++ toString count.toNat
  | .pauseMicroseconds count => "us " ++ toString count.toNat
  | .clockRate hertz ok => "clk " ++ toString hertz.toNat ++ mark ok
  | .clockOn ok => "clk_on" ++ mark ok
  | .clockOff => "clk_off"
  | .suppliesOn ok => "sup_on" ++ mark ok
  | .suppliesOff => "sup_off"
  | .pins state ok => "pins " ++ state.name ++ mark ok
  | .line wire high ok => wire.name ++ (if high then " 1" else " 0") ++ mark ok
  | .usage call answer count =>
      "pm " ++ call.name ++ " " ++
        (match answer with
          | some flag => flagText flag
          | none => "-") ++
        " " ++ toString count.toNat

end Event
end ImageSensor
