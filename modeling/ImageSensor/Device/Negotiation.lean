import ImageSensor.Device

/-!
# Negotiating modes and formats

A requested size selects the nearest mode of the catalog.  While the sensor
streams its mode is locked: a request that resolves to another mode is
refused, one that resolves to the same mode is granted.
-/

namespace ImageSensor
namespace Device

variable {α : Type}

/-- Makes a mode the current one.  A different mode has yet to be programmed. -/
def selectMode (entry : Entry) : Action Device Unit := do
  let controls <- Action.inspect Device.controls
  let applied <- Action.compute (controls.applyMode entry.mode)
  changeControls applied.1
  changeSession fun s =>
    { s with
      entry := entry
      programmed := s.programmed && decide (s.entry = entry)
      interval := entry.mode.interval
      frameLength := entry.mode.frameLength }

/-- Makes a mode the current one, unless the sensor streams in another. -/
def switchMode (entry : Entry) : Action Device Unit := do
  let session <- Action.inspect Device.session
  if session.streaming ∧ session.entry ≠ entry then
    Action.report .busy
  else
    selectMode entry

/-- The format on a pad, or the one under negotiation. -/
def getFormat (d : Device) (pad : UInt32) : FormatTarget -> FrameFormat
  | .scratch => d.session.scratchFormat
  | .active => FrameFormat.ofMode d.mode pad

/-- Takes a mode for negotiation or for use. -/
def adopt (pad : UInt32) (entry : Entry) : FormatTarget -> Action Device Unit
  | .scratch =>
      changeSession fun s =>
        { s with scratchFormat := FrameFormat.ofMode entry.mode pad }
  | .active => switchMode entry

/-- Resolves a requested size, and selects its mode unless only negotiating. -/
def setFormat (pad : UInt32) (target : FormatTarget) (width height : UInt32) :
    Action Device FrameFormat := do
  let entry <- Action.compute (Catalog.bestFit width height)
  adopt pad entry target
  pure (FrameFormat.ofMode entry.mode pad)

/-- Selects the mode nearest to a size, and answers the mode in use then. -/
def setMode (width height : UInt32) : Action Device Entry := do
  let _ <- setFormat 0 .active width height
  Action.inspect fun d => d.session.entry

/-- Starts negotiating anew, as for a host that has just arrived. -/
def reopen : Action Device Unit :=
  changeSession fun s =>
    { s with scratchFormat := FrameFormat.ofMode Catalog.first.mode 0 }

/-!
# Queries by index
-/

/-- The value asked for, if it is there. -/
def require (found : Option α) : Action Device α :=
  match found with
  | some value => pure value
  | none => Action.report .invalidArgument

/-- The single pixel format of the current mode. -/
def mediaCode? (d : Device) (index : UInt32) : Option PixelFormat :=
  if index = 0 then some d.mode.format else none

/-- The set-up of the link under the current mode. -/
def linkConfig (d : Device) : Link.Config :=
  Link.config Link.lanes d.mode.hdr

end Device
end ImageSensor
