import ImageSensor.Device.Negotiation
import ImageSensor.Device.Stream

/-!
# Commands

Requests beside the regular operations: identification, the exposure scheme,
and a switch for the stream that bypasses the session.
-/

namespace ImageSensor

/-- How the exposures of a frame are told apart on the link. -/
inductive ExposureSeparation where
  | virtualChannel
  | lineCount
  | idCode
deriving DecidableEq

/-- The exposure scheme in use. -/
structure HdrConfig where
  separation : ExposureSeparation
  hdr : Hdr
deriving DecidableEq

/-- Register values for automatic exposure with several exposures. -/
structure HdrExposure where
  longExposure : UInt32
  longGain : UInt32
  middleExposure : UInt32
  middleGain : UInt32
  shortExposure : UInt32
  shortGain : UInt32
deriving DecidableEq

inductive Command where
  | getModuleInfo
  | getHdrConfig
  /-- Select a mode of the current size with this exposure scheme. -/
  | setHdrConfig (hdr : Hdr)
  | setHdrExposure (values : HdrExposure)
  /-- Switch the stream in the sensor only. -/
  | setQuickStream (on : Bool)
deriving DecidableEq

namespace Command

/-- The answer to a command. -/
inductive Reply where
  | done
  | moduleInfo (info : ModuleInfo)
  | hdrConfig (config : HdrConfig)
deriving DecidableEq

end Command

namespace Device

/-- Selects a mode of the current size with an exposure scheme. -/
def setHdr (hdr : Hdr) : Action Device Unit := do
  let mode <- Action.inspect Device.mode
  match Catalog.find? mode.width mode.height hdr with
  | none => Action.report .unsupportedMode
  | some entry => switchMode entry

/-- Follows a command. -/
def command : Command -> Action Device Command.Reply
  | .getModuleInfo =>
      Action.inspect fun d => .moduleInfo d.config.moduleInfo
  | .getHdrConfig =>
      Action.inspect fun d => .hdrConfig ⟨.virtualChannel, d.mode.hdr⟩
  | .setHdrConfig hdr => do
      setHdr hdr
      pure .done
  | .setHdrExposure _ =>
      -- no mode of the catalog has several exposures
      pure .done
  | .setQuickStream on => do
      switchStream on
      pure .done

end Device
end ImageSensor
