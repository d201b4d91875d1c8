import ImageSensor.Device.Attachment
import ImageSensor.Device.Command

/-!
# Operations

Everything a host may ask of an attached device, as data, with the answers it
may get.  A run of the device is then a list of operations.
-/

namespace ImageSensor

/-- A request to an attached device. -/
inductive Operation where
  /-- Run the power-up sequence, whatever the users. -/
  | powerOn
  /-- Run the power-down sequence, whatever the users. -/
  | powerOff
  | setPower (on : Bool)
  | setStream (on : Bool)
  | reopen
  | setMode (width height : UInt32)
  | selectMode (entry : Entry)
  | applyControl (request : Control)
  | value (kind : Control.Kind)
  | range (kind : Control.Kind)
  | frameInterval
  | mediaCode (index : UInt32)
  | frameSize (index : UInt32) (format : PixelFormat)
  | frameIntervalAt (index : UInt32)
  | getFormat (pad : UInt32) (target : FormatTarget)
  | setFormat (pad : UInt32) (target : FormatTarget) (width height : UInt32)
  | linkConfig (pad : UInt32)
  | command (request : Command)
deriving DecidableEq

namespace Operation

/-- What an operation returns. -/
inductive Answer where
  | done
  | entry (entry : Entry)
  | value (value : UInt32)
  | range (range : Range)
  | interval (interval : Fraction)
  | mediaCode (format : PixelFormat)
  | frameSize (size : FrameSize)
  | frameInterval (interval : FrameInterval)
  | format (format : FrameFormat)
  | link (config : Link.Config)
  | reply (reply : Command.Reply)
deriving DecidableEq

/-- An action that answers only that it is done. -/
def complete (x : Action Device Unit) : Action Device Answer := do
  x
  pure .done

/-- Performs an operation. -/
def perform : Operation -> Action Device Answer
  | .powerOn => complete Device.powerOn
  | .powerOff => complete Device.powerOff
  | .setPower on => complete (Device.setPower on)
  | .setStream on => complete (Device.setStream on)
  | .reopen => complete Device.reopen
  | .setMode width height => .entry <$> Device.setMode width height
  | .selectMode entry => complete (Device.selectMode entry)
  | .applyControl request => complete (Device.applyControl request)
  | .value kind => Action.inspect fun d => .value (d.controls.value kind)
  | .range kind => Action.inspect fun d => .range (d.controls.range kind)
  | .frameInterval => Action.inspect fun d => .interval d.session.frameInterval
  | .mediaCode index => do
      let device <- Action.inspect id
      .mediaCode <$> Device.require (device.mediaCode? index)
  | .frameSize index format =>
      .frameSize <$> Device.require (Catalog.frameSize? index format)
  | .frameIntervalAt index =>
      .frameInterval <$> Device.require (Catalog.frameInterval? index)
  | .getFormat pad target => Action.inspect fun d => .format (d.getFormat pad target)
  | .setFormat pad target width height =>
      .format <$> Device.setFormat pad target width height
  | .linkConfig _ => Action.inspect fun d => .link d.linkConfig
  | .command request => .reply <$> Device.command request

end Operation
end ImageSensor
