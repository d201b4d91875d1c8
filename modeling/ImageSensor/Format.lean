import ImageSensor.Mode.Catalog

/-!
# Frame formats

What a host learns about the pixels: the format on a pad under a mode, and
the sizes and intervals that the catalog lists by index.
-/

namespace ImageSensor

/-- The format of frames on one pad. -/
structure FrameFormat where
  format : PixelFormat
  width : UInt32
  height : UInt32
  /-- The virtual channel that carries the pad. -/
  channel : UInt8
deriving DecidableEq

namespace FrameFormat

/-- The format on a pad under a mode. -/
def ofMode (m : Mode) (pad : UInt32) : FrameFormat :=
  ⟨m.format, m.width, m.height, m.channel pad⟩

end FrameFormat

/-- Which format of a pad is meant. -/
inductive FormatTarget where
  /-- A slot for negotiation that leaves the sensor alone. -/
  | scratch
  | active
deriving DecidableEq

/-- A size the catalog offers. -/
structure FrameSize where
  width : UInt32
  height : UInt32
deriving DecidableEq

/-- An interval the catalog offers, with the format it belongs to. -/
structure FrameInterval where
  format : PixelFormat
  width : UInt32
  height : UInt32
  interval : Fraction
  hdr : Hdr
deriving DecidableEq

namespace Catalog

/-- The entry that a host counts by index. -/
def byIndex? (index : UInt32) : Option Entry :=
  entries[index.toNat]?

/-- The size of an entry, if it has the given pixel format. -/
def frameSize? (index : UInt32) (format : PixelFormat) : Option FrameSize :=
  match byIndex? index with
  | none => none
  | some entry =>
      if entry.mode.format = format then
        some ⟨entry.mode.width, entry.mode.height⟩
      else
        none

/-- The interval of an entry. -/
def frameInterval? (index : UInt32) : Option FrameInterval :=
  (byIndex? index).map fun entry =>
    ⟨entry.mode.format, entry.mode.width, entry.mode.height,
      entry.mode.interval, entry.mode.hdr⟩

end Catalog
end ImageSensor
