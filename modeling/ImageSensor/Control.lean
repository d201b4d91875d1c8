import ImageSensor.Orientation
import ImageSensor.TestPattern

/-!
# Controls

A control is a setting the host may ask for.  Line blanking is listed among
the requests although it cannot be changed, and link frequency and pixel rate
can only be asked about.  A setting publishes a range and keeps a value.
-/

namespace ImageSensor

/-- A requested setting. -/
inductive Control where
  /-- Integration time in lines. -/
  | exposure (lines : UInt32)
  /-- Gain in linear units. -/
  | analogGain (gain : UInt32)
  | horizontalBlank (pixels : UInt32)
  /-- Lines beyond the readout height. -/
  | verticalBlank (lines : UInt32)
  | testPattern (pattern : TestPattern)
  | horizontalFlip (on : Bool)
  | verticalFlip (on : Bool)
deriving DecidableEq

namespace Control

/-- What a setting or a constant of the link is about. -/
inductive Kind where
  | exposure
  | analogGain
  | horizontalBlank
  | verticalBlank
  | testPattern
  | horizontalFlip
  | verticalFlip
  | linkFrequency
  | pixelRate
deriving DecidableEq

namespace Kind

/-- The kinds that a request can name. -/
def settable : List Kind :=
  [.exposure, .analogGain, .horizontalBlank, .verticalBlank, .testPattern,
    .horizontalFlip, .verticalFlip]

end Kind

/-- What a request is about. -/
def kind : Control -> Kind
  | .exposure _ => .exposure
  | .analogGain _ => .analogGain
  | .horizontalBlank _ => .horizontalBlank
  | .verticalBlank _ => .verticalBlank
  | .testPattern _ => .testPattern
  | .horizontalFlip _ => .horizontalFlip
  | .verticalFlip _ => .verticalFlip

/-- The value a request asks for, as a number. -/
def value : Control -> UInt32
  | .exposure lines => lines
  | .analogGain gain => gain
  | .horizontalBlank pixels => pixels
  | .verticalBlank lines => lines
  | .testPattern pattern => pattern.index
  | .horizontalFlip on => on.toUInt32
  | .verticalFlip on => on.toUInt32

/--
The request that a number stands for.  A flip is on when the number is not
zero; there is no request for a pattern outside the menu or for a constant.
-/
def ofValue? (kind : Kind) (value : UInt32) : Option Control :=
  match kind with
  | .exposure => some (.exposure value)
  | .analogGain => some (.analogGain value)
  | .horizontalBlank => some (.horizontalBlank value)
  | .verticalBlank => some (.verticalBlank value)
  | .testPattern => (TestPattern.ofIndex? value).map .testPattern
  | .horizontalFlip => some (.horizontalFlip (value != 0))
  | .verticalFlip => some (.verticalFlip (value != 0))
  | .linkFrequency => none
  | .pixelRate => none

end Control

/-!
# Ranges
-/

/-- The values a setting may take, and the one it starts from. -/
structure Range where
  lowest : UInt32
  highest : UInt32
  step : UInt32
  initial : UInt32
deriving DecidableEq

namespace Range

/-- The range of a setting that cannot be changed. -/
def fixed (value : UInt32) : Range :=
  ⟨value, value, 1, value⟩

/-- Whether a value lies between the bounds. -/
def contains (r : Range) (value : UInt32) : Bool :=
  decide (r.lowest ≤ value ∧ value ≤ r.highest)

/-- The nearest value between the bounds. -/
def clamp (r : Range) (value : UInt32) : UInt32 :=
  min (max value r.lowest) r.highest

end Range

/-- A range together with the current value. -/
structure Setting where
  range : Range
  value : UInt32
deriving DecidableEq

namespace Setting

/-- A setting at its initial value. -/
def ofRange (r : Range) : Setting :=
  ⟨r, r.initial⟩

/-- A setting under a new range, its value pulled inside. -/
def within (s : Setting) (r : Range) : Setting :=
  ⟨r, r.clamp s.value⟩

end Setting
end ImageSensor
