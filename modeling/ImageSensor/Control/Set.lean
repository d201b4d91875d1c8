import ImageSensor.Control
import ImageSensor.Gain
import ImageSensor.Link

/-!
# The control set

The current value and range of every control.  Line blanking is fixed by the
mode; frame blanking starts at the mode's own; and the exposure is limited by
the frame length that the blanking gives, less one line.  A change of mode or
of frame blanking therefore moves the exposure limit, and with it the exposure
where it no longer fits.
-/

namespace ImageSensor

/-- Ranges and values of all controls. -/
structure ControlSet where
  exposure : Setting
  analogGain : Setting
  horizontalBlank : Setting
  verticalBlank : Setting
  testPattern : TestPattern
  orientation : Orientation
deriving DecidableEq

namespace ControlSet

/-- The shortest exposure in lines. -/
def exposureMinimum : UInt32 := 1

def exposureStep : UInt32 := 1

/-- The longest frame in lines. -/
def frameLengthLimit : UInt32 := 0xffff

/-!
# Ranges of a mode
-/

/-- The exposures that fit into the default frame of a mode. -/
def exposureRange (m : Mode) : Checked Range := do
  let highest <- Checked.sub m.frameLength 1
  pure ⟨exposureMinimum, highest, exposureStep, m.exposure⟩

def gainRange : Range :=
  ⟨Gain.minimum, Gain.maximum, Gain.step, Gain.initial⟩

/-- The only line blanking of a mode. -/
def horizontalBlankRange (m : Mode) : Checked Range := do
  let blank <- m.horizontalBlank
  pure (Range.fixed blank)

/-- From the default frame of a mode to the longest frame. -/
def verticalBlankRange (m : Mode) : Checked Range := do
  let blank <- m.verticalBlank
  let highest <- Checked.sub frameLengthLimit m.height
  pure ⟨blank, highest, 1, blank⟩

/-- The controls of a mode at their initial values. -/
def ofMode (m : Mode) (o : Orientation) : Checked ControlSet := do
  let exposure <- exposureRange m
  let horizontalBlank <- horizontalBlankRange m
  let verticalBlank <- verticalBlankRange m
  pure
    { exposure := Setting.ofRange exposure
      analogGain := Setting.ofRange gainRange
      horizontalBlank := Setting.ofRange horizontalBlank
      verticalBlank := Setting.ofRange verticalBlank
      testPattern := .disabled
      orientation := o }

/-!
# Queries
-/

/-- The range that a control publishes. -/
def range (c : ControlSet) : Control.Kind -> Range
  | .exposure => c.exposure.range
  | .analogGain => c.analogGain.range
  | .horizontalBlank => c.horizontalBlank.range
  | .verticalBlank => c.verticalBlank.range
  | .testPattern =>
      ⟨0, UInt32.ofNat (TestPattern.all.length - 1), 1, TestPattern.disabled.index⟩
  | .horizontalFlip => ⟨0, 1, 1, 0⟩
  | .verticalFlip => ⟨0, 1, 1, 0⟩
  | .linkFrequency => Range.fixed Link.frequency
  | .pixelRate => ⟨0, Link.pixelRate, 1, Link.pixelRate⟩

/-- The current value of a control, as a number. -/
def value (c : ControlSet) : Control.Kind -> UInt32
  | .exposure => c.exposure.value
  | .analogGain => c.analogGain.value
  | .horizontalBlank => c.horizontalBlank.value
  | .verticalBlank => c.verticalBlank.value
  | .testPattern => c.testPattern.index
  | .horizontalFlip => c.orientation.mirror.toUInt32
  | .verticalFlip => c.orientation.flip.toUInt32
  | .linkFrequency => Link.frequency
  | .pixelRate => Link.pixelRate

/-- Whether the host may ask for this now. -/
def accepts (c : ControlSet) : Control -> Bool
  | .exposure lines => c.exposure.range.contains lines
  | .analogGain gain => c.analogGain.range.contains gain
  | .horizontalBlank _ => false
  | .verticalBlank lines => c.verticalBlank.range.contains lines
  | .testPattern _ => true
  | .horizontalFlip _ => true
  | .verticalFlip _ => true

/-- The controls that the device has to hold after its registers were reloaded. -/
def snapshot (c : ControlSet) : List Control :=
  [ .exposure c.exposure.value,
    .analogGain c.analogGain.value,
    .verticalBlank c.verticalBlank.value,
    .testPattern c.testPattern,
    .horizontalFlip c.orientation.mirror,
    .verticalFlip c.orientation.flip ]

/-!
# Changes

A change also tells whether it had to move the stored exposure.
-/

/-- Sets the exposure limit to the frame length less one line. -/
def limitExposure (c : ControlSet) (m : Mode) : Checked (ControlSet × Bool) := do
  let frame <- Checked.add m.height c.verticalBlank.value
  let highest <- Checked.sub frame 1
  let moved := c.exposure.within { c.exposure.range with highest := highest }
  pure ({ c with exposure := moved }, moved.value != c.exposure.value)

/-- Records a requested value under the current mode. -/
def store (c : ControlSet) (request : Control) (m : Mode) :
    Checked (ControlSet × Bool) :=
  match request with
  | .exposure lines =>
      pure ({ c with exposure := { c.exposure with value := lines } }, false)
  | .analogGain gain =>
      pure ({ c with analogGain := { c.analogGain with value := gain } }, false)
  | .horizontalBlank _ => pure (c, false)
  | .verticalBlank lines =>
      limitExposure
        { c with verticalBlank := { c.verticalBlank with value := lines } } m
  | .testPattern pattern => pure ({ c with testPattern := pattern }, false)
  | .horizontalFlip on =>
      pure ({ c with orientation := { c.orientation with mirror := on } }, false)
  | .verticalFlip on =>
      pure ({ c with orientation := { c.orientation with flip := on } }, false)

/-- Publishes the ranges of another mode. -/
def applyMode (c : ControlSet) (m : Mode) : Checked (ControlSet × Bool) := do
  let horizontalBlank <- horizontalBlankRange m
  let verticalBlank <- verticalBlankRange m
  limitExposure
    { c with
      horizontalBlank := c.horizontalBlank.within horizontalBlank
      verticalBlank := c.verticalBlank.within verticalBlank } m

end ControlSet
end ImageSensor
