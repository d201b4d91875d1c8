import ImageSensor.Proofs.ControlLimits

/-!
# Histories of a control set

A control set starts from the initial values of a mode.  After that the host
asks for values, each stored under the mode in use, and the mode changes.
Whatever the modes are and in whichever order this happens, as long as every
mode is well formed and every value was accepted: no arithmetic overflows, the
published ranges are those of the mode in use, and the values lie inside.
-/

namespace ImageSensor
namespace ControlSet

/-- What happens to a control set. -/
inductive Change where
  | store (request : Control)
  | applyMode (mode : Mode)

namespace Change

/-- The mode in use after a change. -/
def mode (m : Mode) : Change -> Mode
  | .store _ => m
  | .applyMode next => next

def perform (c : ControlSet) (m : Mode) : Change -> Checked (ControlSet × Bool)
  | .store request => c.store request m
  | .applyMode next => c.applyMode next

/-- A value has to be accepted first, and a mode has to be well formed. -/
def Admitted (c : ControlSet) : Change -> Prop
  | .store request => c.accepts request = true
  | .applyMode next => next.WellFormed

end Change

/-- From the initial values under a mode, by admitted changes one after the other. -/
inductive Reached (start : Mode) (o : Orientation) : Mode -> ControlSet -> Prop where
  | initial {c : ControlSet} :
      ofMode start o = .ok c -> Reached start o start c
  | next {m : Mode} {c c' : ControlSet} {moved : Bool} :
      Reached start o m c -> (change : Change) -> change.Admitted c ->
      change.perform c m = .ok (c', moved) -> Reached start o (change.mode m) c'

/-- What a control set publishes under a mode, in numbers of pixels and lines. -/
structure Limited (m : Mode) (c : ControlSet) : Prop where
  horizontalBlank :
    m.width.toNat + (c.value .horizontalBlank).toNat = m.lineLength.toNat
  horizontalBlankLowest : (c.range .horizontalBlank).lowest = c.value .horizontalBlank
  horizontalBlankHighest : (c.range .horizontalBlank).highest = c.value .horizontalBlank
  verticalBlankLowest :
    m.height.toNat + (c.range .verticalBlank).lowest.toNat = m.frameLength.toNat
  verticalBlankHighest :
    m.height.toNat + (c.range .verticalBlank).highest.toNat = 0xffff
  verticalBlankRange :
    (c.range .verticalBlank).lowest ≤ (c.range .verticalBlank).highest
  verticalBlank : (c.range .verticalBlank).contains (c.value .verticalBlank) = true
  exposureLowest : (c.range .exposure).lowest = 1
  exposureHighest :
    (c.range .exposure).highest.toNat + 1 =
      m.height.toNat + (c.value .verticalBlank).toNat
  exposureRange : (c.range .exposure).lowest ≤ (c.range .exposure).highest
  exposure : (c.range .exposure).contains (c.value .exposure) = true
  exposureLongest : (c.value .exposure).toNat ≤ 0xfffe
  gain : (c.range .analogGain).contains (c.value .analogGain) = true

section

variable {start m : Mode} {o : Orientation} {c : ControlSet}

theorem Fits.horizontalBlank_eq (hc : c.Fits m) (hm : m.WellFormed) :
    c.horizontalBlank.range = Range.fixed c.horizontalBlank.value ∧
      m.width.toNat + c.horizontalBlank.value.toNat = m.lineLength.toNat := by
  rcases horizontalBlankRange_of_wellFormed hm with ⟨blank, hrange, hblank⟩
  rw [hc.horizontalBlankRange] at hrange
  injection hrange with hrange
  have hvalue : c.horizontalBlank.value = blank := by
    rw [hc.horizontalBlank, hrange]
    rfl
  have hwidth := hm.width
  constructor
  · rw [hvalue, hrange]
  · rw [hvalue]
    omega

theorem Fits.limited (hc : c.Fits m) (hm : m.WellFormed) : c.Limited m := by
  rcases hc.horizontalBlank_eq hm with ⟨hline, hwidth⟩
  rcases verticalBlankRange_bounds hc.verticalBlankRange hm with ⟨hlowest, hhighest⟩
  have hframe := Range.contains_iff.mp hc.verticalBlank
  have hexposure := Range.contains_iff.mp hc.exposure
  constructor
  · exact hwidth
  · exact congrArg Range.lowest hline
  · exact congrArg Range.highest hline
  · exact hlowest
  · exact hhighest
  · exact UInt32.le_iff_toNat_le.mpr (Nat.le_trans hframe.1 hframe.2)
  · exact hc.verticalBlank
  · exact hc.exposureLowest
  · exact hc.exposureHighest.symm
  · exact UInt32.le_iff_toNat_le.mpr (Nat.le_trans hexposure.1 hexposure.2)
  · exact hc.exposure
  · exact hc.exposure_le hm
  · exact hc.gain

/-- An admitted change does not overflow, and leaves what fits the mode then in use. -/
theorem Fits.perform (hc : c.Fits m) (hm : m.WellFormed) {change : Change}
    (hadmitted : change.Admitted c) :
    (change.mode m).WellFormed ∧
      exists c' moved, change.perform c m = .ok (c', moved) ∧
        c'.Fits (change.mode m) := by
  cases change with
  | store request => exact ⟨hm, hc.store hm hadmitted⟩
  | applyMode next => exact ⟨hadmitted, hc.applyMode hadmitted⟩

theorem fits_of_reached (hstart : start.WellFormed) (hreached : Reached start o m c) :
    m.WellFormed ∧ c.Fits m := by
  induction hreached with
  | initial hinitial =>
      rcases fits_ofMode hstart o with ⟨c, hc, hfits⟩
      rw [hinitial] at hc
      cases hc
      exact ⟨hstart, hfits⟩
  | next _ change hadmitted hperform ih =>
      rcases ih.2.perform ih.1 hadmitted with ⟨hmode, c', moved, hok, hfits⟩
      rw [hperform] at hok
      cases hok
      exact ⟨hmode, hfits⟩

end

/--
From a well-formed mode on, the controls can always be made and changed, and
are always limited by the mode in use.  The mode they were made for changes
nothing.
-/
theorem limited_of_reached {start : Mode} (hstart : start.WellFormed)
    (o : Orientation) :
    (exists c, ofMode start o = .ok c ∧ c.applyMode start = .ok (c, false)) ∧
    forall m c, Reached start o m c ->
      c.Limited m ∧
      forall change : Change, change.Admitted c ->
        exists c' moved, change.perform c m = .ok (c', moved) := by
  constructor
  · rcases fits_ofMode hstart o with ⟨c, hc, hfits⟩
    exact ⟨c, hc, hfits.applyMode_same hstart⟩
  · intro m c hreached
    rcases fits_of_reached hstart hreached with ⟨hm, hfits⟩
    refine ⟨hfits.limited hm, ?_⟩
    intro change hadmitted
    rcases hfits.perform hm hadmitted with ⟨-, c', moved, hok, -⟩
    exact ⟨c', moved, hok⟩

/-!
# A smaller mode after the longest frame
-/

/-- The first mode at a quarter of its size. -/
def quarterMode : Mode :=
  { Catalog.first.mode with
    width := 640
    height := 480
    lineLength := 800
    frameLength := 525 }

/-- The longest frame of the first mode, exposed to its end. -/
def stretched : ControlSet :=
  { initial .normal with
    exposure := ⟨⟨1, 65534, 1, 500⟩, 65534⟩
    verticalBlank := ⟨⟨120, 64455, 1, 120⟩, 64455⟩ }

theorem reached_stretched :
    Reached Catalog.first.mode .normal Catalog.first.mode stretched := by
  have hinitial : Reached Catalog.first.mode .normal Catalog.first.mode (initial .normal) :=
    Reached.initial (ofMode_first .normal)
  have hframe : Reached Catalog.first.mode .normal Catalog.first.mode
      { stretched with exposure := ⟨stretched.exposure.range, 500⟩ } :=
    hinitial.next (.store (.verticalBlank 64455))
      (show (initial .normal).accepts (.verticalBlank 64455) = true by decide) rfl
  exact hframe.next (.store (.exposure 65534))
    (show accepts { stretched with exposure := _ } (.exposure 65534) = true by decide) rfl

/-- The smaller mode keeps the blanking and pulls the exposure below the frame's end. -/
theorem limited_quarterMode :
    exists c, stretched.applyMode quarterMode = .ok (c, true) ∧
      c.value .verticalBlank = 64455 ∧ c.value .exposure = 64934 ∧
      c.Limited quarterMode := by
  have hstart : Catalog.first.mode.WellFormed := Catalog.wellFormed List.mem_cons_self
  have hquarter : quarterMode.WellFormed := by
    constructor <;> decide
  have hlast := reached_stretched.next (.applyMode quarterMode) hquarter rfl
  exact ⟨_, rfl, rfl, rfl, ((limited_of_reached hstart .normal).2 _ _ hlast).1⟩

end ControlSet
end ImageSensor
