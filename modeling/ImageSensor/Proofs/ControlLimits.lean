import ImageSensor.Device
import Mathlib.Data.UInt

/-!
# Limits of the controls

What the ranges of a control set have to be under a mode, and that they are
kept so: by the initial values, by every value the host may ask for, and by
every change to another mode.  None of these overflows.
-/

namespace ImageSensor

/-!
# Words in a range
-/

namespace Range

theorem contains_iff {r : Range} {value : UInt32} :
    r.contains value = true <->
      r.lowest.toNat ≤ value.toNat ∧ value.toNat ≤ r.highest.toNat := by
  rw [contains, decide_eq_true_iff, UInt32.le_iff_toNat_le, UInt32.le_iff_toNat_le]

theorem toNat_clamp (r : Range) (value : UInt32) :
    (r.clamp value).toNat =
      min (max value.toNat r.lowest.toNat) r.highest.toNat := by
  rw [clamp, UInt32.toNat_min, UInt32.toNat_max]

theorem contains_clamp {r : Range} (h : r.lowest.toNat ≤ r.highest.toNat)
    (value : UInt32) : r.contains (r.clamp value) = true := by
  rw [contains_iff, toNat_clamp]
  omega

theorem clamp_of_contains {r : Range} {value : UInt32}
    (h : r.contains value = true) : r.clamp value = value := by
  rw [contains_iff] at h
  apply UInt32.toNat_inj.mp
  rw [toNat_clamp]
  omega

theorem clamp_fixed (value other : UInt32) : (fixed value).clamp other = value := by
  apply UInt32.toNat_inj.mp
  rw [toNat_clamp]
  show min (max other.toNat value.toNat) value.toNat = value.toNat
  omega

end Range

/-!
# Modes
-/

/-- Readout and default exposure fit into the frame, the frame into its register. -/
structure Mode.WellFormed (m : Mode) : Prop where
  width : m.width.toNat ≤ m.lineLength.toNat
  height : m.height.toNat ≤ m.frameLength.toNat
  shortest : 2 ≤ m.frameLength.toNat
  longest : m.frameLength.toNat ≤ 0xffff
  exposed : 1 ≤ m.exposure.toNat
  exposure : m.exposure.toNat ≤ m.frameLength.toNat - 1

theorem Catalog.wellFormed {entry : Entry} (h : entry ∈ Catalog.entries) :
    entry.mode.WellFormed := by
  have hall : entry = first ∨ entry = fast ∨ entry = deep := by
    simpa [entries, others] using h
  rcases hall with rfl | rfl | rfl
  · constructor <;> decide
  · constructor <;> decide
  · constructor <;> decide

theorem Catalog.isLinear {entry : Entry} (h : entry ∈ Catalog.entries) :
    entry.mode.isLinear = true := by
  have hall : entry = first ∨ entry = fast ∨ entry = deep := by
    simpa [entries, others] using h
  rcases hall with rfl | rfl | rfl <;> rfl

namespace ControlSet

/-- The ranges are those of the mode, and the values lie inside. -/
structure Fits (m : Mode) (c : ControlSet) : Prop where
  exposureLowest : c.exposure.range.lowest = exposureMinimum
  exposureHighest : m.height.toNat + c.verticalBlank.value.toNat =
    c.exposure.range.highest.toNat + 1
  exposure : c.exposure.range.contains c.exposure.value = true
  gainRange : c.analogGain.range = gainRange
  gain : c.analogGain.range.contains c.analogGain.value = true
  horizontalBlankRange : horizontalBlankRange m = .ok c.horizontalBlank.range
  horizontalBlank : c.horizontalBlank.value = c.horizontalBlank.range.initial
  verticalBlankRange : verticalBlankRange m = .ok c.verticalBlank.range
  verticalBlank : c.verticalBlank.range.contains c.verticalBlank.value = true

variable {m m' : Mode} {c : ControlSet}

/-!
# Ranges of a mode
-/

theorem horizontalBlankRange_of_wellFormed (hm : m.WellFormed) :
    exists blank, horizontalBlankRange m = .ok (Range.fixed blank) ∧
      blank.toNat = m.lineLength.toNat - m.width.toNat := by
  rcases Checked.exists_sub hm.width with ⟨blank, hsub, hblank⟩
  refine ⟨blank, ?_, hblank⟩
  unfold horizontalBlankRange Mode.horizontalBlank
  rw [hsub]
  rfl

theorem exposureRange_of_wellFormed (hm : m.WellFormed) :
    exists longest,
      exposureRange m = .ok ⟨exposureMinimum, longest, exposureStep, m.exposure⟩ ∧
      longest.toNat + 1 = m.frameLength.toNat := by
  have hone : (1 : UInt32).toNat = 1 := rfl
  have hshort := hm.shortest
  rcases Checked.exists_sub (a := m.frameLength) (b := 1) (by omega) with
    ⟨longest, hsub, hlongest⟩
  refine ⟨longest, ?_, by omega⟩
  unfold exposureRange
  rw [hsub]
  rfl

theorem verticalBlankRange_of_wellFormed (hm : m.WellFormed) :
    exists blank highest,
      verticalBlankRange m = .ok ⟨blank, highest, 1, blank⟩ ∧
      blank.toNat = m.frameLength.toNat - m.height.toNat ∧
      highest.toNat = 0xffff - m.height.toNat := by
  have hlimit : m.height.toNat ≤ frameLengthLimit.toNat :=
    Nat.le_trans hm.height hm.longest
  rcases Checked.exists_sub hm.height with ⟨blank, hsub, hblank⟩
  rcases Checked.exists_sub hlimit with ⟨highest, hsub', hhighest⟩
  refine ⟨blank, highest, ?_, hblank, hhighest⟩
  unfold verticalBlankRange Mode.verticalBlank
  rw [hsub]
  show (Checked.sub frameLengthLimit m.height >>= fun highest =>
    pure (Range.mk blank highest 1 blank)) = _
  rw [hsub']
  rfl

theorem verticalBlankRange_bounds {r : Range} (hr : verticalBlankRange m = .ok r)
    (hm : m.WellFormed) :
    m.height.toNat + r.lowest.toNat = m.frameLength.toNat ∧
      m.height.toNat + r.highest.toNat = 0xffff := by
  rcases verticalBlankRange_of_wellFormed hm with ⟨blank, highest, heq, hblank, hhighest⟩
  rw [heq] at hr
  cases hr
  have hheight := hm.height
  have hlong := hm.longest
  constructor
  · show m.height.toNat + blank.toNat = _
    omega
  · show m.height.toNat + highest.toNat = _
    omega

/-!
# The exposure follows the frame
-/

/-- The exposure is pulled below the end of the frame and nothing else happens. -/
theorem limitExposure_of_frame
    (hshort : 2 ≤ m.height.toNat + c.verticalBlank.value.toNat)
    (hlong : m.height.toNat + c.verticalBlank.value.toNat ≤ 0xffff) :
    exists highest,
      m.height.toNat + c.verticalBlank.value.toNat = highest.toNat + 1 ∧
      limitExposure c m =
        .ok ({ c with
            exposure := c.exposure.within { c.exposure.range with highest := highest } },
          Range.clamp { c.exposure.range with highest := highest } c.exposure.value
            != c.exposure.value) := by
  have hsize : m.height.toNat + c.verticalBlank.value.toNat < UInt32.size := by
    have : UInt32.size = 4294967296 := rfl
    omega
  rcases Checked.exists_add hsize with ⟨frame, hadd, hframe⟩
  have hone : (1 : UInt32).toNat ≤ frame.toNat := by
    have : (1 : UInt32).toNat = 1 := rfl
    omega
  rcases Checked.exists_sub hone with ⟨highest, hsub, hhighest⟩
  refine ⟨highest, ?_, ?_⟩
  · have : (1 : UInt32).toNat = 1 := rfl
    omega
  · unfold limitExposure
    rw [hadd]
    show (Checked.sub frame 1 >>= _) = _
    rw [hsub]
    rfl

/-- A set whose other settings fit is made to fit by limiting its exposure. -/
theorem fits_limitExposure (hlow : c.exposure.range.lowest = exposureMinimum)
    (hm : m.WellFormed) (hgainRange : c.analogGain.range = gainRange)
    (hgain : c.analogGain.range.contains c.analogGain.value = true)
    (hblankRange : horizontalBlankRange m = .ok c.horizontalBlank.range)
    (hblank : c.horizontalBlank.value = c.horizontalBlank.range.initial)
    (hframeRange : verticalBlankRange m = .ok c.verticalBlank.range)
    (hframe : c.verticalBlank.range.contains c.verticalBlank.value = true) :
    exists c' moved, limitExposure c m = .ok (c', moved) ∧ c'.Fits m := by
  have hbounds := verticalBlankRange_bounds hframeRange hm
  have hvalue := Range.contains_iff.mp hframe
  have hshortest := hm.shortest
  rcases limitExposure_of_frame (m := m) (c := c) (by omega) (by omega) with
    ⟨highest, hhighest, hlimit⟩
  refine ⟨_, _, hlimit, ?_⟩
  constructor
  · exact hlow
  · exact hhighest
  · apply Range.contains_clamp
    show c.exposure.range.lowest.toNat ≤ highest.toNat
    have : exposureMinimum.toNat = 1 := rfl
    rw [hlow]
    omega
  · exact hgainRange
  · exact hgain
  · exact hblankRange
  · exact hblank
  · exact hframeRange
  · exact hframe

/-!
# What the device does to its controls
-/

theorem Fits.of_settings {c' : ControlSet} (hc : c.Fits m)
    (hexposure : c'.exposure = c.exposure) (hgain : c'.analogGain = c.analogGain)
    (hblank : c'.horizontalBlank = c.horizontalBlank)
    (hframe : c'.verticalBlank = c.verticalBlank) : c'.Fits m := by
  constructor
  · rw [hexposure]
    exact hc.exposureLowest
  · rw [hexposure, hframe]
    exact hc.exposureHighest
  · rw [hexposure]
    exact hc.exposure
  · rw [hgain]
    exact hc.gainRange
  · rw [hgain]
    exact hc.gain
  · rw [hblank]
    exact hc.horizontalBlankRange
  · rw [hblank]
    exact hc.horizontalBlank
  · rw [hframe]
    exact hc.verticalBlankRange
  · rw [hframe]
    exact hc.verticalBlank

theorem Fits.exposure_le (hc : c.Fits m) (hm : m.WellFormed) :
    c.exposure.value.toNat ≤ 0xfffe := by
  have hbounds := verticalBlankRange_bounds hc.verticalBlankRange hm
  have hframe := Range.contains_iff.mp hc.verticalBlank
  have hexposure := Range.contains_iff.mp hc.exposure
  have hhighest := hc.exposureHighest
  omega

theorem fits_ofMode (hm : m.WellFormed) (o : Orientation) :
    exists c, ofMode m o = .ok c ∧ c.Fits m := by
  rcases exposureRange_of_wellFormed hm with ⟨longest, hexposure, hlongest⟩
  rcases horizontalBlankRange_of_wellFormed hm with ⟨blank, hblank, -⟩
  rcases verticalBlankRange_of_wellFormed hm with
    ⟨lowest, highest, hframe, hlowest, hhighest⟩
  have hheight := hm.height
  have hlong := hm.longest
  have hexposed := hm.exposed
  have hlimit := hm.exposure
  have heq : ofMode m o = .ok
      { exposure := Setting.ofRange ⟨exposureMinimum, longest, exposureStep, m.exposure⟩
        analogGain := Setting.ofRange ControlSet.gainRange
        horizontalBlank := Setting.ofRange (Range.fixed blank)
        verticalBlank := Setting.ofRange ⟨lowest, highest, 1, lowest⟩
        testPattern := .disabled
        orientation := o } := by
    unfold ofMode
    rw [hexposure, hblank, hframe]
    rfl
  refine ⟨_, heq, ?_⟩
  constructor
  · rfl
  · show m.height.toNat + lowest.toNat = longest.toNat + 1
    omega
  · rw [Range.contains_iff]
    show 1 ≤ m.exposure.toNat ∧ m.exposure.toNat ≤ longest.toNat
    omega
  · rfl
  · show ControlSet.gainRange.contains ControlSet.gainRange.initial = true
    decide
  · exact hblank
  · rfl
  · exact hframe
  · rw [Range.contains_iff]
    show lowest.toNat ≤ lowest.toNat ∧ lowest.toNat ≤ highest.toNat
    omega

theorem fits_initial (o : Orientation) : (initial o).Fits Catalog.first.mode := by
  have hfirst : Catalog.first.mode.WellFormed := Catalog.wellFormed List.mem_cons_self
  rcases fits_ofMode hfirst o with ⟨c, hc, hfits⟩
  rw [ofMode_first] at hc
  cases hc
  exact hfits

/-- A value that is accepted is stored without overflow, and leaves a fitting set. -/
theorem Fits.store (hc : c.Fits m) (hm : m.WellFormed) {request : Control}
    (haccepts : c.accepts request = true) :
    exists c' moved, c.store request m = .ok (c', moved) ∧ c'.Fits m := by
  cases request with
  | exposure lines =>
      exact ⟨_, _, rfl, hc.exposureLowest, hc.exposureHighest, haccepts, hc.gainRange,
        hc.gain, hc.horizontalBlankRange, hc.horizontalBlank, hc.verticalBlankRange,
        hc.verticalBlank⟩
  | analogGain gain =>
      exact ⟨_, _, rfl, hc.exposureLowest, hc.exposureHighest, hc.exposure,
        hc.gainRange, haccepts, hc.horizontalBlankRange, hc.horizontalBlank,
        hc.verticalBlankRange, hc.verticalBlank⟩
  | horizontalBlank pixels => cases haccepts
  | verticalBlank lines =>
      exact fits_limitExposure hc.exposureLowest hm hc.gainRange hc.gain
        hc.horizontalBlankRange hc.horizontalBlank hc.verticalBlankRange haccepts
  | testPattern pattern => exact ⟨_, _, rfl, hc.of_settings rfl rfl rfl rfl⟩
  | horizontalFlip on => exact ⟨_, _, rfl, hc.of_settings rfl rfl rfl rfl⟩
  | verticalFlip on => exact ⟨_, _, rfl, hc.of_settings rfl rfl rfl rfl⟩

/-- A mode brings its own blanking; what is left is to limit the exposure. -/
theorem applyMode_eq_limitExposure (hm : m.WellFormed) (c : ControlSet) :
    exists line frame : Setting,
      c.applyMode m =
        limitExposure { c with horizontalBlank := line, verticalBlank := frame } m ∧
      horizontalBlankRange m = .ok line.range ∧ line.value = line.range.initial ∧
      verticalBlankRange m = .ok frame.range ∧
      frame.range.contains frame.value = true := by
  rcases horizontalBlankRange_of_wellFormed hm with ⟨blank, hblank, -⟩
  rcases verticalBlankRange_of_wellFormed hm with
    ⟨lowest, highest, hframe, hlowest, hhighest⟩
  refine ⟨c.horizontalBlank.within (Range.fixed blank),
    c.verticalBlank.within ⟨lowest, highest, 1, lowest⟩,
    ?_, hblank, Range.clamp_fixed blank _, hframe, ?_⟩
  · unfold ControlSet.applyMode
    rw [hblank, hframe]
    rfl
  · apply Range.contains_clamp
    have hshort := hm.height
    have hlong := hm.longest
    show lowest.toNat ≤ highest.toNat
    omega

/-- Whatever the controls were, a change to a well-formed mode never overflows. -/
theorem applyMode_of_wellFormed (hm : m.WellFormed) (c : ControlSet) :
    exists applied, c.applyMode m = .ok applied := by
  rcases applyMode_eq_limitExposure hm c with
    ⟨line, frame, happly, -, -, hframeRange, hframe⟩
  have hbounds := verticalBlankRange_bounds hframeRange hm
  have hvalue := Range.contains_iff.mp hframe
  have hshortest := hm.shortest
  rcases limitExposure_of_frame (m := m)
      (c := { c with horizontalBlank := line, verticalBlank := frame })
      (show _ ≤ m.height.toNat + frame.value.toNat by omega)
      (show m.height.toNat + frame.value.toNat ≤ _ by omega) with
    ⟨_, _, hlimit⟩
  exact ⟨_, happly.trans hlimit⟩

/-- A change to a well-formed mode never overflows, and leaves a fitting set. -/
theorem Fits.applyMode (hc : c.Fits m) (hm : m'.WellFormed) :
    exists c' moved, c.applyMode m' = .ok (c', moved) ∧ c'.Fits m' := by
  rcases applyMode_eq_limitExposure hm c with
    ⟨line, frame, happly, hblankRange, hblank, hframeRange, hframe⟩
  rw [happly]
  exact fits_limitExposure hc.exposureLowest hm hc.gainRange hc.gain hblankRange hblank
    hframeRange hframe

theorem Fits.horizontalBlank_within (hc : c.Fits m) (hm : m.WellFormed) :
    c.horizontalBlank.within c.horizontalBlank.range = c.horizontalBlank := by
  rcases horizontalBlankRange_of_wellFormed hm with ⟨blank, heq, -⟩
  have hrange := hc.horizontalBlankRange
  have hvalue := hc.horizontalBlank
  rw [heq] at hrange
  injection hrange with hrange
  rcases hset : c.horizontalBlank with ⟨range, value⟩
  rw [hset] at hrange hvalue
  change Range.fixed blank = range at hrange
  subst hrange
  change value = blank at hvalue
  subst hvalue
  unfold Setting.within
  rw [Range.clamp_fixed]

/-- The mode a set fits already changes nothing. -/
theorem Fits.applyMode_same (hc : c.Fits m) (hm : m.WellFormed) :
    c.applyMode m = .ok (c, false) := by
  have hframe : c.verticalBlank.within c.verticalBlank.range = c.verticalBlank := by
    unfold Setting.within
    rw [Range.clamp_of_contains hc.verticalBlank]
  have happly : c.applyMode m = limitExposure c m := by
    unfold ControlSet.applyMode
    rw [hc.horizontalBlankRange, hc.verticalBlankRange]
    show limitExposure
      { c with
        horizontalBlank := c.horizontalBlank.within c.horizontalBlank.range
        verticalBlank := c.verticalBlank.within c.verticalBlank.range } m = _
    rw [hc.horizontalBlank_within hm, hframe]
  have hbounds := verticalBlankRange_bounds hc.verticalBlankRange hm
  have hvalue := Range.contains_iff.mp hc.verticalBlank
  have hshort := hm.shortest
  rcases limitExposure_of_frame (m := m) (c := c) (by omega) (by omega) with
    ⟨highest, hhighest, hlimit⟩
  have hsame : highest = c.exposure.range.highest := by
    apply UInt32.toNat_inj.mp
    have := hc.exposureHighest
    omega
  subst hsame
  rw [happly, hlimit]
  unfold Setting.within
  rw [Range.clamp_of_contains hc.exposure]
  simp

end ControlSet
end ImageSensor
