import ImageSensor.Proofs.ControlChange

/-!
# Published ranges and earlier modes

What a control set publishes against what a fresh set of the mode in use
publishes under the same frame blanking.  All limits and steps agree, and all
initial values of the blankings and of the gain.  The initial exposure is the
one exception: it is never published again, so it stays the one of the mode the
set was made for.
-/

namespace ImageSensor
namespace ControlSet

variable {start m : Mode} {o : Orientation} {c c' fresh : ControlSet}
  {request : Control} {moved : Bool}

/-!
# The range of the exposure

No change touches more than its limit.
-/

theorem Stored.exposureRange_eq (h : Stored m request c c' moved) :
    exists highest,
      c'.range .exposure = { c.range .exposure with highest := highest } := by
  cases request with
  | verticalBlank lines =>
      rcases h.limit lines rfl with ⟨highest, -, hrange, -⟩
      exact ⟨highest, hrange⟩
  | _ => exact ⟨_, h.exposureRange (by simp [Control.kind])⟩

/-- Bound, step and initial value are still those of the mode at the start. -/
theorem exposureRange_of_reached (hstart : start.WellFormed)
    (hreached : Reached start o m c) :
    exists highest,
      c.range .exposure = ⟨exposureMinimum, highest, exposureStep, start.exposure⟩ := by
  induction hreached with
  | initial hinitial =>
      rcases exposureRange_of_wellFormed hstart with ⟨longest, hexposure, -⟩
      rcases horizontalBlankRange_of_wellFormed hstart with ⟨blank, hblank, -⟩
      rcases verticalBlankRange_of_wellFormed hstart with ⟨lowest, highest, hframe, -, -⟩
      refine ⟨longest, ?_⟩
      unfold ofMode at hinitial
      rw [hexposure, hblank, hframe] at hinitial
      cases hinitial
      rfl
  | @next m c c' moved hreached change hadmitted hperform ih =>
      rcases ih with ⟨highest, hrange⟩
      rcases fits_of_reached hstart hreached with ⟨hm, hfits⟩
      have hkept : exists highest,
          c'.range .exposure = { c.range .exposure with highest := highest } := by
        cases change with
        | store request =>
            rcases hfits.stored hm hadmitted with ⟨_, _, hstore, hstored⟩
            cases hperform.symm.trans hstore
            exact hstored.exposureRange_eq
        | applyMode next =>
            rcases hfits.takenOver hadmitted with ⟨_, _, htake, htaken⟩
            cases hperform.symm.trans htake
            exact htaken.limit
      rcases hkept with ⟨highest', hrange'⟩
      exact ⟨highest', by rw [hrange', hrange]⟩

/-!
# What the mode in use determines
-/

theorem Fits.verticalBlankRange_eq (hc : c.Fits m) (hc' : c'.Fits m) :
    c.verticalBlank.range = c'.verticalBlank.range :=
  Except.ok.inj (hc.verticalBlankRange.symm.trans hc'.verticalBlankRange)

theorem Fits.range_eq (hc : c.Fits m) (hc' : c'.Fits m) {kind : Control.Kind}
    (hkind : kind ≠ .exposure) : c.range kind = c'.range kind := by
  cases kind with
  | exposure => exact (hkind rfl).elim
  | analogGain => exact hc.gainRange.trans hc'.gainRange.symm
  | horizontalBlank =>
      exact Except.ok.inj (hc.horizontalBlankRange.symm.trans hc'.horizontalBlankRange)
  | verticalBlank => exact hc.verticalBlankRange_eq hc'
  | _ => rfl

theorem Fits.highest_eq (hc : c.Fits m) (hc' : c'.Fits m)
    (hblank : c.value .verticalBlank = c'.value .verticalBlank) :
    (c.range .exposure).highest = (c'.range .exposure).highest := by
  have hhighest := hc.exposureHighest
  have hhighest' := hc'.exposureHighest
  change c.verticalBlank.value = c'.verticalBlank.value at hblank
  rw [hblank] at hhighest
  apply UInt32.toNat_inj.mp
  show c.exposure.range.highest.toNat = c'.exposure.range.highest.toNat
  omega

/-- A fresh set of the mode in use takes over the frame blanking of the old one. -/
theorem exists_fresh (hstart : start.WellFormed) (hreached : Reached start o m c)
    (o' : Orientation) :
    exists fresh shown moved,
      ofMode m o' = .ok fresh ∧
      fresh.accepts (.verticalBlank (c.value .verticalBlank)) = true ∧
      fresh.store (.verticalBlank (c.value .verticalBlank)) m = .ok (shown, moved) ∧
      Reached m o' m shown ∧ shown.value .verticalBlank = c.value .verticalBlank := by
  rcases fits_of_reached hstart hreached with ⟨hm, hfits⟩
  rcases fits_ofMode hm o' with ⟨fresh, hfresh, hfreshFits⟩
  have haccepts : fresh.accepts (.verticalBlank (c.value .verticalBlank)) = true := by
    show fresh.verticalBlank.range.contains c.verticalBlank.value = true
    rw [hfreshFits.verticalBlankRange_eq hfits]
    exact hfits.verticalBlank
  have hinitial : Reached m o' m fresh := Reached.initial hfresh
  rcases hfreshFits.stored hm haccepts with ⟨shown, moved, hstore, hstored⟩
  exact ⟨fresh, shown, moved, hfresh, haccepts, hstore,
    hinitial.next (.store _) haccepts hstore, hstored.value⟩

/--
The ranges are those of a fresh set with the same frame blanking, except that
the initial exposure is the one of the first mode of all; so they are exactly
those of the fresh set if and only if the two modes start from one exposure.
-/
theorem range_of_reached (hstart : start.WellFormed) (hreached : Reached start o m c)
    (o' : Orientation) :
    exists fresh shown moved,
      ofMode m o' = .ok fresh ∧
      fresh.accepts (.verticalBlank (c.value .verticalBlank)) = true ∧
      fresh.store (.verticalBlank (c.value .verticalBlank)) m = .ok (shown, moved) ∧
      (forall kind, kind ≠ .exposure -> c.range kind = shown.range kind) ∧
      c.range .exposure = { shown.range .exposure with initial := start.exposure } ∧
      ((forall kind, c.range kind = shown.range kind) <-> m.exposure = start.exposure) := by
  rcases exists_fresh hstart hreached o' with
    ⟨fresh, shown, moved, hfresh, haccepts, hstore, hshown, hblank⟩
  rcases fits_of_reached hstart hreached with ⟨hm, hfits⟩
  have hshownFits : shown.Fits m := (fits_of_reached hm hshown).2
  have hothers : forall kind, kind ≠ .exposure -> c.range kind = shown.range kind :=
    fun _ hkind => hfits.range_eq hshownFits hkind
  rcases exposureRange_of_reached hstart hreached with ⟨highest, hold⟩
  rcases exposureRange_of_reached hm hshown with ⟨highest', hnew⟩
  have hexposure :
      c.range .exposure = { shown.range .exposure with initial := start.exposure } := by
    have hhighest := hfits.highest_eq hshownFits hblank.symm
    rw [hold, hnew] at hhighest ⊢
    change highest = highest' at hhighest
    rw [hhighest]
  refine ⟨fresh, shown, moved, hfresh, haccepts, hstore, hothers, hexposure, ?_⟩
  constructor
  · intro hall
    have hinitial := congrArg Range.initial (hall .exposure)
    rw [hold, hnew] at hinitial
    exact hinitial.symm
  · intro hsame kind
    by_cases hkind : kind = .exposure
    · rw [hkind, hexposure, hnew, hsame]
    · exact hothers kind hkind

/-- The quarter mode publishes after the longest frame what it publishes by itself. -/
theorem range_of_quarterMode :
    Catalog.first.mode.WellFormed ∧ exists c fresh shown moved,
      Reached Catalog.first.mode .normal quarterMode c ∧
      ofMode quarterMode .normal = .ok fresh ∧
      fresh.store (.verticalBlank 64455) quarterMode = .ok (shown, moved) ∧
      (forall kind, c.range kind = shown.range kind) ∧
      c.range .exposure = ⟨1, 64934, 1, 500⟩ := by
  have hstart : Catalog.first.mode.WellFormed := Catalog.wellFormed List.mem_cons_self
  have hquarter : quarterMode.WellFormed := by
    constructor <;> decide
  have hlast := reached_stretched.next (.applyMode quarterMode) hquarter rfl
  rcases range_of_reached hstart hlast .normal with
    ⟨fresh, shown, moved, hfresh, -, hstore, -, -, hsame⟩
  exact ⟨hstart, _, fresh, shown, moved, hlast, hfresh, hstore, hsame.mpr rfl, rfl⟩

/-- The deep mode starts from a shorter exposure, which a change to it does not publish. -/
theorem initial_exposure_not_published :
    Catalog.first.mode.WellFormed ∧ Catalog.deep.mode.WellFormed ∧
    exists c fresh shown moved,
      Reached Catalog.first.mode .normal Catalog.deep.mode c ∧
      ofMode Catalog.deep.mode .normal = .ok fresh ∧
      fresh.accepts (.verticalBlank (c.value .verticalBlank)) = true ∧
      fresh.store (.verticalBlank (c.value .verticalBlank)) Catalog.deep.mode =
        .ok (shown, moved) ∧
      c.range .exposure = ⟨1, 1199, 1, 500⟩ ∧
      shown.range .exposure = ⟨1, 1199, 1, 82⟩ := by
  have hdeep : Catalog.deep.mode.WellFormed := by
    constructor <;> decide
  have hinitial : Reached Catalog.first.mode .normal Catalog.first.mode (initial .normal) :=
    Reached.initial (ofMode_first .normal)
  have htaken := hinitial.next (.applyMode Catalog.deep.mode) hdeep rfl
  exact ⟨Catalog.wellFormed List.mem_cons_self, hdeep, _, _, _, _, htaken, rfl, by decide,
    rfl, rfl, rfl⟩

end ControlSet
end ImageSensor
