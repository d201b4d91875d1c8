import ImageSensor.Proofs.ControlHistory
import ImageSensor.Proofs.Holding

/-!
# What a change does to the controls

A stored value changes its own control.  Only a frame blanking reaches further:
it moves the exposure limit, and the exposure where that no longer fits.  A
change of mode keeps gain, test pattern and orientation.  The result of both
tells whether the exposure was pulled down, so that it has to be put into the
sensor again; an exposure that is itself stored is put there anyway, and does
not count as pulled down.
-/

namespace ImageSensor

theorem Range.clamp_of_lowest_le {r : Range} {value : UInt32}
    (h : r.lowest.toNat ≤ value.toNat) : r.clamp value = min value r.highest := by
  apply UInt32.toNat_inj.mp
  rw [toNat_clamp, UInt32.toNat_min]
  omega

theorem UInt32.min_ne_iff {a b : UInt32} : (min a b != a) = true <-> min a b < a := by
  rw [bne_iff_ne, ne_eq, ← UInt32.toNat_inj, UInt32.lt_iff_toNat_lt, UInt32.toNat_min]
  omega

theorem UInt32.min_le (a b : UInt32) : min a b ≤ a := by
  rw [UInt32.le_iff_toNat_le, UInt32.toNat_min]
  omega

namespace ControlSet

variable {start m next : Mode} {o : Orientation} {c c' : ControlSet}
  {request : Control} {moved : Bool}

/-!
# The exposure under another limit
-/

/-- The exposure limit of a frame, and the exposure pulled down to it. -/
structure PulledDown (m : Mode) (lines : UInt32) (c c' : ControlSet) (moved : Bool) :
    Prop where
  limit : exists highest,
    highest.toNat + 1 = m.height.toNat + lines.toNat ∧
    c'.exposure.range = { c.exposure.range with highest := highest } ∧
    c'.exposure.value = min c.exposure.value highest
  moved : moved = true <-> c'.exposure.value < c.exposure.value

theorem PulledDown.exposure_le {lines : UInt32} (h : PulledDown m lines c c' moved) :
    c'.exposure.value ≤ c.exposure.value := by
  rcases h.limit with ⟨highest, -, -, hvalue⟩
  rw [hvalue]
  exact UInt32.min_le _ _

/-- Without the lower bound the exposure could be raised as well. -/
theorem pulledDown_limitExposure
    (hlowest : c.exposure.range.lowest.toNat ≤ c.exposure.value.toNat)
    (hm : m.WellFormed) (hrange : verticalBlankRange m = .ok c.verticalBlank.range)
    (hblank : c.verticalBlank.range.contains c.verticalBlank.value = true) :
    exists exposure moved,
      limitExposure c m = .ok ({ c with exposure := exposure }, moved) ∧
      PulledDown m c.verticalBlank.value c { c with exposure := exposure } moved := by
  have hbounds := verticalBlankRange_bounds hrange hm
  have hvalue := Range.contains_iff.mp hblank
  have hshortest := hm.shortest
  rcases limitExposure_of_frame (m := m) (c := c) (by omega) (by omega) with
    ⟨highest, hhighest, hlimit⟩
  have hclamp : Range.clamp { c.exposure.range with highest := highest }
      c.exposure.value = min c.exposure.value highest :=
    Range.clamp_of_lowest_le hlowest
  refine ⟨_, _, hlimit, ⟨highest, hhighest.symm, rfl, hclamp⟩, ?_⟩
  show (Range.clamp _ _ != _) = true <-> Range.clamp _ _ < _
  rw [hclamp]
  exact UInt32.min_ne_iff

/-!
# Storing a value
-/

/-- What storing a request changes, and what it keeps. -/
structure Stored (m : Mode) (request : Control) (c c' : ControlSet) (moved : Bool) :
    Prop where
  value : c'.value request.kind = request.value
  otherValues : forall kind, kind ≠ request.kind -> kind ≠ .exposure ->
    c'.value kind = c.value kind
  otherRanges : forall kind, kind ≠ .exposure -> c'.range kind = c.range kind
  exposureRange : request.kind ≠ .verticalBlank ->
    c'.range .exposure = c.range .exposure
  exposure : request.kind ≠ .verticalBlank -> request.kind ≠ .exposure ->
    c'.value .exposure = c.value .exposure
  limit : forall lines, request = .verticalBlank lines -> exists highest,
    highest.toNat + 1 = m.height.toNat + lines.toNat ∧
    c'.range .exposure = { c.range .exposure with highest := highest } ∧
    c'.value .exposure = min (c.value .exposure) highest
  moved : moved = true <->
    request.kind ≠ .exposure ∧ c'.value .exposure < c.value .exposure
  notRaised : request.kind ≠ .exposure -> c'.value .exposure ≤ c.value .exposure

/-- What changes one control other than exposure and frame blanking. -/
theorem Stored.of_exposure (hexposure : c'.exposure = c.exposure)
    (hvalue : c'.value request.kind = request.value)
    (hothers : forall kind, kind ≠ request.kind -> c'.value kind = c.value kind)
    (hranges : forall kind, c'.range kind = c.range kind)
    (hblank : request.kind ≠ .verticalBlank) : Stored m request c c' false := by
  have hkept : c'.value .exposure = c.value .exposure := congrArg Setting.value hexposure
  constructor
  · exact hvalue
  · exact fun kind hkind _ => hothers kind hkind
  · exact fun kind _ => hranges kind
  · exact fun _ => hranges .exposure
  · exact fun _ _ => hkept
  · intro lines hrequest
    exact (hblank (congrArg Control.kind hrequest)).elim
  · rw [hkept]
    simp
  · exact fun _ => by simp [hkept]

theorem PulledDown.stored {lines : UInt32} {exposure : Setting}
    (h : PulledDown m lines c
      { c with
        verticalBlank := { c.verticalBlank with value := lines }
        exposure := exposure } moved) :
    Stored m (.verticalBlank lines) c
      { c with
        verticalBlank := { c.verticalBlank with value := lines }
        exposure := exposure } moved := by
  constructor
  · rfl
  · intro kind hkind hexposure
    cases kind with
    | exposure => exact (hexposure rfl).elim
    | verticalBlank => exact (hkind rfl).elim
    | _ => rfl
  · intro kind hexposure
    cases kind with
    | exposure => exact (hexposure rfl).elim
    | _ => rfl
  · intro hkind
    exact (hkind rfl).elim
  · intro hkind
    exact (hkind rfl).elim
  · intro lines' hrequest
    cases hrequest
    exact h.limit
  · rw [h.moved]
    simp [Control.kind, value]
  · exact fun _ => h.exposure_le

theorem Fits.stored (hc : c.Fits m) (hm : m.WellFormed)
    (haccepts : c.accepts request = true) :
    exists c' moved, c.store request m = .ok (c', moved) ∧
      Stored m request c c' moved := by
  cases request with
  | exposure lines =>
      refine ⟨_, _, rfl, ?_⟩
      constructor
      · rfl
      · intro kind hkind _
        cases kind with
        | exposure => exact (hkind rfl).elim
        | _ => rfl
      · exact fun kind _ => by cases kind <;> rfl
      · exact fun _ => rfl
      · exact fun _ hkind => (hkind rfl).elim
      · exact fun _ hrequest => nomatch hrequest
      · simp [Control.kind]
      · exact fun hkind => (hkind rfl).elim
  | horizontalBlank pixels => cases haccepts
  | verticalBlank lines =>
      rcases pulledDown_limitExposure
          (c := { c with verticalBlank := { c.verticalBlank with value := lines } })
          (Range.contains_iff.mp hc.exposure).1 hm hc.verticalBlankRange haccepts with
        ⟨exposure, moved, hlimit, hpulled⟩
      exact ⟨_, moved, hlimit, PulledDown.stored ⟨hpulled.limit, hpulled.moved⟩⟩
  | _ =>
      refine ⟨_, _, rfl, Stored.of_exposure rfl rfl ?_ ?_ (by simp [Control.kind])⟩
      · intro kind hkind
        cases kind <;> first | rfl | exact (hkind rfl).elim
      · exact fun kind => by cases kind <;> rfl

/-!
# Taking over a mode
-/

/-- What a change of mode keeps, and what it does to the exposure. -/
structure TakenOver (c c' : ControlSet) (moved : Bool) : Prop where
  gain : c'.analogGain = c.analogGain
  testPattern : c'.testPattern = c.testPattern
  orientation : c'.orientation = c.orientation
  limit : exists highest,
    c'.range .exposure = { c.range .exposure with highest := highest }
  moved : moved = true <-> c'.value .exposure ≠ c.value .exposure
  notRaised : c'.value .exposure ≤ c.value .exposure

theorem Fits.takenOver (hc : c.Fits m) (hnext : next.WellFormed) :
    exists c' moved, c.applyMode next = .ok (c', moved) ∧ TakenOver c c' moved := by
  rcases applyMode_eq_limitExposure hnext c with
    ⟨line, frame, happly, -, -, hframeRange, hframe⟩
  rcases pulledDown_limitExposure
      (c := { c with horizontalBlank := line, verticalBlank := frame })
      (Range.contains_iff.mp hc.exposure).1 hnext hframeRange hframe with
    ⟨exposure, moved, hlimit, hpulled⟩
  rcases hpulled.limit with ⟨highest, -, hrange, -⟩
  refine ⟨_, moved, happly.trans hlimit, rfl, rfl, rfl, ⟨highest, hrange⟩, ?_,
    hpulled.exposure_le⟩
  rw [hpulled.moved]
  have hle := hpulled.exposure_le
  show exposure.value < c.exposure.value <-> exposure.value ≠ c.exposure.value
  change exposure.value ≤ c.exposure.value at hle
  rw [UInt32.le_iff_toNat_le] at hle
  rw [UInt32.lt_iff_toNat_lt, ne_eq, ← UInt32.toNat_inj]
  omega

/--
Whatever happened to the controls before: a value that is accepted can be
stored, changes its own control, and a frame blanking also the exposure; a
well-formed mode can be taken over.  The exposure is only ever pulled down,
and the result says whether it was.
-/
theorem change_of_reached (hstart : start.WellFormed) (hreached : Reached start o m c) :
    (forall request, c.accepts request = true ->
      exists c' moved, c.store request m = .ok (c', moved) ∧
        Stored m request c c' moved) ∧
    forall next : Mode, next.WellFormed ->
      exists c' moved, c.applyMode next = .ok (c', moved) ∧ TakenOver c c' moved := by
  rcases fits_of_reached hstart hreached with ⟨hm, hfits⟩
  constructor
  · intro request haccepts
    exact hfits.stored hm haccepts
  · intro next hnext
    exact hfits.takenOver hnext

/-- The default frame pulls down the longest exposure, and so does a smaller mode. -/
theorem change_of_stretched :
    Catalog.first.mode.WellFormed ∧
    Reached Catalog.first.mode .normal Catalog.first.mode stretched ∧
    (stretched.accepts (.verticalBlank 120) = true ∧ exists c',
      stretched.store (.verticalBlank 120) Catalog.first.mode = .ok (c', true) ∧
      Stored Catalog.first.mode (.verticalBlank 120) stretched c' true ∧
      c'.value .exposure = 1199) ∧
    quarterMode.WellFormed ∧ exists c',
      stretched.applyMode quarterMode = .ok (c', true) ∧
      TakenOver stretched c' true ∧ c'.value .exposure = 64934 := by
  have hstart : Catalog.first.mode.WellFormed := Catalog.wellFormed List.mem_cons_self
  have hquarter : quarterMode.WellFormed := by
    constructor <;> decide
  have haccepts : stretched.accepts (.verticalBlank 120) = true := by decide
  rcases change_of_reached hstart reached_stretched with ⟨hstores, htakes⟩
  refine ⟨hstart, reached_stretched, ⟨haccepts, ?_⟩, hquarter, ?_⟩
  · rcases hstores (.verticalBlank 120) haccepts with ⟨c', moved, hstore, hstored⟩
    have hpulled : stretched.store (.verticalBlank 120) Catalog.first.mode =
        .ok ({ initial .normal with exposure := ⟨⟨1, 1199, 1, 500⟩, 1199⟩ }, true) := rfl
    cases hpulled.symm.trans hstore
    exact ⟨_, hstore, hstored, rfl⟩
  · rcases htakes quarterMode hquarter with ⟨c', moved, htake, htaken⟩
    have hpulled : stretched.applyMode quarterMode =
        .ok ({ stretched with
          exposure := ⟨⟨1, 64934, 1, 500⟩, 64934⟩
          horizontalBlank := ⟨Range.fixed 160, 160⟩
          verticalBlank := ⟨⟨45, 65055, 1, 45⟩, 64455⟩ }, true) := rfl
    cases hpulled.symm.trans htake
    exact ⟨_, htake, htaken, rfl⟩

/-- A stored exposure that is shorter than before does not count as pulled down. -/
theorem shorter_exposure_stored :
    Catalog.first.mode.WellFormed ∧
    Reached Catalog.first.mode .normal Catalog.first.mode (initial .normal) ∧
    (initial .normal).accepts (.exposure 499) = true ∧ exists c',
      (initial .normal).store (.exposure 499) Catalog.first.mode = .ok (c', false) ∧
      c'.value .exposure < (initial .normal).value .exposure := by
  refine ⟨Catalog.wellFormed List.mem_cons_self, Reached.initial (ofMode_first .normal),
    by decide, _, rfl, ?_⟩
  show (499 : UInt32) < 500
  decide

end ControlSet
end ImageSensor
