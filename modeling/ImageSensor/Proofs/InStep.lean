import ImageSensor.Proofs.ControlHistory
import ImageSensor.Proofs.ControlRequest

/-!
# In step with the mode

What follows from the mode is kept in four places: the frame timing of the session,
and the ranges and values of the controls.  They are set when a mode is selected,
when a frame blanking is put into the sensor, and when a control that failed is
taken back.  Whatever is requested, and whatever fails meanwhile, they are those of
the mode in use, as long as each mode is one of the catalog.
-/

namespace ImageSensor

namespace Selection

/-- Timing and controls are those of the mode, which the catalog has. -/
structure InStep (s : Selection) : Prop where
  entry : s.entry ∈ Catalog.entries
  regular : s.Regular
  controls : s.controls.Fits s.entry.mode

/-- In step, and still so after the controls have been set back to some others. -/
structure Revocable (before : ControlSet) (s : Selection) : Prop where
  inStep : s.InStep
  before : before.Fits s.entry.mode

variable {s : Selection} {before : ControlSet}

theorem InStep.wellFormed (h : s.InStep) : s.entry.mode.WellFormed :=
  Catalog.wellFormed h.entry

theorem InStep.reset (h : s.InStep) : s.resetFrame.InStep :=
  ⟨h.entry, h.regular.reset, h.controls⟩

theorem Revocable.reset (h : s.Revocable before) : s.resetFrame.Revocable before :=
  ⟨h.inStep.reset, h.before⟩

end Selection

/-!
# Requests keep the device in step
-/

namespace Device

theorem contract_selectMode_inStep {entry : Entry} (hentry : entry ∈ Catalog.entries) :
    Action.Keeps (Chosen Selection.InStep) (selectMode entry) := by
  intro log d hd
  rcases hd.controls.applyMode (Catalog.wellFormed hentry) with ⟨controls, moved, happly, hfits⟩
  change d.controls.applyMode entry.mode = _ at happly
  simp only [selectMode, Action.run_bind, Action.run_inspect, happly, Action.run_compute_ok,
    run_changeControls, run_changeSession, Outcome.after_mk]
  exact ⟨hentry, ⟨rfl, rfl⟩, hfits⟩

theorem negotiable_inStep : Negotiable (Chosen Selection.InStep) where
  scratch := fun _ => chosen_changeSession fun _ hd =>
    ⟨hd.entry, ⟨hd.regular.interval, hd.regular.frameLength⟩, hd.controls⟩
  selectMode := fun hentry => (contract_selectMode_inStep hentry).pre fun _ _ hd => hd.1

/-- A stored control may be delivered or taken back. -/
theorem chosen_deliver (before : ControlSet) (request : Control) (stored : ControlSet × Bool) :
    Action.Keeps (Chosen (Selection.Revocable before)) (deliver before request stored) := by
  have hpush := chosen_push (P := Selection.Revocable before) fun _ hs => hs.reset
  have hpushed : Action.Keeps (Chosen (Selection.Revocable before))
      (pushStored request stored) := by
    rcases stored with ⟨controls, moved⟩
    cases moved with
    | false => exact hpush request
    | true => exact (hpush request).both (hpush _)
  apply (hpushed.ensuring chosen_release).onError
  apply Action.Contract.update
  intro log d hd
  exact ⟨⟨hd.inStep.entry, ⟨hd.inStep.regular.interval, hd.inStep.regular.frameLength⟩,
    hd.before⟩, hd.before⟩

theorem chosen_applyControl (request : Control) :
    Action.Keeps (Chosen Selection.InStep) (applyControl request) := by
  intro log d hd
  cases haccepts : d.controls.accepts request with
  | false =>
      rw [run_applyControl_of_refused haccepts]
      exact hd
  | true =>
      rcases hd.controls.store hd.wellFormed haccepts with ⟨controls, moved, hstore, hfits⟩
      rw [run_applyControl_of_accepted haccepts hstore]
      have hkept : Action.Keeps (Chosen (Selection.Revocable d.controls))
          (onRig Rig.getIfInUse >>= fun inUse =>
            Action.when inUse (deliver d.controls request (controls, moved))) :=
        (chosen_onRig _).bind fun inUse => (chosen_deliver _ _ _).when inUse
      have hstored : Chosen (Selection.Revocable d.controls) log
          { d with controls := controls } :=
        ⟨⟨hd.entry, ⟨hd.regular.interval, hd.regular.frameLength⟩, hfits⟩, hd.controls⟩
      exact (hkept.post fun _ _ _ h => h.inStep).orElse (fun _ _ _ h => h.inStep) log _ hstored

end Device

namespace Scenario

/-- A mode that is selected directly is one of the catalog. -/
def Step.Catalogued : Step -> Prop
  | .operation (.selectMode entry) => entry ∈ Catalog.entries
  | _ => True

theorem Step.Managed.catalogued {d : Device} {step : Step} (h : step.Managed d) :
    step.Catalogued := by
  cases step with
  | operation request =>
      cases request with
      | selectMode entry => exact h.1
      | _ => trivial
  | _ => trivial

theorem Step.inStep_perform {step : Step} (h : step.Catalogued) :
    Action.Keeps (Device.Chosen Selection.InStep) step.perform := by
  apply step.chosen_perform (fun _ hs => hs.reset) Device.negotiable_inStep
    Device.chosen_applyControl
  rintro entry rfl
  exact Device.contract_selectMode_inStep h

/-- Every device that a run leads to is in step. -/
theorem Run.inStep {Allowed : Device -> Step -> Prop} {c : Config} {rig : Rig}
    {history : List Moment} {d : Device}
    (hrun : Run Allowed (Device.attach c rig).state history d)
    (hallowed : forall {d : Device} {step : Step}, Allowed d step -> step.Catalogued) :
    d.selection.InStep := by
  have hinitial : Device.Chosen Selection.InStep [] (Device.initial c rig) :=
    ⟨List.mem_cons_self, Device.regular_initial c rig, ControlSet.fits_initial c.orientation⟩
  have hstart := Device.chosen_bringUp.always hinitial
  exact hrun.kept_allowed (I := Device.Chosen Selection.InStep) hstart
    fun h => Step.inStep_perform (hallowed h)

end Scenario

/-!
# What the host sees of it
-/

namespace ControlSet

variable {m : Mode} {c : ControlSet}

/-- Whatever can be asked for by kind lies in its range. -/
theorem Limited.contains_value (hc : c.Limited m) (kind : Control.Kind) :
    (c.range kind).contains (c.value kind) = true := by
  cases kind with
  | exposure => exact hc.exposure
  | analogGain => exact hc.gain
  | verticalBlank => exact hc.verticalBlank
  | horizontalBlank =>
      rw [Range.contains_iff, hc.horizontalBlankLowest, hc.horizontalBlankHighest]
      exact ⟨Nat.le_refl _, Nat.le_refl _⟩
  | testPattern =>
      show Range.contains _ c.testPattern.index = true
      cases c.testPattern <;> rfl
  | horizontalFlip =>
      show Range.contains _ c.orientation.mirror.toUInt32 = true
      cases c.orientation.mirror <;> rfl
  | verticalFlip =>
      show Range.contains _ c.orientation.flip.toUInt32 = true
      cases c.orientation.flip <;> rfl
  | linkFrequency => rfl
  | pixelRate => rfl

/-- An exposure is refused if it is zero, or reaches the end of the frame. -/
theorem Limited.exposure_refused_iff (hc : c.Limited m) (lines : UInt32) :
    c.accepts (.exposure lines) = false <->
      lines = 0 ∨ m.height.toNat + (c.value .verticalBlank).toNat - 1 < lines.toNat := by
  have hlowest : c.exposure.range.lowest.toNat = 1 := congrArg UInt32.toNat hc.exposureLowest
  have hhighest : c.exposure.range.highest.toNat + 1 =
      m.height.toNat + (c.value .verticalBlank).toNat := hc.exposureHighest
  have hzero : lines = 0 <-> lines.toNat = 0 := UInt32.toNat_inj.symm
  show c.exposure.range.contains lines = false <-> _
  rw [Bool.eq_false_iff, Ne, Range.contains_iff, hzero]
  omega

end ControlSet

namespace Device

/-- Everything that follows from the mode is what the mode says. -/
structure Synchronized (d : Device) : Prop where
  entry : d.session.entry ∈ Catalog.entries
  frameLength : d.session.frameLength = d.mode.frameLength
  interval : d.session.interval = d.mode.interval
  frameInterval : d.session.frameInterval = d.mode.interval
  limited : d.controls.Limited d.mode
  values : forall kind, (d.controls.range kind).contains (d.controls.value kind) = true
  exposure : forall lines,
    ((applyControl (.exposure lines)).run d).result = .error (.reported .invalidArgument) <->
      lines = 0 ∨
        d.mode.height.toNat + (d.controls.value .verticalBlank).toNat - 1 < lines.toNat

variable {d : Device}

theorem fitted_of_inStep (h : d.selection.InStep) : d.Fitted where
  wellFormed := h.wellFormed
  linear := Catalog.isLinear h.entry
  controls := h.controls
  frameLength := h.regular.frameLength

theorem synchronized_of_inStep (h : d.selection.InStep) : d.Synchronized := by
  have hlimited := h.controls.limited h.wellFormed
  constructor
  · exact h.entry
  · exact h.regular.frameLength
  · exact h.regular.interval
  · unfold Session.frameInterval
    split
    case isTrue => exact h.regular.interval
    case isFalse => rfl
  · exact hlimited
  · exact hlimited.contains_value
  · intro lines
    rw [invalidArgument_iff (fitted_of_inStep h)]
    exact hlimited.exposure_refused_iff lines

end Device

open Scenario

/--
Whatever was requested of a device since it was attached, and whatever failed
meanwhile, it is still in step with its mode.
-/
theorem synchronized_of_run {c : Config} {rig : Rig} {history : List Moment} {d : Device}
    (hrun : Run (fun _ step => step.Catalogued) (Device.attach c rig).state history d) :
    d.Synchronized :=
  Device.synchronized_of_inStep (hrun.inStep fun h => h)

/-- A frame blanking that drags the exposure along cannot be written, and is taken back. -/
theorem synchronized_after_broken_blanking :
    exists history d,
      Run (fun _ step => step.Catalogued) (Device.attach .booted .sound).state history d ∧
      d.session.streaming = true ∧ d.session.entry = Catalog.deep ∧
      d.controls.value .verticalBlank = 64455 ∧ d.controls.value .exposure = 65000 ∧
      d.Synchronized := by
  have hrun : Run (fun _ step => step.Catalogued) (Device.attach .booted .sound).state _ _ :=
    Run.start
      |>.next (.operation (.selectMode Catalog.deep))
          (show Catalog.deep ∈ Catalog.entries by decide)
      |>.next (.operation (.applyControl (.verticalBlank 64455))) trivial
      |>.next (.operation (.setStream true)) trivial
      |>.next (.operation (.applyControl (.exposure 65000))) trivial
      |>.next (.disturbance (.fail { Faults.none with since := some 0 } .none)) trivial
      |>.next (.operation (.applyControl (.verticalBlank 120))) trivial
  exact ⟨_, _, hrun, rfl, rfl, rfl, rfl, synchronized_of_run hrun⟩

end ImageSensor
