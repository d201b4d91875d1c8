import ImageSensor.Proofs.Residue

/-!
# Starts of the same mode

Two devices that start a stream in the same mode with the same controls end up
with the same registers, whatever they streamed before, unless the mode is the
one that sets no clock dividers.
-/

namespace ImageSensor

namespace Catalog

/-- The dividers of the clock tree. -/
def clockDividers : List UInt16 :=
  [0x004c, 0x004e, 0x0051, 0x0053]

/-- Of what some program writes, a mode leaves at most the clock dividers alone. -/
theorem mem_writes_of_mem {e e' : Entry} (he : e ∈ entries) (he' : e' ∈ entries)
    {r : UInt16} (hr : r ∈ e'.mode.program.writes.map Prod.fst) :
    r ∈ e.mode.program.writes.map Prod.fst ∨ r ∈ Register.operated ∨
      (e = deep ∧ r ∈ clockDividers) := by
  have hall : (entries.all fun e => entries.all fun e' =>
      (e'.mode.program.writes.map Prod.fst).all fun r =>
        (e.mode.program.writes.map Prod.fst).contains r || Register.operated.contains r ||
          (decide (e = deep) && clockDividers.contains r)) = true := by
    decide +kernel
  have hpair := List.all_eq_true.mp (List.all_eq_true.mp hall e he) e' he'
  have hone := List.all_eq_true.mp hpair r hr
  simpa [or_assoc] using hone

theorem clockDividers_of_deep {r : UInt16} (hr : r ∈ clockDividers) (c : ControlSet) :
    r ∉ (deep.mode.startWrites c).map Prod.fst := by
  have hall : (clockDividers.all fun r =>
      !(deep.mode.program.writes.map Prod.fst).contains r &&
        !Register.operated.contains r) = true := by
    decide +kernel
  have hone := List.all_eq_true.mp hall r hr
  rw [Mode.mem_startWrites_iff]
  simpa using hone

end Catalog

namespace Scenario

theorem stored_replayed_of_not_mem {history : List Moment} {f : RegisterFile} {r : UInt16}
    (h : forall m, m ∈ history -> r ∉ m.before.mode.program.writes.map Prod.fst) :
    (replayed history f).stored r = f.stored r := by
  induction history generalizing f with
  | nil => rfl
  | cons m rest ih =>
      have hrest := fun m' hm => h m' (List.mem_cons_of_mem m hm)
      show (replayed rest
        (if m.startsStream then f.load m.before.mode.program.writes else f)).stored r = _
      rw [ih hrest]
      split
      case isTrue => exact RegisterFile.stored_load_of_not_mem (h m List.mem_cons_self)
      case isFalse => rfl

end Scenario

open Scenario Device

/-- A run without failed transfers, up to the start of a stream. -/
structure Launch (f : RegisterFile) where
  config : Config
  rig : Rig
  history : List Moment
  device : Device
  boot : config.fastBoot = false
  file : rig.bus.file = f
  run : Run (fun d step => step.Managed d ∧ ¬ step.IsLoad) (attach config rig).state
    history device
  clean : Clean ((attach config rig).events ++ log history)
  idle : device.session.streaming = false
  started : ((setStream true).run device).result = .ok ()

namespace Launch

variable {f : RegisterFile}

/-- The register file once the stream has started. -/
def final (a : Launch f) : RegisterFile :=
  ((setStream true).run a.device).state.rig.bus.file

theorem residual (a : Launch f) :
    Residual false (replayed a.history f) ((attach a.config a.rig).events ++ log a.history)
      a.device := by
  have hattach := residual_attach a.rig a.boot
  rw [a.file] at hattach
  have hend := a.run.residual (hattach.streaming ▸ hattach) fun _ _ hstep => hstep
  rw [a.idle] at hend
  exact hend

theorem final_eq (a : Launch f) :
    a.final = a.device.rig.bus.file.load (a.device.mode.startWrites a.device.controls) := by
  have hlinear := Catalog.isLinear a.residual.entry
  have hfiled := a.residual.filed
  have hstarted := a.started
  unfold final
  rw [run_setStream_on a.idle] at hstarted ⊢
  have hheld := (contract_beginStream_held hlinear).result ⟨hfiled.toHeld, a.clean⟩ hstarted
  exact ((contract_beginStream_filed hlinear).result hfiled hstarted).2 hheld.2

theorem mem_entries (a : Launch f) {m : Moment} (hm : m ∈ a.history) :
    m.before.session.entry ∈ Catalog.entries := by
  rcases List.append_of_mem hm with ⟨earlier, later, hsplit⟩
  have hrun := a.run
  rw [hsplit] at hrun
  have hattach := residual_attach a.rig a.boot
  exact (hrun.before.1.residual (hattach.streaming ▸ hattach) fun _ _ hstep => hstep).entry

/-- A register that the start leaves alone holds what the streams before have left. -/
theorem stored_final (a : Launch f) {r : UInt16}
    (hr : r ∉ (a.device.mode.startWrites a.device.controls).map Prod.fst) :
    a.final.stored r = (replayed a.history f).stored r := by
  rw [a.final_eq, RegisterFile.stored_load_of_not_mem hr]
  apply a.residual.file a.clean
  intro hoperated
  exact hr (Mode.mem_startWrites_iff.mpr (Or.inr hoperated))

theorem stored_final_of_unwritten (a : Launch f) {r : UInt16}
    (hr : forall e, e ∈ Catalog.entries -> r ∉ e.mode.program.writes.map Prod.fst)
    (hoperated : r ∉ Register.operated) : a.final.stored r = f.stored r := by
  rw [a.stored_final]
  · exact stored_replayed_of_not_mem fun m hm => hr _ (a.mem_entries hm)
  · rw [Mode.mem_startWrites_iff]
    intro hmem
    exact hmem.elim (hr _ a.residual.entry) hoperated

section

variable {a b : Launch f}

theorem startWrites_eq (hentry : a.device.session.entry = b.device.session.entry)
    (hvalues : forall kind, a.device.controls.value kind = b.device.controls.value kind) :
    a.device.mode.startWrites a.device.controls =
      b.device.mode.startWrites b.device.controls := by
  unfold Mode.startWrites mode
  rw [hentry, ControlSet.writes_eq_of_values hvalues]

theorem stored_final_eq (hentry : a.device.session.entry = b.device.session.entry)
    (hvalues : forall kind, a.device.controls.value kind = b.device.controls.value kind)
    {r : UInt16}
    (hr : ¬ (a.device.session.entry = Catalog.deep ∧ r ∈ Catalog.clockDividers)) :
    a.final.stored r = b.final.stored r := by
  have hwrites := startWrites_eq hentry hvalues
  by_cases hmem : r ∈ (a.device.mode.startWrites a.device.controls).map Prod.fst
  · rw [a.final_eq, b.final_eq, ← hwrites]
    exact RegisterFile.stored_load_of_mem _ _ hmem
  · rw [Mode.mem_startWrites_iff, not_or] at hmem
    have hnone : forall e, e ∈ Catalog.entries ->
        r ∉ e.mode.program.writes.map Prod.fst := by
      intro e he hwritten
      rcases Catalog.mem_writes_of_mem a.residual.entry he hwritten with
        hown | hoperated | hdivider
      · exact hmem.1 hown
      · exact hmem.2 hoperated
      · exact hr hdivider
    rw [a.stored_final_of_unwritten hnone hmem.2, b.stored_final_of_unwritten hnone hmem.2]

/--
Only clock dividers can depend on earlier modes; and they do exactly if the mode
is the one of twelve bits, and those streamed before left different dividers.
-/
theorem final_eq_iff (hentry : a.device.session.entry = b.device.session.entry)
    (hvalues : forall kind, a.device.controls.value kind = b.device.controls.value kind) :
    a.final.EqOff Catalog.clockDividers b.final ∧
      (a.final = b.final <->
        (a.device.session.entry = Catalog.deep -> forall r, r ∈ Catalog.clockDividers ->
          (replayed a.history f).stored r = (replayed b.history f).stored r)) := by
  have hdeep : forall (l : Launch f), l.device.session.entry = Catalog.deep ->
      forall r, r ∈ Catalog.clockDividers ->
        l.final.stored r = (replayed l.history f).stored r := by
    intro l hl r hr
    apply l.stored_final
    unfold mode
    rw [hl]
    exact Catalog.clockDividers_of_deep hr _
  refine ⟨fun r hr => stored_final_eq hentry hvalues fun h => hr h.2, ?_, ?_⟩
  · intro heq ha r hr
    rw [← hdeep a ha r hr, heq, hdeep b (hentry ▸ ha) r hr]
  · intro hsame
    ext1
    funext r
    by_cases hr : a.device.session.entry = Catalog.deep ∧ r ∈ Catalog.clockDividers
    · rw [hdeep a hr.1 r hr.2, hdeep b (hentry ▸ hr.1) r hr.2]
      exact hsame hr.1 r hr.2
    · exact stored_final_eq hentry hvalues hr

end

/-!
# With and without a stream before
-/

/-- A sound device that performs some requests before the stream. -/
def after (requests : List Operation)
    (hallowed : forall m,
      m ∈ moments (attach .standard .sound).state (requests.map Step.operation) ->
        m.step.Managed m.before ∧ ¬ m.step.IsLoad)
    (hclean : Clean ((attach .standard .sound).events ++
      log (moments (attach .standard .sound).state (requests.map Step.operation))))
    (hidle : (performAll (attach .standard .sound).state
      (requests.map Step.operation)).session.streaming = false)
    (hstarted : ((setStream true).run (performAll (attach .standard .sound).state
      (requests.map Step.operation))).result = .ok ()) :
    Launch Rig.sound.bus.file :=
  ⟨.standard, .sound, _, _, rfl, rfl, run_moments hallowed, hclean, hidle, hstarted⟩

/-- The mode of ten bits at 60 frames does not show that a faster one was streamed. -/
theorem final_eq_after_fast :
    exists a b : Launch Rig.sound.bus.file,
      a.history.map Moment.step = [Operation.setPower true].map Step.operation ∧
      b.history.map Moment.step =
        [Operation.setPower true, .selectMode Catalog.fast, .setStream true,
          .setStream false, .selectMode Catalog.first].map Step.operation ∧
      a.device.session.entry = Catalog.first ∧ b.device.session.entry = Catalog.first ∧
      a.final = b.final := by
  let a := after [.setPower true]
    (by decide +kernel) (by decide +kernel) (by decide +kernel) rfl
  let b := after [.setPower true, .selectMode Catalog.fast, .setStream true,
      .setStream false, .selectMode Catalog.first]
    (by decide +kernel) (by decide +kernel) (by decide +kernel) rfl
  have ha : a.device.session.entry = Catalog.first := by decide +kernel
  have hb : b.device.session.entry = Catalog.first := by decide +kernel
  have hcontrols : a.device.controls = b.device.controls := by decide +kernel
  have hvalues : forall kind, a.device.controls.value kind = b.device.controls.value kind := by
    intro kind
    rw [hcontrols]
  refine ⟨a, b, map_step_moments _ _, map_step_moments _ _, ha, hb, ?_⟩
  apply (final_eq_iff (ha.trans hb.symm) hvalues).2.mpr
  intro hdeep
  exact nomatch ha.symm.trans hdeep

/-- The mode of twelve bits runs on the dividers of the mode that was streamed before. -/
theorem dividers_kept_from_first :
    exists a b : Launch Rig.sound.bus.file,
      a.history.map Moment.step =
        [Operation.setPower true, .selectMode Catalog.deep].map Step.operation ∧
      b.history.map Moment.step =
        [Operation.setPower true, .setStream true, .setStream false,
          .selectMode Catalog.deep].map Step.operation ∧
      a.device.session.entry = Catalog.deep ∧ b.device.session.entry = Catalog.deep ∧
      (forall kind, a.device.controls.value kind = b.device.controls.value kind) ∧
      a.final.stored 0x004c = none ∧ b.final.stored 0x004c = some 0x03 ∧
      a.final ≠ b.final := by
  let a := after [.setPower true, .selectMode Catalog.deep]
    (by decide +kernel) (by decide +kernel) (by decide +kernel) rfl
  let b := after [.setPower true, .setStream true, .setStream false,
      .selectMode Catalog.deep]
    (by decide +kernel) (by decide +kernel) (by decide +kernel) rfl
  have ha : a.device.session.entry = Catalog.deep := by decide +kernel
  have hb : b.device.session.entry = Catalog.deep := by decide +kernel
  have hcontrols : a.device.controls = b.device.controls := by decide +kernel
  have hvalues : forall kind, a.device.controls.value kind = b.device.controls.value kind := by
    intro kind
    rw [hcontrols]
  have hfresh : a.final.stored 0x004c = none := by decide +kernel
  have hkept : b.final.stored 0x004c = some 0x03 := by decide +kernel
  refine ⟨a, b, map_step_moments _ _, map_step_moments _ _, ha, hb, hvalues, hfresh, hkept,
    ?_⟩
  intro heq
  rw [heq, hkept] at hfresh
  cases hfresh

end Launch
end ImageSensor
