import ImageSensor.Proofs.Agreement
import ImageSensor.Proofs.Imprint

/-!
# What earlier modes leave behind

The registers of controls are written at every start, so a stream may depend on
the past only through registers that its own program leaves alone.  Between two
programs of the catalog that makes a difference for the dividers of the clock
tree: the mode of twelve bits does not set them, and runs on those of the mode
that was streamed before.
-/

namespace ImageSensor

/-- The registers that the controls and the switch of the stream write. -/
def Register.operated : List UInt16 :=
  Control.Kind.settable.flatMap Control.Kind.registers ++ [Register.streamControl]

theorem Control.Kind.registers_subset_operated {k : Kind} (hk : k ∈ settable) :
    k.registers ⊆ Register.operated := by
  intro r hr
  exact List.mem_append_left _ (List.mem_flatMap.mpr ⟨k, hk, hr⟩)

theorem RegisterFile.eqOff_put (f : RegisterFile) (control : Control) :
    (f.put control).EqOff Register.operated f := by
  have hwrites : forall {k : Control.Kind} {writes : List (UInt16 × UInt8)},
      k ∈ Control.Kind.settable -> writes.map Prod.fst = k.registers ->
      (f.load writes).EqOff Register.operated f := by
    intro k writes hk heq
    exact (f.eqOff_load writes).mono (heq ▸ Control.Kind.registers_subset_operated hk)
  have hturn : forall o,
      (f.load (Register.orientationWrites o)).EqOff Register.operated f := by
    intro o
    apply (f.eqOff_load _).mono
    rw [Register.orientationWrites_registers, List.append_subset]
    exact ⟨Control.Kind.registers_subset_operated (by decide),
      Control.Kind.registers_subset_operated (by decide)⟩
  cases control with
  | exposure lines => exact hwrites (by decide) (Register.exposureWrites_registers lines)
  | analogGain gain => exact hwrites (by decide) (Register.gainWrites_registers _)
  | horizontalFlip on => exact hturn _
  | verticalFlip on => exact hturn _
  | _ => exact EqOff.refl _ f

/-- Every start writes all operated registers. -/
theorem ControlSet.perm_operated (c : ControlSet) :
    ((c.writes ++ [(Register.streamControl, Register.streaming)]).map Prod.fst).Perm
      Register.operated := by
  have hregisters : (c.writes ++ [(Register.streamControl, Register.streaming)]).map Prod.fst =
      Control.Kind.exposure.registers ++ Control.Kind.analogGain.registers ++
        (Control.Kind.verticalFlip.registers ++ Control.Kind.horizontalFlip.registers) ++
        [Register.streamControl] := rfl
  rw [hregisters]
  decide

theorem Mode.mem_startWrites_iff {m : Mode} {c : ControlSet} {r : UInt16} :
    r ∈ (m.startWrites c).map Prod.fst <->
      r ∈ m.program.writes.map Prod.fst ∨ r ∈ Register.operated := by
  rw [← c.perm_operated.mem_iff, startWrites, List.append_assoc, List.map_append,
    List.mem_append]

/-- Apart from the operated registers, a start adds its program to a file. -/
theorem RegisterFile.EqOff.load_startWrites {f g : RegisterFile}
    (h : f.EqOff Register.operated g) (m : Mode) (c : ControlSet) :
    (f.load (m.startWrites c)).EqOff Register.operated (g.load m.program.writes) := by
  rw [Mode.startWrites, List.append_assoc, load_append]
  apply (((f.load m.program.writes).eqOff_load _).mono c.perm_operated.subset).trans
  exact h.load m.program.writes

namespace Device

variable {e : Entry} {stream : Bool} {f : RegisterFile}

/-!
# Registers that only a start changes
-/

/-- The file while the log is clean, apart from the operated registers. -/
structure Residual (stream : Bool) (f : RegisterFile) (log : List Event) (d : Device) :
    Prop where
  entry : d.session.entry ∈ Catalog.entries
  boot : d.session.fastBoot = false
  streaming : d.session.streaming = stream
  file : Clean log -> d.rig.bus.file.EqOff Register.operated f

theorem indifferent_residual : Indifferent (Residual stream f) where
  boot := Residual.boot
  elsewhere := by
    intro log d d' es hd h
    refine ⟨h.entry ▸ hd.entry, h.boot hd.boot, h.streaming.trans hd.streaming, ?_⟩
    intro hclean
    have hsame : d'.rig.bus.file.EqOff Register.operated d.rig.bus.file := by
      intro r hr
      apply h.registers
      intro hcontrol
      subst hcontrol
      exact hr (List.mem_append_right _ List.mem_cons_self)
    exact hsame.trans (hd.file hclean.left)

theorem Residual.fileIs {log : List Event} {d : Device} (hd : Residual stream f log d) :
    FileIs d.rig.bus.file log d :=
  ⟨Catalog.isLinear hd.entry, fun _ => RegisterFile.EqOff.refl _ _⟩

theorem Residual.tuned {log es : List Event} {d d' : Device} (hd : Residual stream f log d)
    (ht : Tuned d es d')
    (hfile : Clean (log ++ es) -> d'.rig.bus.file.EqOff Register.operated f) :
    Residual stream f (log ++ es) d' := by
  rcases ht.same with ⟨bus, programmed, frameLength, orientation, rfl⟩
  exact ⟨hd.entry, hd.boot, hd.streaming, hfile⟩

theorem streamControl_operated : [Register.streamControl] ⊆ Register.operated :=
  fun _ hr => List.mem_append_right _ hr

theorem keeps_push_residual (control : Control) :
    Action.Keeps (Residual stream f) (push control) := by
  intro log d hd
  have htuned := (tuned_push control d).1
  have hpush := contract_push_file control log d hd.fileIs
  cases hres : ((push control).run d).result with
  | ok _ =>
      rw [hres] at hpush
      apply hd.tuned htuned
      intro hclean
      have hput := (hpush.2 hclean).mono streamControl_operated
      exact (hput.trans (d.rig.bus.file.eqOff_put control)).trans (hd.file hclean.left)
  | error failure =>
      rw [hres] at hpush
      exact hd.tuned htuned fun hclean => (hpush hclean).elim

theorem keeps_changeControls_residual (controls : ControlSet) :
    Action.Keeps (Residual stream f) (changeControls controls) :=
  Action.Contract.update fun _ _ hd => ⟨hd.entry, hd.boot, hd.streaming, hd.file⟩

theorem tunable_residual : Tunable (Residual stream f) (Residual stream f) :=
  tunable_of_keeps keeps_changeControls_residual
    (indifferent_residual.keeps_onRig (file_moveUsage _ _)) keeps_push_residual
    indifferent_residual.contract_release.anyFailure

theorem keeps_selectMode_residual {entry : Entry} (hentry : entry ∈ Catalog.entries) :
    Action.Keeps (Residual stream f) (selectMode entry) :=
  keeps_selectMode keeps_changeControls_residual
    (Action.Contract.update fun _ _ hd => ⟨hentry, hd.boot, hd.streaming, hd.file⟩)

theorem negotiable_residual : Negotiable (Residual stream f) where
  scratch := indifferent_residual.keeps_changeScratch
  selectMode := fun hentry => (keeps_selectMode_residual hentry).pre fun _ _ hd => hd.1

/-!
# The start of a stream
-/

theorem Residual.filed {log : List Event} {d : Device} (hd : Residual stream f log d) :
    Filed d.session.entry d.controls stream d.rig.bus.file log d :=
  ⟨⟨rfl, rfl, hd.boot, hd.streaming, fun _ _ hs => hs.elim⟩,
    fun _ => RegisterFile.EqOff.refl _ _⟩

/-- After a request the stream may be a new one, and then its program was replayed. -/
def Onward (stream : Bool) (e : Entry) (f : RegisterFile) (log : List Event) (d : Device) :
    Prop :=
  Residual d.session.streaming
    (if !stream && d.session.streaming then f.load e.mode.program.writes else f) log d

theorem Residual.onward {log : List Event} {d : Device} (hd : Residual stream f log d) :
    Onward stream e f log d := by
  unfold Onward
  rw [hd.streaming]
  cases stream <;> exact hd

theorem contract_keeping_residual {α : Type} {x : Action Device α}
    (hx : Action.Keeps (Residual stream f) x) :
    Action.Contract x (fun log d => Residual stream f log d ∧ d.session.entry = e)
      (fun _ => Onward stream e f) (fun _ => Onward stream e f) := by
  apply hx.consequence
  · intro _ _ hd
    exact hd.1
  · intro _ _ _ hd
    exact hd.onward
  · intro _ _ _ hd
    exact hd.onward

theorem contract_applyControl_residual (control : Control) :
    Action.Contract (applyControl control)
      (fun log d => Residual stream f log d ∧ d.session.entry = e)
      (fun _ => Onward stream e f) (fun _ => Onward stream e f) :=
  contract_keeping_residual (tunable_residual.keeps_applyControl control)

theorem contract_beginStream_residual :
    Action.Contract beginStream
      (fun log d => Residual false f log d ∧ d.session.entry = e)
      (fun _ => Residual true (f.load e.mode.program.writes))
      (fun _ => Residual false f) := by
  intro log d hd
  rcases hd with ⟨hd, rfl⟩
  have hbegin := contract_beginStream_filed (Catalog.isLinear hd.entry) log d hd.filed
  cases hres : (beginStream.run d).result with
  | ok _ =>
      rw [hres] at hbegin
      rcases hbegin with ⟨hheld, hfile⟩
      refine ⟨hheld.entry ▸ hd.entry, hheld.boot, hheld.streaming, ?_⟩
      intro hclean
      rw [hfile hclean]
      exact (hd.file hclean.left).load_startWrites _ _
  | error failure =>
      rw [hres] at hbegin
      refine ⟨hbegin.entry ▸ hd.entry, hbegin.boot, hbegin.streaming, ?_⟩
      intro hclean
      exact ((hbegin.file hclean).mono streamControl_operated).trans (hd.file hclean.left)

theorem contract_setStream_residual (on : Bool) :
    Action.Contract (setStream on)
      (fun log d => Residual stream f log d ∧ d.session.entry = e)
      (fun _ => Onward stream e f) (fun _ => Onward stream e f) := by
  apply contract_setStream_of_streaming (fun _ _ hd => hd.1.streaming)
  · intro _ _ _ hd
    exact hd.1.onward
  · rintro rfl _
    apply contract_beginStream_residual.consequence
    · intro _ _ hd
      exact hd
    · intro _ log d hd
      unfold Onward
      rw [hd.streaming]
      exact hd
    · intro _ _ _ hd
      exact hd.onward
  · rintro rfl _
    have hend : Action.Contract endStream (Residual true f)
        (fun _ => Onward true e f) (fun _ => Onward true e f) :=
      indifferent_residual.contract_endStream fun _ _ hd =>
        ⟨hd.entry, hd.boot, rfl, hd.file⟩
    exact hend.pre fun _ _ hd => hd.1

end Device

/-!
# Steps
-/

open Device

theorem Operation.contract_perform_residual {e : Entry} {stream : Bool} {f : RegisterFile}
    (request : Operation) :
    Action.Contract request.perform
      (fun log d => (Residual stream f log d ∧ d.session.entry = e) ∧ request.Managed d)
      (fun _ => Onward stream e f) (fun _ => Onward stream e f) := by
  apply contract_managed (fun _ _ hd => hd.1) (fun _ _ hd => hd.onward) negotiable_residual
    indifferent_residual.keeps_switchStream fun control _ => contract_applyControl_residual control
  · intro on _
    exact contract_keeping_residual (indifferent_residual.keeps_setPower on)
  · intro on _
    exact contract_setStream_residual on

namespace Scenario

theorem Step.contract_perform_residual {e : Entry} {stream : Bool} {f : RegisterFile}
    (step : Step) (hload : ¬ step.IsLoad) :
    Action.Contract step.perform
      (fun log d => (Residual stream f log d ∧ d.session.entry = e) ∧ step.Managed d)
      (fun _ => Onward stream e f) (fun _ => Onward stream e f) := by
  apply contract_managed (fun _ _ hd => hd.1) (fun _ _ hd => hd.onward)
    (fun request _ => request.contract_perform_residual)
    fun control _ => contract_applyControl_residual control
  intro change hstep _
  exact indifferent_residual.keeps_happen (Step.not_load hload hstep)

/-!
# Runs
-/

/-- There is a stream after the step, and there was none before. -/
def Moment.startsStream (m : Moment) : Bool :=
  !m.before.session.streaming && m.after.session.streaming

/-- A file with the programs of all streams that were started. -/
def replayed (history : List Moment) (f : RegisterFile) : RegisterFile :=
  history.foldl
    (fun f m => if m.startsStream then f.load m.before.mode.program.writes else f) f

theorem replayed_snoc (history : List Moment) (m : Moment) (f : RegisterFile) :
    replayed (history ++ [m]) f =
      if m.startsStream then (replayed history f).load m.before.mode.program.writes
      else replayed history f := by
  simp [replayed]

theorem Moment.residual {stream : Bool} {f : RegisterFile} {past : List Event} {m : Moment}
    (hd : Residual stream f past m.before) (hmanaged : m.step.Managed m.before)
    (hload : ¬ m.step.IsLoad) :
    Residual m.after.session.streaming
      (if m.startsStream then f.load m.before.mode.program.writes else f)
      (past ++ m.events) m.after := by
  have hend := (m.step.contract_perform_residual hload).always ⟨⟨hd, rfl⟩, hmanaged⟩
  unfold Onward at hend
  rw [← hd.streaming] at hend
  exact hend

theorem Run.residual {Allowed : Device -> Step -> Prop} {f : RegisterFile}
    {past : List Event} {d e : Device} {history : List Moment}
    (hrun : Run Allowed d history e) (hd : Residual d.session.streaming f past d)
    (hallowed : forall d step, Allowed d step -> step.Managed d ∧ ¬ step.IsLoad) :
    Residual e.session.streaming (replayed history f) (past ++ log history) e := by
  induction hrun with
  | start =>
      rw [log_nil, List.append_nil]
      exact hd
  | @next history e _ step hstep ih =>
      rcases hallowed _ _ hstep with ⟨hmanaged, hload⟩
      rw [log_snoc, replayed_snoc, ← List.append_assoc]
      exact Moment.residual (m := ⟨e, step⟩) ih hmanaged hload

theorem residual_attach {c : Config} (rig : Rig) (hboot : c.fastBoot = false) :
    Residual false rig.bus.file (attach c rig).events (attach c rig).state := by
  have hstart : Residual false rig.bus.file [] (initial c rig) :=
    ⟨List.mem_cons_self, hboot, rfl, fun _ => RegisterFile.EqOff.refl _ _⟩
  exact indifferent_residual.keeps_bringUp.always hstart

end Scenario
end ImageSensor
