import ImageSensor.Proofs.Agreement
import ImageSensor.Proofs.Axes
import ImageSensor.Proofs.InStep

/-!
# Stray axes

A turn that is refused takes back its control, but not what it has written.  If
its own register was written, the axis has gone astray: the sensor holds what
was refused.  A later turn of the other axis reads it back and reports it, and
only then does it come into effect.  Nothing else leads an axis astray, and a
turn along it that is granted, or a new start of the stream, leads it back.
-/

namespace ImageSensor

namespace Axis

/-- The control of the axis. -/
def kind : Axis -> Control.Kind
  | .horizontal => .horizontalFlip
  | .vertical => .verticalFlip

theorem register_ne_streamControl (axis : Axis) : axis.register ≠ Register.streamControl := by
  cases axis <;> decide

end Axis

namespace Control

/-- What the control turns, if it is about an axis. -/
def turn? : Control -> Option Turn
  | .horizontalFlip on => some ⟨.horizontal, on⟩
  | .verticalFlip on => some ⟨.vertical, on⟩
  | _ => none

theorem eq_request_of_turn? {control : Control} {t : Turn} (h : control.turn? = some t) :
    control = t.request := by
  cases control with
  | horizontalFlip on =>
      cases h
      rfl
  | verticalFlip on =>
      cases h
      rfl
  | _ => cases h

end Control

namespace ControlSet

variable {c c' : ControlSet} {m : Mode} {moved : Bool}

theorem value_kind (c : ControlSet) (axis : Axis) :
    c.value axis.kind = (c.orientation.along axis).toUInt32 := by
  cases axis <;> rfl

theorem orientation_store {request : Control} (h : request.turn? = none)
    (hstore : c.store request m = .ok (c', moved)) : c'.orientation = c.orientation := by
  cases request with
  | horizontalFlip on => cases h
  | verticalFlip on => cases h
  | verticalBlank lines =>
      rcases limitExposure_cases hstore with ⟨exposure, rfl, -⟩
      rfl
  | _ =>
      cases hstore
      rfl

/-- It does not matter whether the request is granted or taken back. -/
theorem orientation_orElse {request : Control} (h : request.turn? = none)
    (hstore : c.store request m = .ok (c', moved)) (result : Except Failure Unit) :
    (c.orElse c' result).orientation = c.orientation := by
  cases result with
  | ok _ => exact orientation_store h hstore
  | error e => rfl

theorem orientation_applyMode (hm : m.WellFormed) (happly : c.applyMode m = .ok (c', moved)) :
    c'.orientation = c.orientation := by
  rcases applyMode_eq_limitExposure hm c with ⟨line, frame, hlimit, -⟩
  rw [hlimit] at happly
  rcases limitExposure_cases happly with ⟨exposure, rfl, -⟩
  rfl

end ControlSet

namespace Bus

/-- A register has the value it had. -/
def Avoids (register : UInt16) (b : Bus) (_ : List Event) (b' : Bus) : Prop :=
  b'.file.get register = b.file.get register

theorem composes_avoids (register : UInt16) : Action.Composes (Avoids register) where
  refl := fun _ => rfl
  trans := fun h h' => h'.trans h

theorem avoids_writeEach {register : UInt16} {writes : List (UInt16 × UInt8)}
    (h : register ∉ writes.map Prod.fst) :
    Action.Obeys (Avoids register) (writeEach writes) := by
  induction writes with
  | nil => exact (composes_avoids register).pure ()
  | cons head rest ih =>
      rw [List.map_cons, List.mem_cons, not_or] at h
      apply (composes_avoids register).both _ (ih h.2)
      intro b
      rcases spares_writeByte head.1 head.2 b with ⟨hspares, hover⟩
      exact ⟨congrArg (Option.getD · 0) (hspares register h.1), hover⟩

end Bus

namespace Device

variable {d : Device} {astray : Axis -> Bool}

/-!
# Requests that turn nothing
-/

/-- The axes have the registers they had. -/
def KeepsAxes (d : Device) (_ : List Event) (d' : Device) : Prop :=
  forall axis : Axis, d'.rig.bus.file.get axis.register = d.rig.bus.file.get axis.register

theorem composes_keepsAxes : Action.Composes KeepsAxes where
  refl := fun _ _ => rfl
  trans := fun h h' axis => (h' axis).trans (h axis)

theorem keepsAxes_writeLinear {writes : List (UInt16 × UInt8)}
    (h : forall axis : Axis, axis.register ∉ writes.map Prod.fst) :
    Action.Obeys KeepsAxes (Action.inspect Device.mode >>= fun mode =>
      Action.when mode.isLinear (onBus (Bus.writeEach writes))) := by
  apply composes_keepsAxes.bind (composes_keepsAxes.inspect _)
  intro mode
  apply composes_keepsAxes.when
  intro d
  refine ⟨fun axis => (Bus.avoids_writeEach (h axis) d.rig.bus).1, ?_⟩
  exact (Bus.active_writeEach writes d.rig.bus).2

theorem keepsAxes_push {control : Control} (h : control.turn? = none) :
    Action.Obeys KeepsAxes (push control) := by
  cases control with
  | horizontalFlip on => cases h
  | verticalFlip on => cases h
  | exposure lines =>
      apply keepsAxes_writeLinear
      intro axis
      rw [Register.exposureWrites_registers]
      cases axis <;> decide
  | analogGain gain =>
      apply keepsAxes_writeLinear
      intro axis
      rw [Register.gainWrites_registers]
      cases axis <;> decide
  | verticalBlank lines => exact fun d => ⟨fun _ => rfl, fun _ hover => nomatch hover⟩
  | horizontalBlank pixels => exact composes_keepsAxes.pure ()
  | testPattern pattern => exact composes_keepsAxes.pure ()

theorem keepsAxes_pushStored {request : Control} (h : request.turn? = none)
    (stored : ControlSet × Bool) : Action.Obeys KeepsAxes (pushStored request stored) := by
  rcases stored with ⟨controls, moved⟩
  cases moved with
  | false => exact keepsAxes_push h
  | true => exact composes_keepsAxes.both (keepsAxes_push h) (keepsAxes_push rfl)

/-!
# Where the registers stand
-/

/--
Along each axis the register has the value of the control, or the opposite where
the axis is astray.
-/
structure Strayed (astray : Axis -> Bool) (_ : List Event) (d : Device) : Prop where
  boot : d.session.fastBoot = false
  axes : forall axis, d.rig.bus.file.get axis.register =
    (d.controls.orientation.along axis ^^ astray axis).toUInt8

/-- What a step needs to be performed under a stream. -/
structure Live (d : Device) : Prop where
  fitted : d.Fitted
  inUse : d.InUse
  streaming : d.session.streaming = true

theorem Strayed.along {log : List Event} (hd : Strayed astray log d) (axis : Axis) :
    d.rig.bus.file.orientation.along axis =
      (d.controls.orientation.along axis ^^ astray axis) := by
  rw [RegisterFile.along_orientation, hd.axes, bit_toUInt8]

theorem indifferent_strayed : Indifferent (Strayed astray) where
  boot := fun hd => hd.boot
  elsewhere := by
    intro log d d' es hd h
    refine ⟨h.boot hd.boot, ?_⟩
    intro axis
    rw [h.get axis.register_ne_streamControl, h.controls, hd.axes]

theorem negotiable_strayed : Negotiable (Strayed astray) where
  scratch := indifferent_strayed.keeps_changeScratch
  selectMode := by
    intro entry hentry log d hd
    cases happly : d.controls.applyMode entry.mode with
    | error kind =>
        simp only [selectMode, Action.run_bind, Action.run_inspect, happly,
          Action.run_compute_error, Outcome.after_mk]
        exact ⟨hd.1.boot, hd.1.axes⟩
    | ok applied =>
        have hkept := ControlSet.orientation_applyMode (Catalog.wellFormed hentry) happly
        simp only [selectMode, Action.run_bind, Action.run_inspect, happly,
          Action.run_compute_ok, run_changeControls, run_changeSession, Outcome.after_mk]
        refine ⟨hd.1.boot, ?_⟩
        intro axis
        show _ = (applied.1.orientation.along axis ^^ _).toUInt8
        rw [hkept, ← hd.1.axes]

theorem contract_applyControl_strayed {request : Control} (h : request.turn? = none) :
    Action.Contract (applyControl request) (fun log d => Strayed astray log d ∧ d.Live)
      (fun _ => Strayed astray) (fun _ => Strayed astray) := by
  apply Action.Contract.of_always
  intro log d hd
  rcases hd with ⟨hd, hlive⟩
  cases haccepts : d.controls.accepts request with
  | false =>
      rw [run_applyControl_of_refused haccepts]
      exact ⟨hd.boot, hd.axes⟩
  | true =>
      rcases hlive.fitted.controls.store hlive.fitted.wellFormed haccepts with
        ⟨controls, moved, hstore, -⟩
      rcases run_applyControl_of_used haccepts hstore hlive.inUse.1 hlive.inUse.2 with
        ⟨usage, hrun⟩
      have hfile := (keepsAxes_pushStored h (controls, moved)
        (d.withStored (controls, moved) usage)).1
      have htuned := (tuned_pushStored request (controls, moved)
        (d.withStored (controls, moved) usage)).1
      rw [hrun]
      constructor
      · rcases htuned.same with ⟨bus, programmed, frameLength, orientation, hsame⟩
        show (((pushStored request (controls, moved)).run _).state).session.fastBoot = false
        rw [hsame]
        exact hd.boot
      · intro axis
        show _ = ((d.controls.orElse controls _).orientation.along axis ^^ astray axis).toUInt8
        rw [ControlSet.orientation_orElse h hstore, ← hd.axes]
        exact hfile axis

theorem contract_setStream_strayed (on : Bool) :
    Action.Contract (setStream on) (fun log d => Strayed astray log d ∧ d.Live)
      (fun _ => Strayed astray) (fun _ => Strayed astray) := by
  cases on with
  | true =>
      apply Action.Contract.of_always
      intro log d hd
      rw [run_setStream_same hd.2.streaming]
      exact ⟨hd.1.boot, hd.1.axes⟩
  | false =>
      apply contract_setStream_off fun _ _ hd => hd.2.streaming
      apply (indifferent_strayed.contract_endStream _).pre fun _ _ hd => hd.1
      intro log d hd
      exact ⟨hd.boot, hd.axes⟩

end Device

theorem Operation.contract_perform_strayed {astray : Axis -> Bool} {request : Operation}
    (h : forall control, request = .applyControl control -> control.turn? = none) :
    Action.Contract request.perform
      (fun log d => (Device.Strayed astray log d ∧ d.Live) ∧ request.Managed d)
      (fun _ => Device.Strayed astray) (fun _ => Device.Strayed astray) := by
  apply contract_managed (fun _ _ hd => hd.1) (fun _ _ hd => hd) Device.negotiable_strayed
    Device.indifferent_strayed.keeps_switchStream
    fun control hcontrol => Device.contract_applyControl_strayed (h control hcontrol)
  · intro on _
    exact (Device.indifferent_strayed.keeps_setPower on).pre fun _ _ hd => hd.1
  · intro on _
    exact Device.contract_setStream_strayed on

namespace Scenario

/-!
# Going astray
-/

/-- What a step turns, if it asks for that. -/
def Step.turn? (step : Step) : Option Turn :=
  step.request?.bind Control.turn?

namespace Moment

/-- The log says that the register of an axis was written. -/
def wrote (m : Moment) (axis : Axis) : Bool :=
  decide (axis.register ∈ (written m.events).map Prod.fst)

/-- Whether an axis is astray after a step, if this is known before it. -/
def strays (m : Moment) (axis : Axis) (astray : Bool) : Bool :=
  match m.step.turn? with
  | none => astray
  | some t =>
      if t.axis = axis then
        match m.outcome.result with
        | .ok _ => false
        | .error _ =>
            if m.wrote axis then t.on != m.before.controls.orientation.along axis else astray
      else
        astray

end Moment

/-- Whether an axis is astray after a history; at the start of a stream it is not. -/
def astray (axis : Axis) (history : List Moment) : Bool :=
  history.foldl
    (fun astray m => m.before.session.streaming && m.strays axis astray) false

theorem astray_snoc (axis : Axis) (history : List Moment) (m : Moment) :
    astray axis (history ++ [m]) =
      (m.before.session.streaming && m.strays axis (astray axis history)) := by
  simp [astray, List.foldl_append]

/-- A step that turns nothing leaves the axes where they are. -/
theorem Step.contract_perform_strayed {astray : Axis -> Bool} {step : Step}
    (hturn : step.turn? = none) (hload : ¬ step.IsLoad) :
    Action.Contract step.perform
      (fun log d => (Device.Strayed astray log d ∧ d.Live) ∧ step.Managed d)
      (fun _ => Device.Strayed astray) (fun _ => Device.Strayed astray) := by
  have hrequest : forall control, step.request? = some control -> control.turn? = none := by
    intro control hcontrol
    rw [turn?, hcontrol] at hturn
    exact hturn
  apply contract_managed (fun _ _ hd => hd.1) fun _ _ hd => hd
  · rintro request rfl
    apply Operation.contract_perform_strayed
    rintro control rfl
    exact hrequest control rfl
  · intro control hcontrol
    exact Device.contract_applyControl_strayed (hrequest control hcontrol)
  · intro change hstep _
    exact Device.indifferent_strayed.keeps_happen (Step.not_load hload hstep)

theorem Step.perform_of_turn {step : Step} {t : Turn} (h : step.turn? = some t) :
    step.perform =
      Reply.answer <$> (fun _ => Operation.Answer.done) <$> Device.applyControl t.request := by
  rcases Option.bind_eq_some_iff.mp h with ⟨control, hrequest, hturn⟩
  rw [perform_of_request hrequest, Control.eq_request_of_turn? hturn]

namespace Moment

variable {m : Moment} {t : Turn} {s : Axis -> Bool}

section

variable {d : Device} {held : Orientation} {passed : Axis -> Bool}

theorem wrote_of_turn (hturn : m.step.turn? = some t)
    (hsteered : Device.Steered d held passed ((Device.applyControl t.request).run m.before))
    (axis : Axis) : m.wrote axis = passed axis := by
  rw [wrote, events, outcome, Step.perform_of_turn hturn, Action.events_map, Action.events_map,
    hsteered.written, Bool.eq_iff_iff, decide_eq_true_iff, Axis.register_mem_writes]

/-- A turn matters to its own axis: granted, or refused with or without its write. -/
theorem strays_of_turn (hturn : m.step.turn? = some t)
    (hsteered : Device.Steered d held passed ((Device.applyControl t.request).run m.before))
    (axis : Axis) (astray : Bool) :
    m.strays axis astray =
      if axis = t.axis then
        if Axis.all passed then false
        else if passed axis then t.on != m.before.controls.orientation.along axis
        else astray
      else
        astray := by
  have hresult : m.outcome.result =
      (((Device.applyControl t.request).run m.before).result.map
        fun _ => Operation.Answer.done).map Reply.answer := by
    rw [outcome, Step.perform_of_turn hturn, Action.result_map, Action.result_map]
  rw [strays, hturn, hresult, wrote_of_turn hturn hsteered]
  by_cases hown : axis = t.axis
  · subst hown
    cases hres : ((Device.applyControl t.request).run m.before).result with
    | ok _ =>
        have hall := hsteered.result.mp hres
        simp [hall, Except.map]
    | error e =>
        have hall : Axis.all passed ≠ true := by
          intro hall
          cases hres.symm.trans (hsteered.result.mpr hall)
        simp [hall, Except.map]
  · simp [hown, Ne.symm hown]

end

/-- A turn leads its own axis astray, or back. -/
theorem strayed_of_turn (hturn : m.step.turn? = some t) (hd : Device.Strayed s [] m.before)
    (hlive : m.before.Live) :
    Device.Strayed (fun axis => m.strays axis (s axis)) [] m.after := by
  rcases Device.exists_steered_applyControl t hlive.inUse.1 hlive.inUse.2 with
    ⟨passed, hsteered⟩
  have hafter : m.after = ((Device.applyControl t.request).run m.before).state := by
    rw [after, outcome, Step.perform_of_turn hturn, Action.state_map, Action.state_map]
  rw [hafter]
  refine ⟨hsteered.boot.trans hd.boot, ?_⟩
  intro axis
  rw [hsteered.get, hsteered.controls, Orientation.along_turned, hd.along, hd.axes,
    strays_of_turn hturn hsteered]
  by_cases hown : axis = t.axis
  · subst hown
    cases hall : Axis.all passed with
    | true =>
        have hpassed := Axis.all_eq_true.mp hall t.axis
        simp [hpassed, ControlSet.turned, Orientation.along_turned]
    | false =>
        -- what was refused is held if and only if its register was written
        have hxor : forall on control : Bool, (control ^^ (on != control)) = on := by decide
        cases passed t.axis with
        | false => simp
        | true => simp only [if_true, Bool.false_eq_true, if_false, hxor]
  · cases Axis.all passed <;> simp [hown, ControlSet.turned, Orientation.along_turned]

theorem strayed (hd : Device.Strayed s [] m.before) (hlive : m.before.Live)
    (hmanaged : m.step.Managed m.before) (hload : ¬ m.step.IsLoad) :
    Device.Strayed (fun axis => m.strays axis (s axis)) [] m.after := by
  cases hturn : m.step.turn? with
  | some t => exact strayed_of_turn hturn hd hlive
  | none =>
      have hend := (Step.contract_perform_strayed hturn hload).always ⟨⟨hd, hlive⟩, hmanaged⟩
      refine ⟨hend.boot, ?_⟩
      intro axis
      have hsame : m.strays axis (s axis) = s axis := by rw [strays, hturn]
      rw [hsame]
      exact hend.axes axis

end Moment

end Scenario

theorem Device.Agreed.strayed {log : List Event} {d : Device} (hd : Agreed true log d)
    (hclean : Clean log) : Strayed (fun _ => false) [] d := by
  refine ⟨indifferent_agreed.boot hd, ?_⟩
  intro axis
  rw [Bool.xor_false]
  cases axis with
  | horizontal =>
      have hmirror : d.Shows (.horizontalFlip d.controls.orientation.mirror) :=
        hd.shows hclean (by simp [ControlSet.snapshot])
      exact hmirror.1
  | vertical =>
      have hflip : d.Shows (.verticalFlip d.controls.orientation.flip) :=
        hd.shows hclean (by simp [ControlSet.snapshot])
      exact hflip.1

namespace Scenario

section

variable {c : Config} {rig : Rig} {history : List Moment} {d : Device}

theorem Run.live (hboot : c.fastBoot = false) (husage : rig.usage = .zero)
    (hok : (Device.attach c rig).result = .ok ())
    (hrun : Run (fun d step => step.Managed d ∧ ¬ step.IsLoad)
      (Device.attach c rig).state history d)
    (hstreaming : d.session.streaming = true) : d.Live := by
  have hstart := Device.settled_attach false hboot husage hok
  rcases hrun.settled_of_no_boot hstart rfl rfl
    (fun _ _ hstep => ⟨hstep.1, fun hguards => nomatch hguards⟩) with ⟨h, -, hsettled⟩
  refine ⟨?_, ?_, hstreaming⟩
  · exact Device.fitted_of_inStep (hrun.inStep fun hstep => hstep.1.catalogued)
  · exact hsettled.inUse (hsettled.streaming.symm.trans hstreaming)

/-- Under a stream the history tells along which axes the registers differ. -/
theorem Run.strayed (hboot : c.fastBoot = false) (husage : rig.usage = .zero)
    (hok : (Device.attach c rig).result = .ok ())
    (hrun : Run (fun d step => step.Managed d ∧ ¬ step.IsLoad)
      (Device.attach c rig).state history d)
    (hstreaming : d.session.streaming = true) :
    Device.Strayed (fun axis => astray axis history) [] d := by
  have hstart := Device.settled_attach false hboot husage hok
  have hagreed := Device.agreed_attach rig hboot
  induction hrun with
  | start => exact nomatch hagreed.streaming.symm.trans hstreaming
  | @next history e hrun step hstep ih =>
      simp only [astray_snoc]
      cases hbefore : e.session.streaming with
      | true =>
          exact Moment.strayed (m := ⟨e, step⟩) (ih hbefore)
            (hrun.live hboot husage hok hbefore) hstep.1 hstep.2
      | false =>
          -- the start of the stream showed all controls, or it would not have succeeded
          rcases (hrun.next step hstep).agreed hstart rfl rfl rfl (fun _ _ hstep => hstep)
            hagreed with ⟨stream, hend⟩
          rw [sinceStart_snoc, hbefore] at hend
          have hstream : stream = true := hend.streaming.symm.trans hstreaming
          subst hstream
          exact hend.strayed clean_nil

end

end Scenario

/-!
# Turns under a stream
-/

open Scenario

theorem Device.turned_of_strayed {astray : Axis -> Bool} {log : List Event} {d : Device}
    (hd : Strayed astray log d) (hlive : d.Live) {t : Turn}
    (hdone : ((applyControl t.request).run d).result = .ok ()) (axis : Axis) :
    let e := ((applyControl t.request).run d).state
    (e.session.orientation.along axis =
      if axis = t.axis then t.on else (d.controls.orientation.along axis ^^ astray axis)) ∧
    e.controls.orientation.along axis =
      if axis = t.axis then t.on else d.controls.orientation.along axis := by
  rcases exists_steered_applyControl t hlive.inUse.1 hlive.inUse.2 with ⟨passed, hsteered⟩
  have hall := hsteered.result.mp hdone
  rcases hsteered.state with ⟨n, hstate⟩
  rw [hstate, hall, ← hd.along, ← Orientation.along_turned, ← Orientation.along_turned]
  exact ⟨rfl, rfl⟩

/--
A turn that succeeds under a stream is reported along its own axis, and its control
agrees.  Along both axes they agree exactly if the other axis is not astray: no
turn along it was refused after it had written its register, or a turn along it
was granted since.
-/
theorem agrees_of_turn {c : Config} {rig : Rig} (hboot : c.fastBoot = false)
    (husage : rig.usage = .zero) (hok : (Device.attach c rig).result = .ok ())
    {history : List Moment} {d : Device}
    (hrun : Run (fun d step => step.Managed d ∧ ¬ step.IsLoad)
      (Device.attach c rig).state history d)
    (hstreaming : d.session.streaming = true) {t : Turn}
    (hdone : ((Device.applyControl t.request).run d).result = .ok ()) :
    let e := ((Device.applyControl t.request).run d).state
    e.session.orientation.along t.axis = t.on ∧
    e.controls.value t.axis.kind = t.on.toUInt32 ∧
    ((forall axis, (e.session.orientation.along axis).toUInt32 = e.controls.value axis.kind) <->
      astray t.axis.other history = false) := by
  have hd := hrun.strayed hboot husage hok hstreaming
  have hlive := hrun.live hboot husage hok hstreaming
  have hturned := Device.turned_of_strayed hd hlive hdone
  rcases hturned t.axis with ⟨hown, hcontrol⟩
  rcases hturned t.axis.other with ⟨hother, hotherControl⟩
  rw [if_pos rfl] at hown hcontrol
  rw [if_neg t.axis.other_ne] at hother hotherControl
  refine ⟨hown, ?_, ?_⟩
  · rw [ControlSet.value_kind, hcontrol]
  constructor
  · intro hagree
    have heq := hagree t.axis.other
    rw [ControlSet.value_kind, hother, hotherControl] at heq
    cases hastray : astray t.axis.other history with
    | false => rfl
    | true =>
        rw [hastray, Bool.xor_true] at heq
        cases hon : d.controls.orientation.along t.axis.other <;>
          rw [hon] at heq <;> exact absurd heq (by decide)
  · intro hstays axis
    rw [ControlSet.value_kind]
    rcases t.axis.eq_or_eq_other axis with rfl | rfl
    · rw [hown, hcontrol]
    · rw [hother, hotherControl, hstays, Bool.xor_false]

/-- Of a turn's two reads and two writes the first write fails. -/
def brokenTurn : Scenario.Step :=
  .disturbance (.fail { Faults.none with single := [2] } .none)

set_option maxRecDepth 1000 in
/-- The mirror is refused, and granted on a second try; after that the flip leaves it alone. -/
theorem agrees_after_second_try :
    exists history d,
      Run (fun d step => step.Managed d ∧ ¬ step.IsLoad)
        (Device.attach .standard .sound).state history d ∧
      d.session.streaming = true ∧
      history.map (fun m => m.outcome.result) =
        [ .ok (.answer .done), .ok (.answer .done),
          .error (.reported (.transfer .write Register.flip)), .ok (.answer .done) ] ∧
      (let o := (Device.applyControl (.verticalFlip true)).run d
       o.result = .ok () ∧
         forall axis,
           (o.state.session.orientation.along axis).toUInt32 =
             o.state.controls.value axis.kind) := by
  have hok : (Device.attach .standard .sound).result = .ok () := rfl
  have hrun : Run (fun d step => step.Managed d ∧ ¬ step.IsLoad)
      (Device.attach .standard .sound).state _ _ :=
    Run.start
      |>.next (.operation (.setStream true)) ⟨trivial, Step.not_isLoad_operation _⟩
      |>.next brokenTurn ⟨trivial, by decide⟩
      |>.next (.operation (.applyControl (.horizontalFlip true)))
          ⟨trivial, Step.not_isLoad_operation _⟩
      |>.next (.operation (.applyControl (.horizontalFlip true)))
          ⟨trivial, Step.not_isLoad_operation _⟩
  refine ⟨_, _, hrun, rfl, rfl, rfl, ?_⟩
  exact (agrees_of_turn rfl rfl hok hrun rfl (t := ⟨.vertical, true⟩) rfl).2.2.mpr rfl

set_option maxRecDepth 1000 in
/-- Without a second try the flip is granted, and the mirror with it. -/
theorem refused_turn_comes_into_effect :
    exists history d,
      Run (fun d step => step.Managed d ∧ ¬ step.IsLoad)
        (Device.attach .standard .sound).state history d ∧
      d.session.streaming = true ∧
      history.map (fun m => m.outcome.result) =
        [ .ok (.answer .done), .ok (.answer .done),
          .error (.reported (.transfer .write Register.flip)) ] ∧
      d.session.orientation = .normal ∧
      (let o := (Device.applyControl (.verticalFlip true)).run d
       o.result = .ok () ∧
         o.state.session.orientation = ⟨true, true⟩ ∧
         o.state.controls.value .horizontalFlip = 0 ∧
         o.state.controls.value .verticalFlip = 1) := by
  have hrun : Run (fun d step => step.Managed d ∧ ¬ step.IsLoad)
      (Device.attach .standard .sound).state _ _ :=
    Run.start
      |>.next (.operation (.setStream true)) ⟨trivial, Step.not_isLoad_operation _⟩
      |>.next brokenTurn ⟨trivial, by decide⟩
      |>.next (.operation (.applyControl (.horizontalFlip true)))
          ⟨trivial, Step.not_isLoad_operation _⟩
  exact ⟨_, _, hrun, rfl, rfl, rfl, rfl, rfl, rfl, rfl⟩

end ImageSensor
