import ImageSensor.Device.Attachment
import ImageSensor.Device.Stream
import ImageSensor.Proofs.Contract
import ImageSensor.Proofs.Levels
import ImageSensor.Proofs.PowerSequence

/-!
# What tuning leaves alone

Programs, controls and the stream switch reach the sensor over the bus only.
They move neither power nor users nor the host's requests; of the session they
touch what it remembers of the registers.
-/

namespace ImageSensor

/-!
# Actions on the bus
-/

namespace Bus

/-- Nothing but bus activity was recorded. -/
def Active (_ : Bus) (es : List Event) (_ : Bus) : Prop :=
  forall e, e ∈ es -> e.isBusActivity = true

theorem composes_active : Action.Composes Active where
  refl := fun _ _ h => nomatch h
  trans := by
    intro s t u es fs hes hfs e he
    rcases List.mem_append.mp he with he | he
    · exact hes e he
    · exact hfs e he

theorem active_pause (milliseconds : UInt32) :
    Action.Obeys Active (Action.emit (.pauseMilliseconds milliseconds)) := by
  intro b
  constructor
  · intro e he
    rw [List.mem_singleton.mp he]
    rfl
  · intro kind hover
    cases hover

theorem active_transmit (message : List UInt8) :
    Action.Obeys Active (transmit message) := by
  intro b
  constructor
  · intro e he
    rw [List.mem_singleton.mp he]
    rfl
  · intro kind hover
    cases hfails : b.failsNext .write (Register.addressed message) <;>
      simp [transmit, hfails] at hover

theorem active_receive (address : List UInt8) (width : Nat) :
    Action.Obeys Active (receive address width) := by
  intro b
  constructor
  · intro e he
    rw [List.mem_singleton.mp he]
    split <;> rfl
  · intro kind hover
    cases hfails : b.failsNext .read (Register.addressed address) <;>
      simp [receive, hfails] at hover

theorem active_write (register : UInt16) (width : Nat) (value : UInt32) :
    Action.Obeys Active (write register width value) := by
  unfold write
  split
  case isTrue => exact composes_active.report _
  case isFalse => exact active_transmit _

theorem active_read (register : UInt16) (width : Nat) :
    Action.Obeys Active (read register width) := by
  unfold read
  split
  case isTrue => exact composes_active.report _
  case isFalse =>
      apply composes_active.bind (active_receive _ width)
      intro bytes
      exact composes_active.pure _

theorem active_readByte (register : UInt16) :
    Action.Obeys Active (readByte register) := by
  apply composes_active.bind (active_read register 1)
  intro value
  exact composes_active.pure _

theorem active_readPair (register : UInt16) :
    Action.Obeys Active (readPair register) := by
  apply composes_active.bind (active_read register 2)
  intro value
  exact composes_active.pure _

theorem active_writeEach (writes : List (UInt16 × UInt8)) :
    Action.Obeys Active (writeEach writes) := by
  induction writes with
  | nil => exact composes_active.pure ()
  | cons head rest ih =>
      exact composes_active.both (active_write head.1 1 _) ih

end Bus

theorem Program.active_replay (p : Program) :
    Action.Obeys Bus.Active (replay p) := by
  induction p using replay.induct with
  | case1 => exact Bus.composes_active.pure ()
  | case2 step rest hend =>
      rw [replay_cons_of_end hend]
      exact Bus.composes_active.pure ()
  | case3 step rest hend hpause ih =>
      rw [replay_cons_of_pause hpause]
      exact Bus.composes_active.bind (Bus.active_pause _) fun _ => ih
  | case4 step rest hend hpause ih =>
      rw [replay_cons_of_write hend hpause]
      exact Bus.composes_active.bind (Bus.active_write _ _ _) fun _ => ih

/-!
# Actions on the device
-/

namespace Device

/-- The device with another bus, and other memories of the registers. -/
def tuned (d : Device) (bus : Bus) (programmed : Bool) (frameLength : UInt32)
    (orientation : Orientation) : Device :=
  { d with
    rig := { d.rig with bus := bus }
    session :=
      { d.session with
        programmed := programmed
        frameLength := frameLength
        orientation := orientation } }

/--
Only bus and memories may differ, and only the bus was active.  A program that
was replayed is not forgotten.
-/
structure Tuned (d : Device) (es : List Event) (d' : Device) : Prop where
  same : exists bus programmed frameLength orientation,
    d' = d.tuned bus programmed frameLength orientation
  programmed : d.session.programmed = true -> d'.session.programmed = true
  activity : forall e, e ∈ es -> e.isBusActivity = true

theorem composes_tuned : Action.Composes Tuned where
  refl := fun d => ⟨⟨_, _, _, _, rfl⟩, fun h => h, fun _ h => nomatch h⟩
  trans := by
    intro d d' d'' es fs hes hfs
    rcases hes with ⟨⟨bus, programmed, frameLength, orientation, rfl⟩, hprog, hes⟩
    rcases hfs with ⟨⟨bus', programmed', frameLength', orientation', rfl⟩, hprog', hfs⟩
    refine ⟨⟨bus', programmed', frameLength', orientation', rfl⟩, ?_, ?_⟩
    · intro h
      exact hprog' (hprog h)
    · intro e he
      rcases List.mem_append.mp he with he | he
      · exact hes e he
      · exact hfs e he

/-- An assertion that sees neither bus nor memories is kept by what only uses these. -/
theorem keeps_tuned {α : Type} {I : Action.Assertion Device} {x : Action Device α}
    (hx : Action.Obeys Tuned x)
    (hI : forall {log : List Event} {d : Device} (es : List Event) (bus : Bus)
      (programmed : Bool) (frameLength : UInt32) (orientation : Orientation),
      I log d -> I (log ++ es) (d.tuned bus programmed frameLength orientation)) :
    Action.Keeps I x := by
  apply hx.keeps
  intro log d es e hd ht
  rcases ht.same with ⟨bus, programmed, frameLength, orientation, rfl⟩
  exact hI es bus programmed frameLength orientation hd

theorem tuned_onBus {α : Type} {x : Action Bus α}
    (hx : Action.Obeys Bus.Active x) : Action.Obeys Tuned (onBus x) := by
  intro d
  rcases hx d.rig.bus with ⟨hactive, hover⟩
  exact ⟨⟨⟨(x.run d.rig.bus).state, _, _, _, rfl⟩, fun h => h, hactive⟩, hover⟩

theorem tuned_changeSession {f : Session -> Session}
    (hf : forall s, exists programmed frameLength orientation,
      f s = { s with
        programmed := programmed || s.programmed
        frameLength := frameLength
        orientation := orientation }) :
    Action.Obeys Tuned (changeSession f) := by
  intro d
  rcases hf d.session with ⟨programmed, frameLength, orientation, h⟩
  rw [run_changeSession, h]
  refine ⟨⟨⟨d.rig.bus, _, frameLength, orientation, rfl⟩, ?_, ?_⟩, ?_⟩
  · intro hprogrammed
    show (programmed || d.session.programmed) = true
    rw [hprogrammed, Bool.or_true]
  · intro e he
    cases he
  · intro kind hover
    cases hover

theorem tuned_readOrientation : Action.Obeys Tuned readOrientation := by
  apply composes_tuned.bind (tuned_onBus (Bus.active_readByte _))
  intro mirror
  apply composes_tuned.bind (tuned_onBus (Bus.active_readByte _))
  intro flip
  exact composes_tuned.pure _

theorem tuned_setOrientation (code : UInt8) :
    Action.Obeys Tuned (setOrientation code) := by
  apply composes_tuned.bind (tuned_onBus (Bus.active_writeEach _))
  intro _
  exact tuned_changeSession fun s => ⟨false, _, Orientation.ofCode code, rfl⟩

theorem tuned_flip (f : Orientation -> Orientation) :
    Action.Obeys Tuned (readOrientation >>= fun o => setOrientation (f o).code) := by
  apply composes_tuned.bind tuned_readOrientation
  intro o
  exact tuned_setOrientation _

theorem tuned_push (control : Control) : Action.Obeys Tuned (push control) := by
  cases control with
  | exposure lines =>
      apply composes_tuned.bind (composes_tuned.inspect _)
      intro mode
      exact composes_tuned.when _ (tuned_onBus (Bus.active_writeEach _))
  | analogGain gain =>
      apply composes_tuned.bind (composes_tuned.inspect _)
      intro mode
      exact composes_tuned.when _ (tuned_onBus (Bus.active_writeEach _))
  | horizontalBlank pixels => exact composes_tuned.pure ()
  | verticalBlank lines =>
      exact tuned_changeSession fun s => ⟨false, s.entry.mode.frameLength, _, rfl⟩
  | testPattern pattern => exact composes_tuned.pure ()
  | horizontalFlip on => exact tuned_flip fun o => { o with mirror := on }
  | verticalFlip on => exact tuned_flip fun o => { o with flip := on }

theorem tuned_pushAll (controls : List Control) :
    Action.Obeys Tuned (pushAll controls) := by
  induction controls with
  | nil => exact composes_tuned.pure ()
  | cons control rest ih =>
      exact composes_tuned.bind (tuned_push control) fun _ => ih

theorem tuned_pushStored (request : Control) (stored : ControlSet × Bool) :
    Action.Obeys Tuned (pushStored request stored) := by
  rcases stored with ⟨controls, moved⟩
  cases moved with
  | false => exact tuned_push request
  | true => exact composes_tuned.both (tuned_push request) (tuned_push _)

theorem tuned_switchStream (on : Bool) : Action.Obeys Tuned (switchStream on) :=
  tuned_onBus (Bus.active_write _ _ _)

theorem tuned_loadMode : Action.Obeys Tuned loadMode := by
  apply composes_tuned.bind (composes_tuned.inspect _)
  intro program
  apply composes_tuned.bind (tuned_onBus (Program.active_replay program))
  intro _
  apply composes_tuned.bind (tuned_changeSession fun s => ⟨true, _, _, rfl⟩)
  intro _
  apply composes_tuned.bind (composes_tuned.inspect _)
  intro controls
  exact tuned_pushAll controls

theorem tuned_startStream : Action.Obeys Tuned startStream := by
  apply composes_tuned.bind (composes_tuned.inspect _)
  intro session
  apply composes_tuned.bind (composes_tuned.when _ tuned_loadMode)
  intro _
  exact tuned_switchStream true

theorem tuned_identify : Action.Obeys Tuned identify := by
  apply composes_tuned.bind (tuned_onBus (Bus.active_readPair _))
  intro id
  split
  · exact composes_tuned.pure ()
  · exact composes_tuned.report _

end Device
end ImageSensor
