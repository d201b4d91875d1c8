import ImageSensor.Proofs.Run

/-!
# What the host has selected

The mode, the controls, the frame timing and the format under negotiation are
the host's choice.  Power and streams work on that choice and never change it,
however they end: all they may do is set the frame length back to the mode's
own.  Since that is where it always stands, they leave the choice as it was.
-/

namespace ImageSensor

/-- The host's choices, as the session and the controls keep them. -/
structure Selection where
  entry : Entry
  controls : ControlSet
  interval : Fraction
  frameLength : UInt32
  scratchFormat : FrameFormat

namespace Selection

/-- The frame timing is that of the mode. -/
structure Regular (s : Selection) : Prop where
  interval : s.interval = s.entry.mode.interval
  frameLength : s.frameLength = s.entry.mode.frameLength

def resetFrame (s : Selection) : Selection :=
  { s with frameLength := s.entry.mode.frameLength }

theorem Regular.resetFrame_eq {s : Selection} (h : s.Regular) : s.resetFrame = s := by
  rcases s with ⟨entry, controls, interval, frameLength, scratchFormat⟩
  have hframe : frameLength = entry.mode.frameLength := h.frameLength
  rw [hframe]
  rfl

theorem Regular.reset {s : Selection} (h : s.Regular) : s.resetFrame.Regular :=
  ⟨h.interval, rfl⟩

end Selection

namespace Device

variable {α : Type}

def selection (d : Device) : Selection where
  entry := d.session.entry
  controls := d.controls
  interval := d.session.interval
  frameLength := d.session.frameLength
  scratchFormat := d.session.scratchFormat

/-- A condition on what is selected. -/
def Chosen (P : Selection -> Prop) : Action.Assertion Device :=
  fun _ d => P d.selection

/-!
# Power
-/

section

variable {P : Selection -> Prop}

theorem chosen_onRig (x : Action Rig α) : Action.Keeps (Chosen P) (onRig x) :=
  Action.Contract.of_always fun _ _ hd => hd

theorem chosen_changeSession {f : Session -> Session}
    (hf : forall d : Device, P d.selection -> P (selection { d with session := f d.session })) :
    Action.Keeps (Chosen P) (changeSession f) :=
  Action.Contract.update fun _ d hd => hf d hd

theorem chosen_raiseRails : Action.Keeps (Chosen P) raiseRails :=
  Action.Keeps.inspect fun _ => chosen_onRig _

theorem powerless_chosen : Powerless (Chosen P) :=
  fun _ _ _ _ hd => hd

theorem chosen_powerOn : Action.Keeps (Chosen P) powerOn :=
  powerless_chosen.keeps_powerOn (fun _ => chosen_onRig _) fun _ => chosen_onRig _

theorem chosen_powerOff : Action.Keeps (Chosen P) powerOff :=
  powerless_chosen.keeps_powerOff (chosen_onRig _) (chosen_onRig _)

theorem chosen_acquire : Action.Keeps (Chosen P) acquire := by
  apply (chosen_onRig _).bind
  intro first
  exact (chosen_powerOn.onError (chosen_onRig _)).when first

theorem chosen_release : Action.Keeps (Chosen P) release := by
  apply (chosen_onRig _).bind
  intro last
  exact chosen_powerOff.when last

theorem chosen_setPower (on : Bool) : Action.Keeps (Chosen P) (setPower on) :=
  keeps_setPower_of_users chosen_acquire chosen_release
    (fun _ => chosen_changeSession fun _ hd => hd) on

end

/-!
# Streams

Putting in the frame blanking resets the tracked frame length.
-/

section

variable {P : Selection -> Prop} (hP : forall s, P s -> P s.resetFrame)

theorem chosen_turn (f : Orientation -> Orientation) :
    Action.Keeps (Chosen P) (readOrientation >>= fun o => setOrientation (f o).code) := by
  have hread : Action.Keeps (Chosen P) readOrientation := by
    apply (chosen_onRig _).bind
    intro mirror
    apply (chosen_onRig _).bind
    intro flip
    exact Action.Keeps.pure _
  apply hread.bind
  intro o
  apply (chosen_onRig _).bind
  intro _
  exact chosen_changeSession fun _ hd => hd

include hP

theorem chosen_push (control : Control) : Action.Keeps (Chosen P) (push control) := by
  cases control with
  | exposure lines => exact Action.Keeps.inspect fun mode => (chosen_onRig _).when _
  | analogGain gain => exact Action.Keeps.inspect fun mode => (chosen_onRig _).when _
  | horizontalBlank pixels => exact Action.Keeps.pure ()
  | verticalBlank lines =>
      exact chosen_changeSession
        (f := fun s => { s with frameLength := s.entry.mode.frameLength })
        fun d hd => hP d.selection hd
  | testPattern pattern => exact Action.Keeps.pure ()
  | horizontalFlip on => exact chosen_turn fun o => { o with mirror := on }
  | verticalFlip on => exact chosen_turn fun o => { o with flip := on }

theorem chosen_pushAll (controls : List Control) :
    Action.Keeps (Chosen P) (pushAll controls) := by
  induction controls with
  | nil => exact Action.Keeps.pure ()
  | cons control rest ih => exact (chosen_push hP control).bind fun _ => ih

theorem chosen_startStream : Action.Keeps (Chosen P) startStream := by
  have hload : Action.Keeps (Chosen P) loadMode := by
    apply Action.Keeps.inspect
    intro program
    apply (chosen_onRig _).bind
    intro _
    apply (chosen_changeSession fun _ hd => hd).bind
    intro _
    exact Action.Keeps.inspect fun controls => chosen_pushAll hP controls
  apply Action.Keeps.inspect
  intro session
  exact (hload.when _).bind fun _ => chosen_onRig _

omit hP in
theorem chosen_takeOverIfNeeded : Action.Keeps (Chosen P) takeOverIfNeeded := by
  apply Action.Keeps.inspect
  intro device
  split
  case isFalse => exact Action.Keeps.pure false
  case isTrue =>
      apply (chosen_changeSession fun _ hd => hd).bind
      intro _
      apply Action.Keeps.inspect
      intro session
      have habandon : Action.Keeps (Chosen P) abandonTakeOver :=
        (chosen_changeSession fun _ hd => hd).bind fun _ => chosen_onRig _
      apply ((chosen_raiseRails.onError habandon).when _).bind
      intro _
      exact Action.Keeps.pure _

theorem chosen_beginStream : Action.Keeps (Chosen P) beginStream := by
  apply chosen_takeOverIfNeeded.bind
  intro surplus
  apply chosen_acquire.bind
  intro _
  apply ((chosen_onRig _).when _).bind
  intro _
  apply ((chosen_startStream hP).onError chosen_release).bind
  intro _
  exact chosen_changeSession fun _ hd => hd

omit hP in
theorem chosen_endStream : Action.Keeps (Chosen P) endStream := by
  apply Action.Keeps.ensuring
  · apply Action.Keeps.inspect
    intro session
    have hleave : Action.Keeps (Chosen P) leaveBootStage :=
      (chosen_changeSession fun _ hd => hd).bind fun _ => chosen_release
    exact (hleave.when _).bind fun _ => chosen_onRig _
  · apply chosen_release.bind
    intro _
    exact chosen_changeSession fun _ hd => hd

theorem chosen_setStream (on : Bool) : Action.Keeps (Chosen P) (setStream on) :=
  keeps_setStream_of_switches (chosen_beginStream hP) chosen_endStream on

end

/-!
# The frame timing stays that of the mode
-/

theorem regular_initial (c : Config) (rig : Rig) : (initial c rig).selection.Regular :=
  ⟨rfl, rfl⟩

theorem chosen_bringUp {P : Selection -> Prop} : Action.Keeps (Chosen P) bringUp := by
  apply chosen_powerOn.bind
  intro _
  apply Action.Keeps.inspect
  intro session
  have hidentify : Action.Keeps (Chosen P) identify := by
    apply (chosen_onRig _).bind
    intro id
    split
    case isTrue => exact Action.Keeps.pure ()
    case isFalse => exact Action.Contract.report fun _ _ hd => hd
  split
  case isTrue => exact (chosen_onRig _).bind fun _ => Action.Keeps.pure ()
  case isFalse => exact (hidentify.onError chosen_powerOff).bind fun _ => chosen_powerOff

theorem chosen_changeControls (controls : ControlSet) :
    Action.Keeps (Chosen Selection.Regular) (changeControls controls) :=
  Action.Contract.update fun _ _ hd => ⟨hd.interval, hd.frameLength⟩

theorem chosen_selectMode (entry : Entry) :
    Action.Keeps (Chosen Selection.Regular) (selectMode entry) :=
  keeps_selectMode chosen_changeControls (chosen_changeSession fun _ _ => ⟨rfl, rfl⟩)

theorem negotiable_regular : Negotiable (Chosen Selection.Regular) where
  scratch := fun _ => chosen_changeSession fun _ hd => ⟨hd.interval, hd.frameLength⟩
  selectMode := fun _ => (chosen_selectMode _).pre fun _ _ hd => hd.1

theorem tunable_regular :
    Tunable (Chosen Selection.Regular) (Chosen Selection.Regular) :=
  tunable_of_keeps chosen_changeControls (chosen_onRig _)
    (chosen_push fun _ hs => hs.reset) chosen_release

end Device

section

variable {P : Selection -> Prop} (hP : forall s, P s -> P s.resetFrame)
  (hnegotiable : Device.Negotiable (Device.Chosen P))
  (happly : forall control, Action.Keeps (Device.Chosen P) (Device.applyControl control))

include hP hnegotiable happly

/-- Only a direct selection of a mode has to be looked at for each condition anew. -/
theorem Operation.chosen_perform {request : Operation}
    (hselect : forall entry, request = .selectMode entry ->
      Action.Keeps (Device.Chosen P) (Device.selectMode entry)) :
    Action.Keeps (Device.Chosen P) request.perform := by
  cases request with
  | powerOn => exact contract_complete Device.chosen_powerOn
  | powerOff => exact contract_complete Device.chosen_powerOff
  | setPower on => exact contract_complete (Device.chosen_setPower on)
  | setStream on => exact contract_complete (Device.chosen_setStream hP on)
  | selectMode entry => exact contract_complete (hselect entry rfl)
  | applyControl request => exact contract_complete (happly request)
  | command request =>
      exact (hnegotiable.keeps_command fun _ _ => Device.chosen_onRig _).map
  | _ => exact keeps_perform hnegotiable trivial

theorem Scenario.Step.chosen_perform {step : Step}
    (hselect : forall entry, step = .operation (.selectMode entry) ->
      Action.Keeps (Device.Chosen P) (Device.selectMode entry)) :
    Action.Keeps (Device.Chosen P) step.perform := by
  cases step with
  | operation request =>
      have hrequest : Action.Keeps (Device.Chosen P) request.perform :=
        Operation.chosen_perform hP hnegotiable happly fun entry h => hselect entry (h ▸ rfl)
      exact hrequest.map
  | setting kind value =>
      exact contract_setting kind value (fun request _ => happly request) fun _ _ hd => hd
  | disturbance change => exact Device.chosen_onRig _
  | peek register => exact Action.Contract.look fun _ _ hd => hd
  | detach =>
      apply Action.Keeps.bind
      · exact Action.Keeps.inspect fun session => Device.chosen_powerOff.when _
      · intro _
        exact (Device.chosen_onRig _).bind fun _ => Action.Keeps.pure _

end

namespace Scenario

/-- Whatever a run does, the frame timing is that of the mode. -/
theorem Run.regular {Allowed : Device -> Step -> Prop} {c : Config} {rig : Rig}
    {history : List Moment} {d : Device}
    (hrun : Run Allowed (Device.attach c rig).state history d) : d.selection.Regular := by
  have hinitial : Device.Chosen Selection.Regular [] (Device.initial c rig) :=
    Device.regular_initial c rig
  have hstart := Device.chosen_bringUp.always hinitial
  apply hrun.kept (I := Device.Chosen Selection.Regular) hstart
  intro step
  exact step.chosen_perform (fun _ hs => hs.reset) Device.negotiable_regular
    Device.tunable_regular.keeps_applyControl fun entry _ => Device.chosen_selectMode entry

end Scenario
end ImageSensor
