import ImageSensor.Proofs.Attaching
import ImageSensor.Proofs.Matching
import ImageSensor.Proofs.Run

/-!
# What is tolerated

A board may refuse a clock rate and any setting of its pins and lines, one and not
the next, and claim any rate.  None of this may ever matter.  What is left of a
state when all that is tolerated is set right is essential.  Devices that are
essentially the same answer essentially the same, whatever is done with them
and however long.
-/

namespace ImageSensor

variable {α : Type}

/-- The board that refuses no rate and no setting, and claims no rate. -/
def Board.essential (b : Board) : Board :=
  { b with
    refusesRate := false
    refusesPins := false
    refusesLevels := false
    refusedSettings := []
    settings := 0
    rate := 0
    claimedRate := none }

def Rig.essential (rig : Rig) : Rig :=
  { rig with board := rig.board.essential }

def Device.essential (d : Device) : Device :=
  { d with rig := d.rig.essential }

open ImageSensor.Action (Matched Impartial)

/-!
# Services and lines
-/

namespace Board

theorem impartial_enableClock : Impartial essential enableClock :=
  Matched.of_view fun _ => rfl

theorem impartial_enableSupplies : Impartial essential enableSupplies :=
  Matched.of_view fun _ => rfl

end Board

/-- A level may be refused: the answer is the same. -/
theorem Lines.impartial_drive (line : Line) (high : Bool) (l : Lines) :
    Impartial Board.essential (drive line high l) := by
  apply Matched.of_view
  intro b
  simp only [drive]
  split <;> rfl

namespace Rig

theorem matched_onBoard {x y : Action Board α} (hxy : Matched Board.essential x y) :
    Matched essential (onBoard x) (onBoard y) :=
  Matched.within (fun _ => rfl) (fun _ _ => rfl) hxy

theorem matched_onLines {x y : Lines -> Action Board α}
    (hxy : forall l, Matched Board.essential (x l) (y l)) :
    Matched essential (onLines x) (onLines y) :=
  Matched.bind (Matched.inspect fun _ => rfl) fun l => matched_onBoard (hxy l)

theorem impartial_onBus (x : Action Bus α) : Impartial essential (onBus x) :=
  Matched.within (fun _ => rfl) (fun _ _ => rfl) (Matched.of_id x)

/-- The pins may refuse: nobody asks whether they did. -/
theorem impartial_selectPins (state : PinState) :
    Impartial essential (onBoard (Board.selectPins state) >>= fun _ => pure ()) := by
  apply Matched.of_view
  intro rig
  have hminimal : rig.essential.board.minimal = rig.board.minimal := rfl
  simp only [Action.run_bind, onBoard, Action.run_within, Board.selectPins, hminimal]
  cases rig.board.minimal <;> rfl

/-- The rate may be refused: nobody asks whether it was. -/
theorem impartial_setClockRate (hertz : UInt32) :
    Impartial essential (onBoard (Board.setClockRate hertz) >>= fun _ => pure ()) := by
  apply Matched.of_view
  intro rig
  simp only [Action.run_bind, onBoard, Action.run_within, Board.setClockRate]
  cases rig.board.refusesRate <;> rfl

theorem impartial_startClock (hertz : UInt32) : Impartial essential (startClock hertz) := by
  apply (impartial_selectPins _).bind_unread
  apply (impartial_setClockRate hertz).bind_unread
  apply Matched.inspect_bind
  intro _ _ _
  exact matched_onBoard Board.impartial_enableClock

theorem impartial_stopClock : Impartial essential stopClock :=
  matched_onBoard (Matched.emit _)

theorem impartial_raiseRails (hertz : UInt32) : Impartial essential (raiseRails hertz) := by
  apply (matched_onLines (Lines.impartial_drive _ _)).bind
  intro _
  apply ((matched_onBoard Board.impartial_enableSupplies).onError impartial_stopClock).bind
  intro _
  apply (matched_onLines (Lines.impartial_drive _ _)).bind
  intro _
  apply (Matched.emit _).bind
  intro _
  apply (matched_onLines (Lines.impartial_drive _ _)).bind
  intro _
  refine Matched.bind (Matched.inspect fun _ => rfl) fun _ => ?_
  apply (Matched.emit _).bind
  intro _
  exact (Matched.compute _).bind fun _ => Matched.emit _

theorem impartial_lowerRails : Impartial essential lowerRails := by
  apply (matched_onLines (Lines.impartial_drive _ _)).bind
  intro _
  apply (matched_onLines (Lines.impartial_drive _ _)).bind
  intro _
  exact (impartial_selectPins _).bind_unread (matched_onBoard (Matched.emit _))

/-!
# Usage
-/

theorem impartial_moveUsage (call : UsageCall)
    (move : UsageCount -> Checked (Bool × UsageCount)) :
    Impartial essential (moveUsage call move) := by
  apply Matched.of_view
  intro rig
  have husage : rig.essential.usage = rig.usage := rfl
  simp only [moveUsage, husage]
  cases move rig.usage <;> rfl

theorem impartial_putNoIdle : Impartial essential putNoIdle :=
  Matched.of_view fun _ => rfl

end Rig

namespace Device

theorem matched_onRig {x y : Action Rig α} (hxy : Matched Rig.essential x y) :
    Matched essential (onRig x) (onRig y) :=
  Matched.within (fun _ => rfl) (fun _ _ => rfl) hxy

theorem impartial_onBus (x : Action Bus α) : Impartial essential (onBus x) :=
  matched_onRig (Rig.impartial_onBus x)

theorem impartial_changeSession (f : Session -> Session) :
    Impartial essential (changeSession f) :=
  Matched.of_view fun _ => rfl

theorem impartial_changeControls (controls : ControlSet) :
    Impartial essential (changeControls controls) :=
  Matched.of_view fun _ => rfl

/-!
# Power
-/

theorem impartial_raiseRails : Impartial essential raiseRails :=
  Matched.bind (Matched.inspect fun _ => rfl) fun _ => matched_onRig (Rig.impartial_raiseRails _)

theorem impartial_powerOn : Impartial essential powerOn := by
  apply Matched.inspect_bind
  intro d e hde
  have hconfig : d.config = e.config := eq_of_view hde fun _ => rfl
  have hsession : d.session = e.session := eq_of_view hde fun _ => rfl
  simp only [id_eq, hconfig, hsession]
  apply (matched_onRig (Rig.impartial_startClock _)).bind
  intro _
  apply (impartial_raiseRails.when _).bind
  intro _
  exact impartial_changeSession _

theorem impartial_powerOff : Impartial essential powerOff := by
  apply (matched_onRig Rig.impartial_stopClock).bind
  intro _
  apply (impartial_changeSession _).bind
  intro _
  refine Matched.bind (Matched.inspect fun _ => rfl) fun session => ?_
  split
  · exact Matched.pure ()
  · apply ((impartial_changeSession _).when _).bind
    intro _
    exact matched_onRig Rig.impartial_lowerRails

theorem impartial_putNoIdle : Impartial essential (onRig Rig.putNoIdle) :=
  matched_onRig Rig.impartial_putNoIdle

theorem impartial_acquire : Impartial essential acquire :=
  (matched_onRig (Rig.impartial_moveUsage _ _)).bind fun first =>
    (impartial_powerOn.onError impartial_putNoIdle).when first

theorem impartial_release : Impartial essential release :=
  (matched_onRig (Rig.impartial_moveUsage _ _)).bind fun last => impartial_powerOff.when last

theorem impartial_grantPower : Impartial essential grantPower := by
  apply impartial_acquire.bind
  intro _
  refine Matched.bind (Matched.inspect fun _ => rfl) fun session => ?_
  apply (((impartial_onBus _).onError impartial_putNoIdle).when _).bind
  intro _
  exact impartial_changeSession _

theorem impartial_withdrawPower : Impartial essential withdrawPower :=
  impartial_release.bind fun _ => impartial_changeSession _

theorem impartial_setPower (on : Bool) : Impartial essential (setPower on) := by
  refine Matched.bind (Matched.inspect fun _ => rfl) fun session => ?_
  split
  · exact Matched.pure ()
  · split
    · exact impartial_grantPower
    · exact impartial_withdrawPower

/-!
# Controls
-/

theorem impartial_readOrientation : Impartial essential readOrientation :=
  (impartial_onBus _).bind fun _ => (impartial_onBus _).bind fun _ => Matched.pure _

theorem impartial_setOrientation (code : UInt8) :
    Impartial essential (setOrientation code) :=
  (impartial_onBus _).bind fun _ => impartial_changeSession _

theorem impartial_push (request : Control) : Impartial essential (push request) := by
  cases request with
  | exposure lines =>
      exact Matched.bind (Matched.inspect fun _ => rfl) fun _ => (impartial_onBus _).when _
  | analogGain gain =>
      exact Matched.bind (Matched.inspect fun _ => rfl) fun _ => (impartial_onBus _).when _
  | horizontalBlank value => exact Matched.pure ()
  | verticalBlank value =>
      rw [push]
      exact impartial_changeSession _
  | testPattern pattern => exact Matched.pure ()
  | horizontalFlip on =>
      exact impartial_readOrientation.bind fun _ => impartial_setOrientation _
  | verticalFlip on =>
      exact impartial_readOrientation.bind fun _ => impartial_setOrientation _

theorem impartial_pushAll (requests : List Control) : Impartial essential (pushAll requests) := by
  induction requests with
  | nil => exact Matched.pure ()
  | cons request rest ih => exact (impartial_push request).bind fun _ => ih

theorem impartial_pushStored (request : Control) (stored : ControlSet × Bool) :
    Impartial essential (pushStored request stored) := by
  rcases stored with ⟨controls, moved⟩
  cases moved with
  | false => exact impartial_push request
  | true => exact (impartial_push request).both (impartial_push _)

theorem impartial_deliver (before : ControlSet) (request : Control)
    (stored : ControlSet × Bool) : Impartial essential (deliver before request stored) :=
  ((impartial_pushStored request stored).ensuring impartial_release).onError
    (impartial_changeControls before)

theorem impartial_applyControl (request : Control) :
    Impartial essential (applyControl request) := by
  refine Matched.bind (Matched.inspect fun _ => rfl) fun before => ?_
  refine Matched.bind (Matched.inspect fun _ => rfl) fun mode => ?_
  split
  · apply (Matched.compute _).bind
    intro stored
    apply (impartial_changeControls _).bind
    intro _
    apply (matched_onRig (Rig.impartial_moveUsage _ _)).bind
    intro inUse
    exact (impartial_deliver before request stored).when inUse
  · exact Matched.report _

/-!
# Streaming
-/

theorem impartial_loadMode : Impartial essential loadMode := by
  refine Matched.bind (Matched.inspect fun _ => rfl) fun program => ?_
  apply (impartial_onBus _).bind
  intro _
  apply (impartial_changeSession _).bind
  intro _
  exact Matched.bind (Matched.inspect fun _ => rfl) fun controls => impartial_pushAll controls

theorem impartial_startStream : Impartial essential startStream := by
  refine Matched.bind (Matched.inspect fun _ => rfl) fun session => ?_
  exact (impartial_loadMode.when _).bind fun _ => impartial_onBus _

theorem impartial_stopStream : Impartial essential stopStream := by
  refine Matched.bind (Matched.inspect fun _ => rfl) fun session => ?_
  apply Matched.bind (Matched.when _ _)
  · intro _
    exact impartial_onBus _
  · exact (impartial_changeSession _).bind fun _ => impartial_release

theorem impartial_takeOver : Impartial essential takeOver := by
  apply (impartial_changeSession _).bind
  intro _
  refine Matched.bind (Matched.inspect fun _ => rfl) fun session => ?_
  apply Matched.bind (Matched.when (impartial_raiseRails.onError _) _)
  · intro _
    exact Matched.pure _
  · exact (impartial_changeSession _).bind fun _ => impartial_putNoIdle

/-- The report of a failed hand-over is essential. -/
theorem impartial_takeOverIfNeeded : Impartial essential takeOverIfNeeded := by
  apply Matched.inspect_bind
  intro d e hde
  have hboot : d.session.fastBoot = e.session.fastBoot :=
    eq_of_view (f := fun d => d.session.fastBoot) hde fun _ => rfl
  have hreport : d.rig.board.reportsHandoffFailure = e.rig.board.reportsHandoffFailure :=
    eq_of_view (f := fun d => d.rig.board.reportsHandoffFailure) hde fun _ => rfl
  simp only [id_eq, hboot, hreport]
  split
  · exact impartial_takeOver
  · exact Matched.pure false

theorem impartial_beginStream : Impartial essential beginStream := by
  apply impartial_takeOverIfNeeded.bind
  intro surplus
  apply impartial_acquire.bind
  intro _
  apply (impartial_putNoIdle.when surplus).bind
  intro _
  apply (impartial_startStream.onError impartial_release).bind
  intro _
  exact impartial_changeSession _

theorem impartial_endStream : Impartial essential endStream :=
  impartial_stopStream.ensuring (impartial_release.bind fun _ => impartial_changeSession _)

theorem impartial_setStream (on : Bool) : Impartial essential (setStream on) := by
  refine Matched.bind (Matched.inspect fun _ => rfl) fun session => ?_
  split
  · exact Matched.pure ()
  · split
    · exact impartial_beginStream
    · exact impartial_endStream

/-!
# Modes
-/

theorem impartial_selectMode (entry : Entry) : Impartial essential (selectMode entry) := by
  refine Matched.bind (Matched.inspect fun _ => rfl) fun controls => ?_
  apply (Matched.compute _).bind
  intro applied
  exact (impartial_changeControls _).bind fun _ => impartial_changeSession _

theorem impartial_switchMode (entry : Entry) : Impartial essential (switchMode entry) := by
  refine Matched.bind (Matched.inspect fun _ => rfl) fun session => ?_
  split
  · exact Matched.report _
  · exact impartial_selectMode entry

theorem impartial_adopt (pad : UInt32) (entry : Entry) (target : FormatTarget) :
    Impartial essential (adopt pad entry target) := by
  cases target with
  | scratch =>
      rw [adopt]
      exact impartial_changeSession _
  | active => exact impartial_switchMode entry

theorem impartial_setFormat (pad : UInt32) (target : FormatTarget) (width height : UInt32) :
    Impartial essential (setFormat pad target width height) :=
  (Matched.compute _).bind fun entry =>
    (impartial_adopt pad entry target).bind fun _ => Matched.pure _

theorem impartial_require (found : Option α) : Impartial essential (require found) := by
  cases found with
  | none => exact Matched.report _
  | some value => exact Matched.pure value

theorem impartial_setHdr (hdr : Hdr) : Impartial essential (setHdr hdr) := by
  refine Matched.bind (Matched.inspect fun _ => rfl) fun mode => ?_
  split
  · exact Matched.report _
  · exact impartial_switchMode _

theorem impartial_command (request : Command) : Impartial essential (command request) := by
  cases request with
  | getModuleInfo => exact Matched.inspect fun _ => rfl
  | getHdrConfig => exact Matched.inspect fun _ => rfl
  | setHdrConfig hdr => exact (impartial_setHdr hdr).bind fun _ => Matched.pure _
  | setHdrExposure values => exact Matched.pure _
  | setQuickStream on => exact (impartial_onBus _).bind fun _ => Matched.pure _

/-!
# Attaching and detaching
-/

theorem impartial_identify : Impartial essential identify := by
  apply (impartial_onBus _).bind
  intro id
  split
  · exact Matched.pure ()
  · exact Matched.report _

theorem impartial_bringUp : Impartial essential bringUp := by
  apply impartial_powerOn.bind
  intro _
  refine Matched.bind (Matched.inspect fun _ => rfl) fun session => ?_
  split
  · exact (matched_onRig (Rig.impartial_moveUsage _ _)).bind fun _ => Matched.pure ()
  · exact (impartial_identify.onError impartial_powerOff).bind fun _ => impartial_powerOff

theorem impartial_detach : Impartial essential detach :=
  Matched.bind (Matched.inspect fun _ => rfl) fun _ => impartial_powerOff.when _

end Device

/-!
# Requests and disturbances
-/

theorem Operation.impartial_perform (request : Operation) :
    Impartial Device.essential request.perform := by
  have hcomplete : forall {x : Action Device Unit}, Impartial Device.essential x ->
      Impartial Device.essential (complete x) :=
    fun hx => hx.bind fun _ => Matched.pure _
  cases request with
  | powerOn => exact hcomplete Device.impartial_powerOn
  | powerOff => exact hcomplete Device.impartial_powerOff
  | setPower on => exact hcomplete (Device.impartial_setPower on)
  | setStream on => exact hcomplete (Device.impartial_setStream on)
  | reopen => exact hcomplete (Device.impartial_changeSession _)
  | setMode width height =>
      exact ((Device.impartial_setFormat _ _ width height).bind fun _ =>
        Matched.inspect fun _ => rfl).map _
  | selectMode entry => exact hcomplete (Device.impartial_selectMode entry)
  | applyControl request => exact hcomplete (Device.impartial_applyControl request)
  | value kind => exact Matched.inspect fun _ => rfl
  | range kind => exact Matched.inspect fun _ => rfl
  | frameInterval => exact Matched.inspect fun _ => rfl
  | mediaCode index =>
      apply Matched.inspect_bind
      intro d e hde
      have hcode : d.mediaCode? index = e.mediaCode? index :=
        eq_of_view (f := fun d => d.mediaCode? index) hde fun _ => rfl
      simp only [id_eq, hcode]
      exact (Device.impartial_require _).map _
  | frameSize index format => exact (Device.impartial_require _).map _
  | frameIntervalAt index => exact (Device.impartial_require _).map _
  | getFormat pad target => exact Matched.inspect fun _ => rfl
  | setFormat pad target width height =>
      exact (Device.impartial_setFormat pad target width height).map _
  | linkConfig pad => exact Matched.inspect fun _ => rfl
  | command request => exact (Device.impartial_command request).map _

namespace Scenario

/-- The change of the board, less what is tolerated. -/
def BoardChange.essential (change : BoardChange) : BoardChange :=
  { change with
    refusesRate := .none
    refusesPins := .none
    refusesLevels := .none
    refusedSettings := []
    claimedRate := .none }

def Disturbance.essential : Disturbance -> Disturbance
  | .fail faults change => .fail faults change.essential
  | d => d

def Step.essential : Step -> Step
  | .disturbance change => .disturbance change.essential
  | step => step

/-- A change of what is tolerated changes nothing else. -/
theorem Disturbance.matched_essential (change : Disturbance) :
    Matched Rig.essential change.happen change.essential.happen := by
  cases change with
  | load registers => exact Matched.of_view fun _ => rfl
  | fail faults change =>
      -- the essential change of the board shows in what is essential of it
      refine Matched.bind (Matched.update fun _ _ hrig => ?_) fun _ => Matched.pure _
      exact congrArg
        (fun rig : Rig =>
          { rig with
            bus := rig.bus.plan faults
            board := change.essential.apply rig.board }) hrig
  | heal => exact Matched.of_view fun _ => rfl
  | usage call =>
      cases call with
      | get => exact (Rig.impartial_moveUsage _ _).map _
      | getIfInUse => exact (Rig.impartial_moveUsage _ _).map _
      | put => exact (Rig.impartial_moveUsage _ _).map _
      | putNoIdle => exact Rig.impartial_putNoIdle.bind fun _ => Matched.pure _

namespace Step

theorem matched_essential (step : Step) :
    Matched Device.essential step.perform step.essential.perform := by
  cases step with
  | operation request => exact request.impartial_perform.map _
  | setting kind value =>
      simp only [essential, perform]
      split
      · exact (Operation.impartial_perform _).map _
      · exact Matched.pure _
  | disturbance change => exact Device.matched_onRig change.matched_essential
  | peek register => exact Matched.inspect fun _ => rfl
  | detach =>
      apply Device.impartial_detach.bind
      intro _
      exact (Device.impartial_onBus _).bind fun _ => Matched.pure _

theorem matched_perform {step step' : Step} (hstep : step.essential = step'.essential) :
    Matched Device.essential step.perform step'.perform := by
  have hleft := step.matched_essential
  rw [hstep] at hleft
  exact hleft.trans step'.matched_essential.symm

theorem isFinal_essential (step : Step) : step.essential.isFinal = step.isFinal := by
  cases step <;> rfl

end Step

/-!
# Runs
-/

/-- What is essential of what a step did. -/
def Moment.essential (m : Moment) : Outcome Device Reply :=
  m.outcome.essential Device.essential

def Record.essential : Record -> Record
  | .overflowed kind events => .overflowed kind (events.map Event.essential)
  | .answered reply events usage status =>
      .answered reply (events.map Event.essential) usage status

/--
Two devices are led side by side.  What is tolerated may change before each
step, for each of them on its own.
-/
inductive Twins (d d' : Device) :
    List Moment -> List Moment -> Device -> Device -> Prop where
  | start : Twins d d' [] [] d d'
  | next {history history' : List Moment} {e e' : Device} :
      Twins d d' history history' e e' -> (m m' : Moment) ->
      m.before.essential = e.essential -> m'.before.essential = e'.essential ->
      m.step.essential = m'.step.essential ->
      Twins d d' (history ++ [m]) (history' ++ [m']) m.after m'.after

theorem Moment.essential_eq {m m' : Moment}
    (hbefore : m.before.essential = m'.before.essential)
    (hstep : m.step.essential = m'.step.essential) : m.essential = m'.essential :=
  Step.matched_perform hstep _ _ hbefore

theorem Twins.essential_eq {d d' e e' : Device} {history history' : List Moment}
    (h : Twins d d' history history' e e') (hd : d.essential = d'.essential) :
    history.map Moment.essential = history'.map Moment.essential ∧
      e.essential = e'.essential := by
  induction h with
  | start => exact ⟨rfl, hd⟩
  | next _ m m' hbefore hbefore' hstep ih =>
      rcases ih with ⟨hhistory, he⟩
      have hm := Moment.essential_eq (hbefore.trans (he.trans hbefore'.symm)) hstep
      constructor
      · rw [List.map_append, List.map_append, hhistory, List.map_singleton,
          List.map_singleton, hm]
      · exact congrArg Outcome.state hm

theorem essential_record (reply : Reply) (o : Outcome Device α) (kept : Bool) :
    (record reply o kept).essential = record reply (o.essential Device.essential) kept := by
  cases kept <;> rfl

theorem essential_run {steps steps' : List Step} {d d' : Device}
    (hd : d.essential = d'.essential)
    (hsteps : steps.map Step.essential = steps'.map Step.essential) :
    (run d steps).map Record.essential = (run d' steps').map Record.essential := by
  induction steps generalizing steps' d d' with
  | nil =>
      rw [List.map_nil, eq_comm, List.map_eq_nil_iff] at hsteps
      rw [hsteps]
      rfl
  | cons step rest ih =>
      rcases List.map_eq_cons_iff.mp hsteps.symm with ⟨step', rest', rfl, hstep, hrest⟩
      have hout := Step.matched_perform hstep.symm d d' hd
      rcases Outcome.essential_eq_iff.mp hout with ⟨hresult, hstate, hevents⟩
      have hfinal : step.isFinal = step'.isFinal := by
        rw [← step.isFinal_essential, ← hstep, step'.isFinal_essential]
      have hlater := ih hstate hrest.symm
      simp only [run, ← hresult, ← hfinal]
      cases (step.perform.run d).result with
      | ok reply =>
          rw [List.map_cons, List.map_cons, essential_record, essential_record, hout]
          split
          · rfl
          · rw [hlater]
      | error failure =>
          cases failure with
          | overflow kind => exact congrArg (fun es => [Record.overflowed kind es]) hevents
          | reported error =>
              rw [List.map_cons, List.map_cons, essential_record, essential_record, hout]
              split
              · rfl
              · rw [hlater]

section

variable {c : Config} {rig rig' : Rig}

theorem essential_attach (hrig : rig.essential = rig'.essential) :
    (Device.attach c rig).essential Device.essential =
      (Device.attach c rig').essential Device.essential :=
  Device.impartial_bringUp _ _ (congrArg (Device.initial c) hrig)

theorem essential_play {steps steps' : List Step} (hrig : rig.essential = rig'.essential)
    (hsteps : steps.map Step.essential = steps'.map Step.essential) :
    (play c rig steps).map Record.essential = (play c rig' steps').map Record.essential := by
  have hattach := essential_attach (c := c) hrig
  rcases Outcome.essential_eq_iff.mp hattach with ⟨hresult, hstate, hevents⟩
  simp only [play, ← hresult]
  cases (Device.attach c rig).result with
  | ok _ =>
      rw [List.map_cons, List.map_cons, essential_record, essential_record, hattach,
        essential_run hstate hsteps]
  | error failure =>
      cases failure with
      | overflow kind => exact congrArg (fun es => [Record.overflowed kind es]) hevents
      | reported error =>
          rw [List.map_singleton, List.map_singleton, essential_record, essential_record,
            hattach]

end

/-- Whatever is tolerated makes no difference, neither at once nor later. -/
theorem indifferent_to_tolerated (c : Config) {rig rig' : Rig}
    (hrig : rig.essential = rig'.essential) :
    (Device.attach c rig).essential Device.essential =
      (Device.attach c rig').essential Device.essential ∧
    (forall history history' d d',
      Twins (Device.attach c rig).state (Device.attach c rig').state history history' d d' ->
        history.map Moment.essential = history'.map Moment.essential ∧
        d.essential = d'.essential) ∧
    (forall steps steps' : List Step,
      steps.map Step.essential = steps'.map Step.essential ->
        (play c rig steps).map Record.essential =
          (play c rig' steps').map Record.essential) := by
  have hattach := essential_attach (c := c) hrig
  refine ⟨hattach, ?_, fun _ _ hsteps => essential_play hrig hsteps⟩
  intro history history' d d' htwins
  exact htwins.essential_eq (congrArg Outcome.state hattach)

/-- A sound sensor on which everything is refused that may be. -/
def reluctant : Rig :=
  { Rig.sound with
    board :=
      { Board.sound with
        refusesRate := true
        refusesPins := true
        refusesLevels := true
        claimedRate := some 1 } }

/-- The device after its lines were mended. -/
def mended (d : Device) : Device :=
  { d with rig := { d.rig with board := { d.rig.board with refusesLevels := false } } }

theorem essential_mended (d : Device) : (mended d).essential = d.essential := rfl

/--
The logs differ in their marks only, also when the lines are mended on the way, and
when of the settings to come the pins agree and of the two levels one does.
-/
theorem indifferent_to_reluctant :
    (Device.attach .standard .sound).events ≠ (Device.attach .standard reluctant).events ∧
    [Moment.mk (Device.attach .standard .sound).state
        (.operation (.setStream true))].map Moment.essential =
      [Moment.mk (mended (Device.attach .standard reluctant).state)
        (.operation (.setStream true))].map Moment.essential ∧
    (play .standard .sound
      [.operation (.setStream true), .disturbance (.fail .none .none),
        .operation (.setStream false), .detach]).map Record.essential =
      (play .standard reluctant
        [.operation (.setStream true),
          .disturbance (.fail .none
            { BoardChange.none with
              refusesPins := some false
              refusesLevels := some false
              refusedSettings := [1] }),
          .operation (.setStream false), .detach]).map Record.essential := by
  rcases @indifferent_to_tolerated .standard .sound reluctant rfl with ⟨-, htwins, hplay⟩
  refine ⟨fun hevents => (nomatch (List.cons.inj hevents).1), ?_, hplay _ _ rfl⟩
  have hstart := Twins.next .start
    (Moment.mk (Device.attach .standard .sound).state (.operation (.setStream true)))
    (Moment.mk (mended (Device.attach .standard reluctant).state)
      (.operation (.setStream true)))
    rfl (essential_mended _) rfl
  exact (htwins _ _ _ _ hstart).1

end Scenario
end ImageSensor
