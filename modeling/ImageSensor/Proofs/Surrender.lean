import ImageSensor.Proofs.Attaching
import ImageSensor.Proofs.Elsewhere
import ImageSensor.Proofs.Restraint
import ImageSensor.Proofs.Run

/-!
# The end of a boot stage's set-up

The set-up is given up once and for all, either to the board's report that the
hand-over failed or by one complete power-down, which cannot come before a stream
was stopped.  Until then every moment of a run shows restraint.
-/

namespace ImageSensor
namespace Device

variable {α : Type}

/-!
# No set-up again
-/

/-- No boot stage's set-up is in use. -/
def Unbooted : Action.Assertion Device :=
  fun _ d => d.session.fastBoot = false

theorem unbooted_onRig (x : Action Rig α) : Action.Keeps Unbooted (onRig x) :=
  Action.Contract.of_always fun _ _ hd => hd

theorem unbooted_tuned {x : Action Device α} (hx : Action.Obeys Tuned x) :
    Action.Keeps Unbooted x :=
  keeps_tuned hx fun _ _ _ _ _ hd => hd

theorem indifferent_unbooted : Indifferent Unbooted where
  boot := fun hd => hd
  elsewhere := fun _ hd h => h.boot hd

theorem unbooted_raiseRails : Action.Keeps Unbooted raiseRails :=
  Action.Keeps.inspect fun _ => unbooted_onRig _

theorem unbooted_release : Action.Keeps Unbooted release :=
  indifferent_unbooted.contract_release.anyFailure

/-- A start that takes over gives up the set-up before anything else. -/
theorem unbooted_takeOver :
    Action.Contract takeOver (fun _ _ => True) (fun _ => Unbooted) (fun _ => Unbooted) := by
  apply Action.Contract.bind (M := fun _ => Unbooted)
  · apply Action.Contract.update
    intro _ _ _
    rfl
  intro _
  apply Action.Keeps.inspect
  intro session
  have habandon : Action.Keeps Unbooted abandonTakeOver := by
    apply Action.Contract.bind (M := fun _ => Unbooted)
    · exact Action.Contract.update fun _ _ hd => hd
    · intro _
      exact unbooted_onRig _
  apply ((unbooted_raiseRails.onError habandon).when _).bind
  intro _
  exact Action.Keeps.pure _

theorem unbooted_beginStream :
    Action.Contract beginStream
      (fun _ d => d.session.fastBoot = false ∨ d.rig.board.reportsHandoffFailure = true)
      (fun _ => Unbooted) (fun _ => Unbooted) := by
  have htake : Action.Contract takeOverIfNeeded
      (fun _ d => d.session.fastBoot = false ∨ d.rig.board.reportsHandoffFailure = true)
      (fun _ => Unbooted) (fun _ => Unbooted) := by
    apply Action.Contract.inspect
    intro device
    split
    case isTrue => exact unbooted_takeOver.pre fun _ _ _ => trivial
    case isFalse hnone =>
        apply Action.Contract.pure
        rintro log d ⟨hd, rfl⟩
        rcases hd with hboot | hreports
        · exact hboot
        · have hfast : (id d).session.fastBoot = false := by simpa [hreports] using hnone
          exact hfast
  apply Action.Contract.bind htake
  intro surplus
  apply indifferent_unbooted.keeps_acquire.bind
  intro _
  apply ((unbooted_onRig _).when _).bind
  intro _
  apply ((unbooted_tuned tuned_startStream).onError unbooted_release).bind
  intro _
  exact Action.Contract.update fun _ _ hd => hd

theorem unbooted_setStream (on : Bool) : Action.Keeps Unbooted (setStream on) :=
  keeps_setStream_of_switches (unbooted_beginStream.pre fun _ _ hd => Or.inl hd)
    (indifferent_unbooted.contract_endStream fun _ _ hd => hd) on

theorem unbooted_changeControls (controls : ControlSet) :
    Action.Keeps Unbooted (changeControls controls) :=
  Action.Contract.update fun _ _ hd => hd

theorem unbooted_selectMode (entry : Entry) : Action.Keeps Unbooted (selectMode entry) :=
  keeps_selectMode unbooted_changeControls (Action.Contract.update fun _ _ hd => hd)

theorem negotiable_unbooted : Negotiable Unbooted where
  scratch := indifferent_unbooted.keeps_changeScratch
  selectMode := fun _ => (unbooted_selectMode _).pre fun _ _ hd => hd.1

theorem tunable_unbooted : Tunable Unbooted Unbooted :=
  tunable_of_keeps unbooted_changeControls (unbooted_onRig _)
    (fun control => unbooted_tuned (tuned_push control)) unbooted_release

end Device

/-!
# Steps
-/

namespace Operation

theorem unbooted_perform (request : Operation) :
    Action.Keeps Device.Unbooted request.perform := by
  cases request with
  | powerOn => exact contract_complete Device.indifferent_unbooted.keeps_powerOn
  | powerOff =>
      exact contract_complete Device.indifferent_unbooted.contract_powerOff.anyFailure
  | setPower on => exact contract_complete (Device.indifferent_unbooted.keeps_setPower on)
  | setStream on => exact contract_complete (Device.unbooted_setStream on)
  | selectMode entry => exact contract_complete (Device.unbooted_selectMode entry)
  | applyControl control =>
      exact contract_complete (Device.tunable_unbooted.keeps_applyControl control)
  | command request =>
      exact (Device.negotiable_unbooted.keeps_command fun _ _ => Device.unbooted_onRig _).map
  | _ => exact keeps_perform Device.negotiable_unbooted trivial

/-- Where a request may lead beside the switch of the stream. -/
def registers (d : Device) : Operation -> List UInt16
  | .applyControl request => d.controls.registers d.mode request
  | _ => []

/-- What a request does that finds the set-up in use, unless it may take over. -/
theorem ended_perform {request : Operation} {d : Device}
    (hboot : d.session.fastBoot = true)
    (hstands : request = .setStream true -> d.session.streaming = false ->
      d.HandoffStands) :
    Action.Contract request.perform (fun log e => log = [] ∧ e = d)
      (fun _ => Device.Ended d.rig (request.registers d)
        (d.session.stoppedOnce || request.stops d.session.holders))
      (fun _ => Device.Ended d.rig (request.registers d)
        (d.session.stoppedOnce || request.stops d.session.holders)) := by
  have hended : forall {α : Type} {x : Action Device α} {registers : List UInt16},
      Action.Contract x (Device.Standing d.rig registers d.session.stoppedOnce)
        (fun _ => Device.Ended d.rig registers d.session.stoppedOnce)
        (fun _ => Device.Ended d.rig registers d.session.stoppedOnce) ->
      Action.Contract x (fun log e => log = [] ∧ e = d)
        (fun _ => Device.Ended d.rig registers (d.session.stoppedOnce || false))
        (fun _ => Device.Ended d.rig registers (d.session.stoppedOnce || false)) := by
    intro α x registers hx
    rw [Bool.or_false]
    apply hx.pre
    rintro _ _ ⟨rfl, rfl⟩
    exact Device.Standing.start registers hboot
  have hkeeps : forall {α : Type} {x : Action Device α} {registers : List UInt16},
      Action.Keeps (Device.Standing d.rig registers d.session.stoppedOnce) x ->
      Action.Contract x (fun log e => log = [] ∧ e = d)
        (fun _ => Device.Ended d.rig registers (d.session.stoppedOnce || false))
        (fun _ => Device.Ended d.rig registers (d.session.stoppedOnce || false)) :=
    fun hx => hended (Device.ended_of_relieved (Device.relieved_of_keeps hx))
  cases request with
  | powerOn => exact contract_complete (hkeeps Device.standing_powerOn)
  | powerOff => exact contract_complete (hended Device.ended_powerOff)
  | setPower on =>
      exact contract_complete (hended (Device.ended_of_relieved
        (Device.contract_setPower_standing on)))
  | setStream on =>
      apply contract_complete
      apply Device.ended_setStream on _ hboot
      intro hon
      exact hstands (congrArg Operation.setStream hon)
  | selectMode entry => exact contract_complete (hkeeps (Device.standing_selectMode entry))
  | applyControl control =>
      apply contract_complete
      show Action.Contract _ _ (fun _ => Device.Ended d.rig _ (_ || false))
        (fun _ => Device.Ended d.rig _ (_ || false))
      rw [Bool.or_false]
      apply Device.ended_of_relieved
      apply (Device.contract_applyControl_standing control).pre
      rintro _ _ ⟨rfl, rfl⟩
      exact ⟨Device.Standing.start _ hboot, rfl⟩
  | command request =>
      apply hkeeps
      exact (Device.negotiable_standing.keeps_command fun on _ =>
        Device.standing_discreet (Device.discreet_switchStream on)).map
  | _ => exact hkeeps (keeps_perform Device.negotiable_standing trivial)

end Operation

namespace Scenario

/-- Whatever happens around the device leaves supplies, lines and pins alone. -/
theorem Disturbance.restrained_happen (change : Disturbance) (registers : List UInt16)
    (rig : Rig) : forall e, e ∈ (change.happen.run rig).events -> e.Restrained registers := by
  have hmove : forall call move, forall e,
      e ∈ ((Rig.moveUsage call move).run rig).events -> e.Restrained registers := by
    intro call move e he
    cases hnext : move rig.usage with
    | ok next =>
        simp only [Rig.moveUsage, hnext, List.mem_singleton] at he
        rw [he]
        trivial
    | error kind => simp [Rig.moveUsage, hnext] at he
  cases change with
  | usage call =>
      cases call with
      | putNoIdle =>
          intro e he
          rw [List.mem_singleton.mp he]
          trivial
      | get =>
          rw [happen, Action.events_map]
          exact hmove _ _
      | getIfInUse =>
          rw [happen, Action.events_map]
          exact hmove _ _
      | put =>
          rw [happen, Action.events_map]
          exact hmove _ _
  | _ =>
      intro e he
      cases he

namespace Step

/-- Where a step may lead beside the switch of the stream. -/
def registers (d : Device) : Step -> List UInt16
  | .operation request => request.registers d
  | .setting kind value =>
      match Control.ofValue? kind value with
      | some request => (Operation.applyControl request).registers d
      | none => []
  | _ => []

theorem unbooted_perform {step : Step} (hfinal : step.isFinal = false) :
    Action.Keeps Device.Unbooted step.perform := by
  cases step with
  | operation request => exact request.unbooted_perform.map
  | setting kind value =>
      exact contract_setting kind value
        (fun request _ => Device.tunable_unbooted.keeps_applyControl request) fun _ _ hd => hd
  | disturbance change => exact Device.unbooted_onRig _
  | peek register => exact Action.Contract.look fun _ _ hd => hd
  | detach => cases hfinal

/-- What a step does that finds the set-up in use, unless it may take over. -/
theorem ended_perform {step : Step} {d : Device} (hfinal : step.isFinal = false)
    (hboot : d.session.fastBoot = true)
    (hstands : step = .operation (.setStream true) -> d.session.streaming = false ->
      d.HandoffStands) :
    Action.Contract step.perform (fun log e => log = [] ∧ e = d)
      (fun _ => Device.Ended d.rig (step.registers d)
        (d.session.stoppedOnce || step.stops d.session.holders))
      (fun _ => Device.Ended d.rig (step.registers d)
        (d.session.stoppedOnce || step.stops d.session.holders)) := by
  have hidle : forall registers, Device.Ended d.rig registers
      (d.session.stoppedOnce || false) [] d := by
    intro registers
    rw [Bool.or_false]
    exact Or.inl (Device.Standing.start registers hboot).resting
  cases step with
  | operation request =>
      exact (Operation.ended_perform hboot fun hrequest =>
        hstands (congrArg Step.operation hrequest)).map
  | setting kind value =>
      cases hvalue : Control.ofValue? kind value with
      | some request =>
          have hperform := @Operation.ended_perform (.applyControl request) d hboot
            fun hrequest => nomatch hrequest
          simp only [perform, registers, hvalue]
          exact hperform.map
      | none =>
          simp only [perform, hvalue]
          apply Action.Contract.pure
          rintro _ _ ⟨rfl, rfl⟩
          exact hidle _
  | disturbance change =>
      have hend : Device.Ended d.rig [] (d.session.stoppedOnce || false)
          (change.happen.run d.rig).events { d with rig := (change.happen.run d.rig).state } :=
        Or.inl ⟨hboot, (Bool.or_false _).symm, change.restrained_happen [] d.rig⟩
      apply Action.Contract.of_always
      rintro _ _ ⟨rfl, rfl⟩
      exact hend
  | peek register =>
      apply Action.Contract.look
      rintro _ _ ⟨rfl, rfl⟩
      exact hidle _
  | detach => cases hfinal

end Step

/-!
# Runs
-/

namespace Moment

/-- A start of the stream finds the board's report that the hand-over failed. -/
def TakesOver (m : Moment) : Prop :=
  m.step = .operation (.setStream true) ∧ m.before.session.streaming = false ∧
    m.before.rig.board.reportsHandoffFailure = true

theorem unbooted_after {m : Moment} (hfinal : m.step.isFinal = false)
    (hboot : m.before.session.fastBoot = false) : m.after.session.fastBoot = false := by
  have hend : Device.Unbooted ([] ++ m.events) m.after :=
    (Step.unbooted_perform hfinal).always hboot
  exact hend

theorem TakesOver.unbooted_after {m : Moment} (hover : m.TakesOver) :
    m.after.session.fastBoot = false := by
  rcases m with ⟨d, step⟩
  rcases hover with ⟨rfl, hidle, hreports⟩
  have hstart : Action.Contract (Step.operation (.setStream true)).perform
      (fun _ e => e = d) (fun _ => Device.Unbooted) (fun _ => Device.Unbooted) := by
    apply Step.contract_setStream
    apply Device.contract_setStream_on
    · rintro _ _ rfl
      exact hidle
    · apply Device.unbooted_beginStream.pre
      rintro _ _ rfl
      exact Or.inr hreports
  have hend : Device.Unbooted ([] ++ (Moment.mk d _).events) (Moment.mk d _).after :=
    hstart.always rfl
  exact hend

theorem ended {m : Moment} (hfinal : m.step.isFinal = false)
    (hboot : m.before.session.fastBoot = true) (hover : ¬ m.TakesOver) :
    Device.Ended m.before.rig (m.step.registers m.before)
      (m.before.session.stoppedOnce || m.stopsStream) m.events m.after := by
  have hstands : m.step = .operation (.setStream true) ->
      m.before.session.streaming = false -> m.before.HandoffStands := by
    intro hstep hidle _
    rw [← Bool.not_eq_true]
    intro hreports
    exact hover ⟨hstep, hidle, hreports⟩
  have hend : Device.Ended m.before.rig (m.step.registers m.before)
      (m.before.session.stoppedOnce || m.stopsStream) ([] ++ m.events) m.after :=
    (Step.ended_perform hfinal hboot hstands).always ⟨rfl, rfl⟩
  exact hend

/-- As long as the set-up is in use, the device knows whether a stream was stopped. -/
theorem stoppedOnce_after {m : Moment} (hfinal : m.step.isFinal = false)
    (hboot : m.after.session.fastBoot = true) :
    m.before.session.fastBoot = true ∧
      m.after.session.stoppedOnce = (m.before.session.stoppedOnce || m.stopsStream) := by
  -- a set-up that is in use now was in use before, and nobody has taken over
  have hbefore : m.before.session.fastBoot = true := by
    rw [← Bool.not_eq_false]
    intro hnone
    exact nomatch hboot.symm.trans (unbooted_after hfinal hnone)
  have hover : ¬ m.TakesOver := by
    intro hover
    exact nomatch hboot.symm.trans hover.unbooted_after
  rcases ended hfinal hbefore hover with hend | ⟨-, hend⟩
  · exact ⟨hbefore, hend.stopped⟩
  · exact nomatch hboot.symm.trans hend.boot

end Moment

/-- From a device on as long as it is not given up. -/
abbrev Going : Device -> Step -> Prop :=
  fun _ step => step.isFinal = false

section

variable {d e : Device} {history : List Moment}

theorem Run.unbooted_of_mem (hrun : Run Going d history e) {m : Moment} (hm : m ∈ history)
    (hboot : m.before.session.fastBoot = false) : e.session.fastBoot = false := by
  induction hrun with
  | start => cases hm
  | @next history e hrun step hfinal ih =>
      rcases List.mem_append.mp hm with hearlier | hlast
      · exact Moment.unbooted_after hfinal (ih hearlier)
      · rw [List.mem_singleton.mp hlast] at hboot
        exact Moment.unbooted_after (m := ⟨e, step⟩) hfinal hboot

theorem Run.stoppedOnce (hrun : Run Going d history e) (hfresh : d.session.stoppedOnce = false)
    (hboot : e.session.fastBoot = true) :
    e.session.stoppedOnce = history.any Moment.stopsStream := by
  induction hrun with
  | start => exact hfresh
  | @next history e hrun step hfinal ih =>
      rcases Moment.stoppedOnce_after hfinal hboot with ⟨hbefore, hafter⟩
      rw [hafter, ih hbefore, List.any_append]
      simp

end

/--
What a moment of a run does to a set-up that it finds in use: it leaves it alone,
or gives it up on the board's report or by a power-down.
-/
structure Moment.Respectful (earlier : List Moment) (m : Moment) : Prop where
  spared : m.before.session.fastBoot = true -> m.after.session.fastBoot = true ->
    forall event, event ∈ m.events -> event.Restrained (m.step.registers m.before)
  surrendered : m.before.session.fastBoot = true -> m.after.session.fastBoot = false ->
    m.TakesOver ∨
      (m.before.rig.PowersDownOnce m.events ∧
        (earlier ++ [m]).any Moment.stopsStream = true)

theorem Run.respectful {d e : Device} {earlier later : List Moment} {m : Moment}
    (hrun : Run Going d (earlier ++ m :: later) e) (hfresh : d.session.stoppedOnce = false) :
    m.Respectful earlier := by
  rcases hrun.before with ⟨hearlier, hfinal⟩
  constructor
  · intro hbefore hafter
    have hover : ¬ m.TakesOver := by
      intro hover
      exact nomatch hafter.symm.trans hover.unbooted_after
    rcases Moment.ended hfinal hbefore hover with hend | ⟨-, hend⟩
    · exact hend.restrained
    · exact nomatch hafter.symm.trans hend.boot
  · intro hbefore hafter
    by_cases hover : m.TakesOver
    · exact Or.inl hover
    · right
      rcases Moment.ended hfinal hbefore hover with hend | ⟨hstopped, hend⟩
      · exact nomatch hafter.symm.trans hend.boot
      · refine ⟨hend.powersDownOnce, ?_⟩
        -- the device has kept count of stopped streams up to this moment
        rw [hearlier.stoppedOnce hfresh hbefore] at hstopped
        simpa using hstopped

/--
A set-up in use when the device was attached is left alone until it is given up,
and once given up it never comes back.
-/
theorem respectful_of_run {c : Config} {rig : Rig} (hboot : c.fastBoot = true)
    {history : List Moment} {d : Device}
    (hrun : Run Going (Device.attach c rig).state history d) :
    (Device.attach c rig).state.session.fastBoot = true ∧
      (forall event, event ∈ (Device.attach c rig).events -> event.Restrained []) ∧
      (forall m, m ∈ history -> m.before.session.fastBoot = false ->
        d.session.fastBoot = false) ∧
      forall earlier m later, history = earlier ++ m :: later -> m.Respectful earlier := by
  have hstart := Device.standing_attach rig hboot
  refine ⟨hstart.boot, hstart.resting.restrained, fun m hm => hrun.unbooted_of_mem hm, ?_⟩
  rintro earlier m later rfl
  exact hrun.respectful hstart.stopped

/-- The set-up is given up with the first stream that is stopped. -/
theorem respectful_until_first_stop :
    exists history d,
      Run Going (Device.attach .booted .sound).state history d ∧
      history.map Moment.step =
        [.operation (.setStream true), .operation (.setStream false)] ∧
      d.session.fastBoot = false ∧
      forall earlier m later, history = earlier ++ m :: later -> m.Respectful earlier := by
  have hrun : Run Going (Device.attach .booted .sound).state _ _ :=
    Run.next (Run.next Run.start (.operation (.setStream true)) rfl)
      (.operation (.setStream false)) rfl
  exact ⟨_, _, hrun, rfl, rfl, (respectful_of_run rfl hrun).2.2.2⟩

end Scenario
end ImageSensor
