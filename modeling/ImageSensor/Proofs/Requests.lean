import ImageSensor.Proofs.Streams
import ImageSensor.Scenario

/-!
# Requests of every kind

What is kept when a mode is taken is kept by all requests that negotiate or
only ask.  Controls, modes and commands leave the holders as they are.  With
power and streams this makes one contract for the operations of the host, and
one for the steps of a scenario.
-/

namespace ImageSensor

/-!
# Modes of the catalog
-/

namespace Catalog

theorem nearest_mem {width height distance : UInt32} {best e : Entry}
    {rest : List Entry} (h : nearest width height best distance rest = .ok e) :
    e ∈ best :: rest := by
  induction rest generalizing best distance with
  | nil =>
      cases h
      exact List.mem_cons_self
  | cons entry rest ih =>
      unfold nearest at h
      cases hnext : entry.mode.distance width height with
      | error kind =>
          rw [hnext] at h
          cases h
      | ok next =>
          rw [hnext] at h
          change (if next < distance then _ else _) = _ at h
          split at h
          case isTrue => exact List.mem_cons_of_mem best (ih h)
          case isFalse =>
              rcases List.mem_cons.mp (ih h) with hbest | hrest
              · rw [hbest]
                exact List.mem_cons_self
              · exact List.mem_cons_of_mem best (List.mem_cons_of_mem entry hrest)

theorem bestFit_mem {width height : UInt32} {e : Entry}
    (h : bestFit width height = .ok e) : e ∈ entries := by
  unfold bestFit at h
  cases hfirst : first.mode.distance width height with
  | error kind =>
      rw [hfirst] at h
      cases h
  | ok distance =>
      rw [hfirst] at h
      exact nearest_mem h

end Catalog

/-!
# Negotiation

A mode is only ever taken from the catalog.
-/

namespace Device

/-- A device that may take a mode: the one it has, unless it does not stream. -/
def MayTake (I : Action.Assertion Device) (entry : Entry) (log : List Event)
    (d : Device) : Prop :=
  I log d ∧ (d.session.streaming = true -> d.session.entry = entry)

/-- An assertion that a host may negotiate under. -/
structure Negotiable (I : Action.Assertion Device) : Prop where
  scratch : forall format, Action.Keeps I
    (changeSession fun s => { s with scratchFormat := format })
  selectMode : forall {entry}, entry ∈ Catalog.entries ->
    Action.Contract (selectMode entry) (MayTake I entry) (fun _ => I) (fun _ => I)

section

variable {I : Action.Assertion Device}

/-- A mode is selected by changing the controls, and then the session. -/
theorem keeps_selectMode {entry : Entry}
    (hcontrols : forall controls, Action.Keeps I (changeControls controls))
    (hsession : Action.Keeps I (changeSession fun s =>
      { s with
        entry := entry
        programmed := s.programmed && decide (s.entry = entry)
        interval := entry.mode.interval
        frameLength := entry.mode.frameLength })) :
    Action.Keeps I (selectMode entry) := by
  apply Action.Keeps.inspect
  intro controls
  apply Action.Keeps.bind (Action.Contract.compute (fun _ _ hd _ _ => hd) fun _ _ _ hd => hd)
  intro applied
  exact (hcontrols applied.1).bind fun _ => hsession

theorem Negotiable.keeps_switchMode (hI : Negotiable I) {entry : Entry}
    (hentry : entry ∈ Catalog.entries) : Action.Keeps I (switchMode entry) := by
  apply Action.Contract.inspect
  intro session
  split
  case isTrue => exact Action.Contract.report fun _ _ hd => hd.1
  case isFalse hfree =>
      apply (hI.selectMode hentry).pre
      intro log d hd
      rcases hd with ⟨hd, hsession⟩
      refine ⟨hd, ?_⟩
      rw [hsession]
      intro hstreaming
      by_cases hsame : session.entry = entry
      · exact hsame
      · exact (hfree ⟨hstreaming, hsame⟩).elim

theorem keeps_require {β : Type} (found : Option β) :
    Action.Keeps I (require found) := by
  cases found with
  | some value => exact Action.Contract.pure fun _ _ hd => hd
  | none => exact Action.Contract.report fun _ _ hd => hd

theorem Negotiable.keeps_setFormat (hI : Negotiable I) (pad : UInt32)
    (target : FormatTarget) (width height : UInt32) :
    Action.Keeps I (setFormat pad target width height) := by
  apply Action.Contract.bind (M := fun entry log d => entry ∈ Catalog.entries ∧ I log d)
  · apply Action.Contract.compute
    · intro log d hd entry hentry
      exact ⟨Catalog.bestFit_mem hentry, hd⟩
    · intro _ _ _ hd
      exact hd
  intro entry
  apply Action.Contract.assuming
  intro hentry
  apply Action.Contract.bind (M := fun _ => I)
  · cases target with
    | scratch => exact hI.scratch (FrameFormat.ofMode entry.mode pad)
    | active => exact hI.keeps_switchMode hentry
  · intro _
    exact Action.Contract.pure fun _ _ hd => hd

theorem Negotiable.keeps_setMode (hI : Negotiable I) (width height : UInt32) :
    Action.Keeps I (setMode width height) := by
  apply Action.Contract.bind (hI.keeps_setFormat 0 .active width height)
  intro _
  exact Action.Contract.look fun _ _ hd => hd

theorem Negotiable.keeps_setHdr (hI : Negotiable I) (hdr : Hdr) :
    Action.Keeps I (setHdr hdr) := by
  apply Action.Contract.inspect
  intro mode
  cases hfind : Catalog.find? mode.width mode.height hdr with
  | none => exact Action.Contract.report fun _ _ hd => hd.1
  | some entry =>
      have hentry : entry ∈ Catalog.entries := List.mem_of_find?_eq_some hfind
      exact (hI.keeps_switchMode hentry).pre fun _ _ hd => hd.1

theorem Negotiable.keeps_command (hI : Negotiable I) {request : Command}
    (hquick : forall on, request = .setQuickStream on ->
      Action.Keeps I (switchStream on)) :
    Action.Keeps I (command request) := by
  cases request with
  | getModuleInfo => exact Action.Contract.look fun _ _ hd => hd
  | getHdrConfig => exact Action.Contract.look fun _ _ hd => hd
  | setHdrConfig hdr =>
      apply Action.Contract.bind (hI.keeps_setHdr hdr)
      intro _
      exact Action.Contract.pure fun _ _ hd => hd
  | setHdrExposure values => exact Action.Contract.pure fun _ _ hd => hd
  | setQuickStream on =>
      apply Action.Contract.bind (hquick on rfl)
      intro _
      exact Action.Contract.pure fun _ _ hd => hd

end
end Device

namespace Operation

theorem complete_eq_map (x : Action Device Unit) :
    complete x = (fun _ => Answer.done) <$> x :=
  (map_eq_pure_bind _ _).symm

theorem contract_complete {P I : Action.Assertion Device}
    {E : Failure -> Action.Assertion Device} {x : Action Device Unit}
    (hx : Action.Contract x P (fun _ => I) E) :
    Action.Contract (complete x) P (fun _ => I) E := by
  rw [complete_eq_map]
  exact hx.map

/-- The operation only asks, or negotiates a mode or a format. -/
def Negotiates : Operation -> Prop
  | .powerOn => False
  | .powerOff => False
  | .setPower _ => False
  | .setStream _ => False
  | .selectMode _ => False
  | .applyControl _ => False
  | .command _ => False
  | _ => True

theorem keeps_perform {I : Action.Assertion Device} (hI : Device.Negotiable I)
    {request : Operation} (hrequest : request.Negotiates) :
    Action.Keeps I request.perform := by
  cases request with
  | reopen => exact contract_complete (hI.scratch _)
  | setMode width height => exact (hI.keeps_setMode width height).map
  | value kind => exact Action.Contract.look fun _ _ hd => hd
  | range kind => exact Action.Contract.look fun _ _ hd => hd
  | frameInterval => exact Action.Contract.look fun _ _ hd => hd
  | mediaCode index =>
      apply Action.Contract.inspect
      intro device
      apply Action.Contract.map
      exact (Device.keeps_require _).pre fun _ _ hd => hd.1
  | frameSize index format => exact (Device.keeps_require _).map
  | frameIntervalAt index => exact (Device.keeps_require _).map
  | getFormat pad target => exact Action.Contract.look fun _ _ hd => hd
  | setFormat pad target width height =>
      exact (hI.keeps_setFormat pad target width height).map
  | linkConfig pad => exact Action.Contract.look fun _ _ hd => hd
  | _ => exact hrequest.elim

end Operation

namespace Device

variable {w : Watch} {n : Nat} {h : Holders} {α : Type}

/-!
# Controls
-/

theorem Conducted.changeControls {log : List Event} {d : Device}
    (hd : Conducted w n h log d) (controls : ControlSet) :
    Conducted w n h log { d with controls := controls } :=
  ⟨hd.users, hd.active, hd.programmed, hd.holders, hd.boot, hd.streamed, hd.lines,
    hd.leads, hd.steady⟩

theorem contract_changeControls (controls : ControlSet) :
    Action.Contract (changeControls controls) (Conducted w n h)
      (fun _ => Conducted w n h) Action.never :=
  Action.Contract.update fun _ _ hd => hd.changeControls controls

/--
An assertion that controls may be asked for under, and one for while there is
the user that is added for that.
-/
structure Tunable (I J : Action.Assertion Device) : Prop where
  changeControls : forall controls, Action.Keeps I (changeControls controls)
  getIfInUse : Action.Contract (onRig Rig.getIfInUse) I
    (fun inUse log d => if inUse then J log d else I log d) (fun _ => I)
  pushStored : forall request stored, Action.Keeps J (pushStored request stored)
  release : Action.Contract release J (fun _ => I) (fun _ => I)

section

variable {I J : Action.Assertion Device}

theorem Tunable.contract_deliver (hI : Tunable I J) (before : ControlSet)
    (request : Control) (stored : ControlSet × Bool) :
    Action.Contract (deliver before request stored) J (fun _ => I) (fun _ => I) := by
  have hpush := (tuned_pushStored request stored).reports (hI.pushStored request stored)
  apply Action.Contract.onError (F := fun _ => I)
  · apply Action.Contract.ensuring hpush
    · intro _
      exact hI.release
    · intro _
      exact hI.release
    · intro _ _ _ hfalse
      exact hfalse.elim
  · intro _
    exact hI.changeControls before
  · intro _ _ _ hd
    exact hd

/-- A control is put into the sensor only where there was a user already. -/
theorem Tunable.keeps_applyControl (hI : Tunable I J) (request : Control) :
    Action.Keeps I (applyControl request) := by
  apply Action.Keeps.inspect
  intro before
  apply Action.Keeps.inspect
  intro mode
  split
  case isTrue =>
      apply Action.Keeps.bind
        (Action.Contract.compute (fun _ _ hd _ _ => hd) fun _ _ _ hd => hd)
      intro stored
      apply (hI.changeControls stored.1).bind
      intro _
      apply Action.Contract.bind hI.getIfInUse
      intro inUse
      cases inUse with
      | true => exact hI.contract_deliver before request stored
      | false => exact Action.Keeps.pure ()
  case isFalse => exact Action.Contract.report fun _ _ hd => hd

end

/-- Where the added user is of no interest it is enough to keep one assertion. -/
theorem tunable_of_keeps {I : Action.Assertion Device}
    (hcontrols : forall controls, Action.Keeps I (changeControls controls))
    (hget : Action.Keeps I (onRig Rig.getIfInUse))
    (hpush : forall control, Action.Keeps I (push control))
    (hrelease : Action.Keeps I release) : Tunable I I where
  changeControls := hcontrols
  getIfInUse := by
    apply hget.post
    intro inUse _ _ hd
    cases inUse <;> exact hd
  pushStored := by
    intro request stored
    rcases stored with ⟨controls, moved⟩
    cases moved with
    | false => exact hpush request
    | true => exact (hpush request).both (hpush _)
  release := hrelease

theorem tunable_conducted :
    Tunable (Conducted w n h) fun log d => 0 < n ∧ Conducted w (n + 1) h log d where
  changeControls := fun controls => (contract_changeControls controls).anyFailure
  getIfInUse := contract_getIfInUse
  pushStored := by
    intro request stored
    apply Action.Contract.assuming
    intro hn
    apply (contract_tuned (tuned_pushStored request stored)).consequence
    · intro _ _ hd
      exact hd
    · intro _ _ _ hd
      exact ⟨hn, hd⟩
    · intro e _ _ hd
      cases e with
      | reported e => exact ⟨hn, hd⟩
      | overflow kind => exact hd.elim
  release := by
    apply Action.Contract.assuming
    intro hn
    have hrelease := contract_release (w := w) (n := n) (h := h)
      (fun hzero => absurd hzero (Nat.ne_of_gt hn))
      (fun hzero => absurd hzero (Nat.ne_of_gt hn))
    rw [Holders.released_of_users hn] at hrelease
    exact hrelease.anyFailure

theorem keeps_applyControl (request : Control) :
    Action.Keeps (Conducted w n h) (applyControl request) :=
  tunable_conducted.keeps_applyControl request

/-!
# Modes
-/

theorem contract_selectMode (entry : Entry) :
    Action.Contract (selectMode entry) (MayTake (Conducted w n h) entry)
      (fun _ => Conducted w n h) (fun _ => Conducted w n h) := by
  apply Action.Contract.inspect
  intro controls
  apply Action.Contract.bind (M := fun _ => MayTake (Conducted w n h) entry)
    (Action.Contract.compute (fun _ _ hd _ _ => hd.1) fun _ _ _ hd => hd.1.1)
  intro applied
  apply Action.Contract.bind (M := fun _ => MayTake (Conducted w n h) entry)
    (Action.Contract.update fun _ _ hd => ⟨hd.1.changeControls applied.1, hd.2⟩)
  intro _
  apply Action.Contract.update
  intro log d hd
  rcases hd with ⟨hd, hentry⟩
  refine ⟨hd.users, hd.active, ?_, hd.holders, hd.boot, ?_, hd.lines, hd.leads,
    hd.steady⟩
  · intro hprogrammed
    exact hd.programmed (Bool.and_eq_true_iff.mp hprogrammed).1
  · intro hn hstream hboot
    show (d.session.programmed && decide (d.session.entry = entry)) = true
    rw [hd.streamed hn hstream hboot, hentry (hd.streaming.trans hstream)]
    simp

theorem negotiable_conducted : Negotiable (Conducted w n h) where
  scratch := by
    intro format
    apply Action.Contract.update
    intro _ _ hd
    exact ⟨hd.users, hd.active, hd.programmed, hd.holders, hd.boot, hd.streamed,
      hd.lines, hd.leads, hd.steady⟩
  selectMode := fun _ => contract_selectMode _

/-!
# Commands

The quick switch of the stream asks nobody for power, so the bus must not be
guarded.
-/

theorem keeps_onBus_unguarded {x : Action Bus α} (hx : Action.Obeys Bus.Active x)
    (hguarded : w.guarded = false) : Action.Keeps (Conducted w n h) (onBus x) := by
  apply Action.Contract.of_always
  intro log d hd
  have hes := (hx d.rig.bus).1
  rw [run_onBus]
  refine ⟨hd.users, hd.active, hd.programmed, hd.holders, hd.boot, hd.streamed,
    hd.lines, ⟨?_, ?_⟩, ?_⟩
  · rw [Levels.afterAll_append, hd.leads.1, Levels.afterAll_of_busActivity hes]
    rfl
  · intro hguards
    exact nomatch hguarded.symm.trans hguards
  · intro hheld e he
    rcases List.mem_append.mp he with he | he
    · exact hd.steady hheld e he
    · exact Event.isPowerDown_of_busActivity (hes e he)

theorem keeps_command (request : Command)
    (hquick : forall on, request = .setQuickStream on -> w.guarded = false) :
    Action.Keeps (Conducted w n h) (command request) := by
  apply negotiable_conducted.keeps_command
  intro on hrequest
  exact keeps_onBus_unguarded (Bus.active_write _ _ _) (hquick on hrequest)

end Device

/-!
# Operations
-/

namespace Operation

/-- What has to hold for the contract of an operation. -/
def Orderly (w : Watch) (h : Holders) : Operation -> Prop
  | .powerOn => False
  | .powerOff => False
  | .setPower on => on = false -> w.held = false
  | .setStream on =>
      on = false -> h.stream = true -> h.boot = true -> h.stopped = false
  | .selectMode _ => h.stream = false
  | .command request =>
      forall on, request = .setQuickStream on -> w.guarded = false
  | _ => True

/-- Whether a stream is stopped. -/
def stops (h : Holders) : Operation -> Bool
  | .setStream on => !on && h.stream
  | _ => false

variable {w : Watch} {h : Holders} {α : Type}

/-- An action that keeps the holders follows them. -/
theorem contract_keeping {x : Action Device α}
    (hx : Action.Keeps (Device.Conducted w h.users h) x) :
    Action.Contract x (fun log d => Device.Settled w h log d ∧ d.HandoffStands)
      (fun _ => Device.Followed w h false) (fun _ => Device.Followed w h false) := by
  apply hx.consequence
  · intro _ _ hd
    exact hd.1
  · intro _ _ _ hd
    exact Device.Settled.followed hd
  · intro _ _ _ hd
    exact Device.Settled.followed hd

theorem contract_perform (request : Operation) (horderly : request.Orderly w h)
    (hheld : w.held = true -> h.host = true) :
    Action.Contract request.perform
      (fun log d => Device.Settled w h log d ∧ d.HandoffStands)
      (fun _ => Device.Followed w h (request.stops h))
      (fun _ => Device.Followed w h (request.stops h)) := by
  cases request with
  | powerOn => exact horderly.elim
  | powerOff => exact horderly.elim
  | setPower on =>
      apply contract_complete
      exact (Device.contract_setPower on hheld horderly).pre fun _ _ hd => hd.1
  | setStream on =>
      apply contract_complete
      exact Device.contract_setStream on horderly hheld
  | selectMode entry =>
      apply contract_complete
      apply contract_keeping
      apply (Device.contract_selectMode entry).pre
      intro _ _ hd
      refine ⟨hd, ?_⟩
      intro hstream
      exact nomatch horderly.symm.trans (hd.streaming.symm.trans hstream)
  | applyControl request =>
      exact contract_complete (contract_keeping (Device.keeps_applyControl request))
  | command request =>
      exact (contract_keeping (Device.keeps_command request horderly)).map
  | _ => exact contract_keeping (keeps_perform Device.negotiable_conducted trivial)

end Operation

/-!
# Steps

The surroundings may change behind the back of the device, as long as nobody
else moves the usage count.
-/

namespace Scenario
namespace Step

def Orderly (w : Watch) (h : Holders) : Step -> Prop
  | .operation request => request.Orderly w h
  | .disturbance (.usage _) => False
  | .detach => False
  | _ => True

/-- Whether a stream is stopped. -/
def stops (h : Holders) : Step -> Bool
  | .operation request => request.stops h
  | _ => false

variable {w : Watch} {n : Nat} {h : Holders}

theorem run_happen (change : Disturbance)
    (hchange : forall call, change ≠ .usage call) (rig : Rig) :
    exists bus board,
      change.happen.run rig =
        ⟨.ok (.answer .done), { rig with bus := bus, board := board }, []⟩ := by
  cases change with
  | load registers => exact ⟨_, _, rfl⟩
  | fail faults board => exact ⟨_, _, rfl⟩
  | heal => exact ⟨_, _, rfl⟩
  | usage call => exact (hchange call rfl).elim

theorem keeps_disturb (change : Disturbance)
    (hchange : forall call, change ≠ .usage call) :
    Action.Keeps (Device.Conducted w n h) (Device.onRig change.happen) := by
  intro log d hd
  rcases run_happen change hchange d.rig with ⟨bus, board, hrun⟩
  rw [Device.run_onRig, hrun, List.append_nil]
  exact ⟨hd.users, hd.active, hd.programmed, hd.holders, hd.boot, hd.streamed,
    hd.lines, hd.leads, hd.steady⟩

/-- The control that a step asks for, if it asks for one. -/
def request? : Step -> Option Control
  | .operation (.applyControl request) => some request
  | .setting kind value => Control.ofValue? kind value
  | _ => none

theorem perform_of_request {step : Step} {control : Control}
    (h : step.request? = some control) :
    step.perform =
      Reply.answer <$> (fun _ => Operation.Answer.done) <$> Device.applyControl control := by
  rw [← Operation.complete_eq_map]
  cases step with
  | operation request =>
      cases request with
      | applyControl control =>
          cases h
          rfl
      | _ => cases h
  | setting kind value =>
      change Control.ofValue? kind value = some control at h
      simp only [perform, h]
      rfl
  | _ => cases h

/-- A control named by number is asked for like any other, or not at all. -/
theorem contract_setting {P I : Action.Assertion Device} (kind : Control.Kind)
    (value : UInt32)
    (happly : forall request, Control.ofValue? kind value = some request ->
      Action.Contract (Device.applyControl request) P (fun _ => I) (fun _ => I))
    (hnone : forall log d, P log d -> I log d) :
    Action.Contract (Step.setting kind value).perform P (fun _ => I) (fun _ => I) := by
  cases hvalue : Control.ofValue? kind value with
  | some request =>
      simp only [perform, hvalue]
      exact (Operation.contract_complete (happly request hvalue)).map
  | none =>
      simp only [perform, hvalue]
      exact Action.Contract.pure hnone

theorem contract_setPower {P I : Action.Assertion Device} {on : Bool}
    (hset : Action.Contract (Device.setPower on) P (fun _ => I) (fun _ => I)) :
    Action.Contract (Step.operation (.setPower on)).perform P (fun _ => I) (fun _ => I) :=
  (Operation.contract_complete hset).map

theorem contract_setStream {P I : Action.Assertion Device}
    {E : Failure -> Action.Assertion Device} {on : Bool}
    (hset : Action.Contract (Device.setStream on) P (fun _ => I) E) :
    Action.Contract (Step.operation (.setStream on)).perform P (fun _ => I) E :=
  (Operation.contract_complete hset).map

theorem contract_perform_step (step : Step) (horderly : step.Orderly w h)
    (hheld : w.held = true -> h.host = true) :
    Action.Contract step.perform
      (fun log d => Device.Settled w h log d ∧ d.HandoffStands)
      (fun _ => Device.Followed w h (step.stops h))
      (fun _ => Device.Followed w h (step.stops h)) := by
  cases step with
  | operation request => exact (request.contract_perform horderly hheld).map
  | setting kind value =>
      apply Operation.contract_keeping
      exact contract_setting kind value (fun request _ => Device.keeps_applyControl request)
        fun _ _ hd => hd
  | disturbance change =>
      apply Operation.contract_keeping
      apply keeps_disturb
      intro call hcall
      subst hcall
      exact horderly
  | peek register =>
      exact Operation.contract_keeping (Action.Contract.look fun _ _ hd => hd)
  | detach => exact horderly.elim

end Step
end Scenario
end ImageSensor
