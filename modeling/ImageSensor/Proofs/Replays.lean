import ImageSensor.Proofs.Accounting
import ImageSensor.Proofs.Imprint
import ImageSensor.Proofs.Occupied
import ImageSensor.Proofs.Selection

/-!
# The program in the sensor

A configured sensor has had the program of its mode replayed to its end since
it was powered up.  That is all the session remembers: a later start that
breaks off inside the program leaves the sensor half rewritten, but it still
counts as configured.  So the last replay is known to be complete while the
sensor streams, and after that only until one breaks off.
-/

namespace ImageSensor

/-- A replay comes to its end exactly if none of its transfers fails. -/
theorem Program.clean_replay_iff (p : Program) (b : Bus) :
    Clean ((replay p).run b).events <-> ((replay p).run b).result = .ok () := by
  have hstrict := p.strict_replay [] b clean_nil
  have hreplay := p.contract_replay b.file [] b fun _ => rfl
  cases hres : ((replay p).run b).result with
  | ok _ =>
      rw [hres] at hstrict
      exact ⟨fun _ => rfl, fun _ => hstrict⟩
  | error failure =>
      rw [hres] at hreplay
      exact ⟨fun hclean => (hreplay hclean).elim, fun hok => nomatch hok⟩

/-- A replay of the program of a mode, and whether all its transfers succeeded. -/
structure Replay where
  entry : Entry
  complete : Bool
deriving DecidableEq

namespace Device

/-!
# Replays
-/

/-- What a start of a stream does before it comes to the program. -/
def admitStream : Action Device Unit := do
  let surplus <- takeOverIfNeeded
  acquire
  Action.when surplus (onRig Rig.putNoIdle)

def replayMode : Action Device Unit := do
  let program <- Action.inspect fun d => d.mode.program
  onBus (Program.replay program)

/-- The replay that the start of a stream comes to, if it does. -/
def replayOutcome? (d : Device) : Option (Outcome Device Unit) :=
  let admitted := admitStream.run d
  match admitted.result with
  | .error _ => none
  | .ok () =>
      if admitted.state.session.fastBoot then none
      else some (replayMode.run admitted.state)

def replay? (d : Device) : Option Replay :=
  d.replayOutcome?.map fun o => ⟨o.state.session.entry, decide (Clean o.events)⟩

theorem beginStream_eq :
    beginStream = (admitStream >>= fun _ =>
      Action.onError startStream release >>= fun _ =>
        changeSession fun s => { s with streaming := true }) := by
  simp only [beginStream, admitStream, bind_assoc]

theorem run_replayMode (d : Device) :
    replayMode.run d = (onBus (Program.replay d.mode.program)).run d := by
  rw [replayMode, Action.run_bind_of_ok rfl]
  rfl

theorem clean_replayMode_iff (d : Device) :
    Clean (replayMode.run d).events <-> (replayMode.run d).result = .ok () := by
  rw [run_replayMode]
  exact d.mode.program.clean_replay_iff d.rig.bus

theorem loadMode_eq :
    loadMode = (replayMode >>= fun _ =>
      changeSession (fun s => { s with programmed := true }) >>= fun _ =>
        Action.inspect (fun d => d.controls.snapshot) >>= pushAll) := by
  simp only [loadMode, replayMode, bind_assoc]

theorem startStream_eq {d : Device} (hboot : d.session.fastBoot = false) :
    startStream.run d = (loadMode >>= fun _ => switchStream true).run d := by
  simp [startStream, Action.run_bind, hboot]

theorem run_admitStream {d : Device} (hboot : d.session.fastBoot = false) :
    admitStream.run d = acquire.run d := by
  have hstands : d.HandoffStands := fun hfast => nomatch hboot.symm.trans hfast
  rw [admitStream, Action.run_bind, run_takeOverIfNeeded hstands]
  show (acquire >>= fun _ => pure ()).run d = _
  rw [bind_pure_unit]

/-!
# What a request leaves of a program

A program that counts as replayed was so before the request, unless the request
comes to a replay of its own.  The sensor has been in use all the while, so it
was not powered up again.
-/

structure Retains (b : Device) (log : List Event) (d : Device) : Prop where
  programmed : d.session.programmed = true ->
    b.session.programmed = true ∧ d.session.entry = b.session.entry ∧
      0 < d.rig.usage.count.toNat ∧ Event.suppliesOn true ∉ log
  streaming : d.session.streaming = true -> b.session.streaming = true

/-- Nothing counts as replayed, so the sensor may be powered up. -/
structure Unloaded (b : Device) (_ : List Event) (d : Device) : Prop where
  programmed : d.session.programmed = false
  streaming : d.session.streaming = true -> b.session.streaming = true

theorem Retains.refl {b : Device}
    (h : b.session.programmed = true -> 0 < b.rig.usage.count.toNat) : Retains b [] b :=
  ⟨fun hprogrammed => ⟨hprogrammed, rfl, h hprogrammed, List.not_mem_nil⟩,
    fun hstreaming => hstreaming⟩

section

variable {b : Device} {log : List Event} {d : Device} {α : Type}

theorem Unloaded.retains (hd : Unloaded b log d) : Retains b log d where
  programmed := fun hprogrammed => nomatch hd.programmed.symm.trans hprogrammed
  streaming := hd.streaming

theorem Retains.onward (hd : Retains b log d) {es : List Event} {d' : Device}
    (hprogrammed : d'.session.programmed = true ->
      d.session.programmed = true ∧ d'.session.entry = d.session.entry)
    (hstreaming : d'.session.streaming = true -> d.session.streaming = true)
    (husers : 0 < d.rig.usage.count.toNat -> 0 < d'.rig.usage.count.toNat)
    (hes : Event.suppliesOn true ∉ es) : Retains b (log ++ es) d' := by
  refine ⟨?_, fun hstream => hd.streaming (hstreaming hstream)⟩
  intro hloaded
  rcases hprogrammed hloaded with ⟨hbefore, hsame⟩
  rcases hd.programmed hbefore with ⟨hb, hentry, hpos, hlog⟩
  refine ⟨hb, hsame.trans hentry, husers hpos, ?_⟩
  rw [List.mem_append, not_or]
  exact ⟨hlog, hes⟩

theorem Retains.moved (hd : Retains b log d) {usage : UsageCount}
    (husers : 0 < d.rig.usage.count.toNat -> 0 < usage.count.toNat) (call : UsageCall)
    (answer : Option Bool) (count : UInt32) :
    Retains b (log ++ [.usage call answer count])
      { d with rig := { d.rig with usage := usage } } := by
  refine hd.onward ?_ ?_ husers ?_
  · exact fun hprogrammed => ⟨hprogrammed, rfl⟩
  · exact fun hstreaming => hstreaming
  · simp

theorem retains_changeSession {f : Session -> Session}
    (hprogrammed : forall s, (f s).programmed = true ->
      s.programmed = true ∧ (f s).entry = s.entry)
    (hstreaming : forall s, (f s).streaming = true -> s.streaming = true) :
    Action.Keeps (Retains b) (changeSession f) := by
  intro log d hd
  exact hd.onward (hprogrammed d.session) (hstreaming d.session) (fun hpos => hpos)
    List.not_mem_nil

theorem retains_changeControls (controls : ControlSet) :
    Action.Keeps (Retains b) (changeControls controls) :=
  Action.Contract.update fun _ _ hd => ⟨hd.programmed, hd.streaming⟩

theorem retains_tuned {x : Action Device α} (hx : Action.Obeys Tuned x)
    (hrecalls : Action.Obeys Recalls x) : Action.Keeps (Retains b) x := by
  apply Action.Contract.of_always
  intro log d hd
  rcases (hx d).1 with ⟨⟨bus, programmed, frameLength, orientation, hstate⟩, -, hes⟩
  have hsame : (x.run d).state.session.programmed = d.session.programmed := (hrecalls d).1
  apply hd.onward
  · intro hprogrammed
    refine ⟨hsame.symm.trans hprogrammed, ?_⟩
    rw [hstate]
    rfl
  · rw [hstate]
    exact fun hstreaming => hstreaming
  · rw [hstate]
    exact fun hpos => hpos
  · intro hmem
    exact nomatch hes _ hmem

theorem retains_onBus {x : Action Bus α} (hx : Action.Obeys Bus.Active x) :
    Action.Keeps (Retains b) (onBus x) :=
  retains_tuned (tuned_onBus hx) (recalls_onBus hx)

theorem retains_push (control : Control) : Action.Keeps (Retains b) (push control) :=
  retains_tuned (tuned_push control) (recalls_push control)

theorem retains_switchStream (on : Bool) : Action.Keeps (Retains b) (switchStream on) :=
  retains_onBus (Bus.active_write _ _ _)

/-!
# Power and users
-/

theorem unloaded_onRig (x : Action Rig α) : Action.Keeps (Unloaded b) (onRig x) :=
  Action.Contract.of_always fun _ _ hd => ⟨hd.programmed, hd.streaming⟩

theorem unloaded_powerOn : Action.Keeps (Unloaded b) powerOn := by
  apply Action.Keeps.inspect
  intro device
  apply (unloaded_onRig _).bind
  intro _
  have hrails : Action.Keeps (Unloaded b) raiseRails :=
    Action.Keeps.inspect fun _ => unloaded_onRig _
  apply (hrails.when _).bind
  intro _
  exact Action.Contract.update fun _ _ hd => ⟨hd.programmed, hd.streaming⟩

/-- A power-down forgets the program. -/
theorem unloaded_powerOff :
    Action.Contract powerOff
      (fun _ d => d.session.streaming = true -> b.session.streaming = true)
      (fun _ => Unloaded b) (fun _ => Unloaded b) := by
  apply Action.Contract.bind
    (M := fun _ _ d => d.session.streaming = true -> b.session.streaming = true)
  · exact fun _ _ hd => hd
  intro _
  apply Action.Contract.bind (M := fun _ => Unloaded b)
    (Action.Contract.update fun _ _ hd => ⟨rfl, hd⟩)
  intro _
  apply Action.Keeps.inspect
  intro session
  split
  case isTrue => exact Action.Keeps.pure ()
  case isFalse =>
      have hgiven : Action.Keeps (Unloaded b)
          (changeSession fun s => { s with fastBoot := false, stoppedOnce := false }) :=
        Action.Contract.update fun _ _ hd => ⟨hd.programmed, hd.streaming⟩
      exact (hgiven.when _).bind fun _ => unloaded_onRig _

/-- Only a device that nobody used is powered up for its new user. -/
theorem retains_get :
    Action.Contract (onRig Rig.get) (Retains b)
      (fun first log d => if first then Unloaded b log d else Retains b log d)
      (fun _ => Retains b) := by
  intro log d hd
  rw [run_onRig]
  rcases Rig.run_get_cases d.rig with ⟨kind, hget⟩ | ⟨usage, hcount, hget⟩
  · rw [hget, List.append_nil]
    exact hd
  · rw [hget]
    by_cases hzero : d.rig.usage.count.toNat = 0
    · simp only [hzero, decide_true, if_true]
      refine ⟨?_, hd.streaming⟩
      rw [Bool.eq_false_iff]
      intro hprogrammed
      exact Nat.ne_of_gt (hd.programmed hprogrammed).2.2.1 hzero
    · simp only [hzero, decide_false, Bool.false_eq_true, if_false]
      exact hd.moved (fun _ => by omega) _ _ _

theorem retains_acquire : Action.Keeps (Retains b) acquire := by
  apply Action.Contract.bind retains_get
  intro first
  cases first with
  | true =>
      have hpower := unloaded_powerOn.onError (unloaded_onRig (b := b) Rig.putNoIdle)
      exact hpower.consequence (fun _ _ hd => hd) (fun _ _ _ hd => hd.retains)
        fun _ _ _ hd => hd.retains
  | false => exact Action.Keeps.pure ()

/-- The last user takes the program along. -/
theorem retains_release : Action.Keeps (Retains b) release := by
  apply Action.Contract.bind (M := fun last log d =>
    if last then (d.session.streaming = true -> b.session.streaming = true)
    else Retains b log d)
  · intro log d hd
    cases hcount : d.rig.usage.count.toNat with
    | zero =>
        have hzero : d.rig.usage.count = 0 := UInt32.toNat_inj.mp hcount
        rw [run_onRig, Rig.run_put_of_idle hzero]
        exact hd.moved (fun hpos => hpos) _ _ _
    | succ n =>
        rcases Rig.run_put hcount with ⟨usage, hnext, hput⟩
        rw [run_onRig, hput]
        by_cases hlast : n = 0
        · simp only [hlast, decide_true, if_true]
          exact hd.streaming
        · simp only [hlast, decide_false, Bool.false_eq_true, if_false]
          exact hd.moved (fun _ => by omega) _ _ _
  · intro last
    cases last with
    | true =>
        exact unloaded_powerOff.consequence (fun _ _ hd => hd) (fun _ _ _ hd => hd.retains)
          fun _ _ _ hd => hd.retains
    | false => exact Action.Keeps.pure ()

theorem retains_getIfInUse : Action.Keeps (Retains b) (onRig Rig.getIfInUse) := by
  intro log d hd
  rw [run_onRig]
  rcases Rig.run_getIfInUse_cases d.rig with
    ⟨-, kind, hget⟩ | ⟨-, hget⟩ | ⟨usage, -, hcount, hget⟩
  · rw [hget, List.append_nil]
    exact hd
  · rw [hget]
    exact hd.moved (fun hpos => hpos) _ _ _
  · rw [hget]
    exact hd.moved (fun _ => by omega) _ _ _

/-!
# Requests
-/

theorem retains_setPower (on : Bool) : Action.Keeps (Retains b) (setPower on) := by
  have hhost : forall on, Action.Keeps (Retains b)
      (changeSession fun s => { s with hostPower := on }) :=
    fun on => retains_changeSession (fun _ hprogrammed => ⟨hprogrammed, rfl⟩)
      fun _ hstreaming => hstreaming
  exact keeps_setPower_of_users retains_acquire retains_release hhost on

theorem retains_endStream : Action.Keeps (Retains b) endStream := by
  have hleave : Action.Keeps (Retains b) leaveBootStage :=
    (retains_changeSession (f := fun s => { s with stoppedOnce := true })
      (fun _ hprogrammed => ⟨hprogrammed, rfl⟩) fun _ hstreaming => hstreaming).bind
        fun _ => retains_release
  apply Action.Keeps.ensuring
  · apply Action.Keeps.inspect
    intro session
    exact (hleave.when _).bind fun _ => retains_switchStream false
  · apply retains_release.bind
    intro _
    exact retains_changeSession (fun _ hprogrammed => ⟨hprogrammed, rfl⟩)
      fun _ hstreaming => nomatch hstreaming

theorem tunable_retains : Tunable (Retains b) (Retains b) :=
  tunable_of_keeps retains_changeControls retains_getIfInUse retains_push retains_release

/-- A mode that is selected anew may keep its program, another one has none. -/
theorem retains_selectMode (entry : Entry) : Action.Keeps (Retains b) (selectMode entry) := by
  apply keeps_selectMode retains_changeControls
  apply retains_changeSession
  · intro s hprogrammed
    rcases Bool.and_eq_true_iff.mp hprogrammed with ⟨hbefore, hsame⟩
    exact ⟨hbefore, (of_decide_eq_true hsame).symm⟩
  · exact fun _ hstreaming => hstreaming

theorem negotiable_retains : Negotiable (Retains b) where
  scratch := fun _ => retains_changeSession (fun _ hprogrammed => ⟨hprogrammed, rfl⟩)
    fun _ hstreaming => hstreaming
  selectMode := fun _ => (retains_selectMode _).pre fun _ _ hd => hd.1

/-!
# Starts
-/

/-- The device has this mode, and no boot stage. -/
def Plain (e : Entry) : Action.Assertion Device :=
  fun _ d => d.session.fastBoot = false ∧ d.session.entry = e

theorem indifferent_plain (e : Entry) : Indifferent (Plain e) where
  boot := fun hd => hd.1
  elsewhere := fun _ hd h => ⟨h.boot hd.1, h.entry.trans hd.2⟩

/-- A start whose replay fails ends there and gives its user back. -/
theorem run_startStream_of_replay_failed {d : Device} {failure : Failure}
    (hboot : d.session.fastBoot = false)
    (hfailed : (replayMode.run d).result = .error failure) :
    startStream.run d = ⟨.error failure, (replayMode.run d).state,
      (replayMode.run d).events⟩ := by
  have hload : loadMode.run d = ⟨.error failure, (replayMode.run d).state,
      (replayMode.run d).events⟩ := by
    rw [loadMode_eq, Action.run_bind_of_error hfailed]
  rw [startStream_eq hboot, Action.run_bind_error hload]

theorem retains_tryStream (hboot : d.session.fastBoot = false) (hd : Retains b log d)
    {failure : Failure} (hfailed : (replayMode.run d).result = .error failure) :
    Action.Contract (Action.onError startStream release)
      (fun earlier e => earlier = log ∧ e = d) (fun _ _ _ => False)
      (fun _ => Retains b) := by
  have hreplay : Action.Keeps (Retains b) replayMode :=
    Action.Keeps.inspect fun program => retains_onBus (Program.active_replay program)
  apply Action.Contract.onError (F := fun _ => Retains b)
  · rintro _ _ ⟨rfl, rfl⟩
    rw [run_startStream_of_replay_failed hboot hfailed]
    exact hreplay.always hd
  · intro _
    exact retains_release
  · intro _ _ _ hd
    exact hd

/-- A start replays the program of the mode to its end, or leaves what there was. -/
theorem replayed_or_retained (hboot : d.session.fastBoot = false) (hd : Retains b log d) :
    (d.replay? = some ⟨d.session.entry, true⟩ ∧
        (beginStream.run d).state.session.entry = d.session.entry) ∨
      (Retains b (log ++ (beginStream.run d).events) (beginStream.run d).state ∧
        forall r, r ∈ d.replay? -> r = ⟨d.session.entry, false⟩) := by
  have hkept : Retains b (log ++ (admitStream.run d).events) (admitStream.run d).state := by
    rw [run_admitStream hboot]
    exact retains_acquire.always hd
  have hplain : Plain d.session.entry log d := ⟨hboot, rfl⟩
  have hsame := (indifferent_plain d.session.entry).keeps_acquire.always hplain
  rw [← run_admitStream hboot] at hsame
  rcases hsame with ⟨hfast, hentry⟩
  cases hres : (admitStream.run d).result with
  | error failure =>
      right
      constructor
      · rw [beginStream_eq, Action.run_bind_of_error hres]
        exact hkept
      · simp [replay?, replayOutcome?, hres]
  | ok _ =>
      have hreplay : d.replay? = some ⟨d.session.entry,
          decide (Clean (replayMode.run (admitStream.run d).state).events)⟩ := by
        rw [← hentry]
        simp only [replay?, replayOutcome?, hres, hfast]
        rfl
      have hclean := clean_replayMode_iff (admitStream.run d).state
      cases hend : (replayMode.run (admitStream.run d).state).result with
      | ok _ =>
          left
          rw [hreplay, decide_eq_true (hclean.mpr hend)]
          have hchosen : Chosen (fun s => s.entry = d.session.entry) log d := rfl
          exact ⟨rfl, (chosen_beginStream fun _ hs => hs).always hchosen⟩
      | error failure =>
          right
          constructor
          · rw [beginStream_eq, Action.run_bind_of_ok hres, Outcome.events_after,
              Outcome.state_after, ← List.append_assoc]
            apply Action.Contract.always (Action.Contract.bind
              (retains_tryStream hfast hkept hend) fun _ _ _ hfalse => hfalse.elim)
            exact ⟨rfl, rfl⟩
          · have hunclean : ¬ Clean (replayMode.run (admitStream.run d).state).events :=
              fun h => nomatch hend.symm.trans (hclean.mp h)
            rw [hreplay, decide_eq_false hunclean]
            intro r hr
            exact (Option.some.inj hr).symm

end
end Device

/-!
# Steps
-/

theorem Operation.retains_perform {b d : Device} {request : Operation}
    (hattended : request.Attended d) (hstart : request ≠ .setStream true) :
    Action.Keeps (Device.Retains b) request.perform := by
  cases request with
  | powerOn => exact hattended.elim
  | powerOff => exact hattended.elim
  | setPower on => exact contract_complete (Device.retains_setPower on)
  | setStream on =>
      cases on with
      | true => exact (hstart rfl).elim
      | false =>
          apply contract_complete
          apply Action.Keeps.inspect
          intro session
          split
          case isTrue => exact Action.Keeps.pure ()
          case isFalse => exact Device.retains_endStream
  | selectMode entry => exact contract_complete (Device.retains_selectMode entry)
  | applyControl control =>
      exact contract_complete (Device.tunable_retains.keeps_applyControl control)
  | command request =>
      exact (Device.negotiable_retains.keeps_command fun on _ =>
        Device.retains_switchStream on).map
  | _ => exact keeps_perform Device.negotiable_retains trivial

namespace Scenario

theorem Step.retains_perform {b d : Device} {step : Step} (hattended : step.Attended d)
    (hstart : step ≠ .operation (.setStream true)) :
    Action.Keeps (Device.Retains b) step.perform := by
  cases step with
  | operation request =>
      exact (Operation.retains_perform hattended fun h => hstart (congrArg _ h)).map
  | setting kind value =>
      exact contract_setting kind value
        (fun request _ => Device.tunable_retains.keeps_applyControl request) fun _ _ hd => hd
  | disturbance change =>
      intro log d hd
      have hother : forall call, change ≠ .usage call := by
        intro call hcall
        subst hcall
        exact hattended
      rcases run_happen change hother d.rig with ⟨bus, board, hrun⟩
      simp only [perform]
      rw [Device.run_onRig, hrun, List.append_nil]
      exact ⟨hd.programmed, hd.streaming⟩
  | peek register => exact Action.Contract.look fun _ _ hd => hd
  | detach => exact hattended.elim

namespace Moment

/-- The replay that a step comes to, if it starts a stream. -/
def replay? (m : Moment) : Option Replay :=
  if m.step = .operation (.setStream true) ∧ m.before.session.streaming = false then
    m.before.replay?
  else
    none

def powersUp (m : Moment) : Bool :=
  decide (Event.suppliesOn true ∈ m.events)

theorem replay?_of_other {m : Moment} (hother : m.step ≠ .operation (.setStream true)) :
    m.replay? = none :=
  if_neg fun h => hother h.1

theorem run_start (d : Device) (hidle : d.session.streaming = false) :
    (Moment.mk d (.operation (.setStream true))).events = (Device.beginStream.run d).events ∧
      (Moment.mk d (.operation (.setStream true))).after = (Device.beginStream.run d).state := by
  simp [events, after, outcome, Step.perform, Operation.perform, Operation.complete_eq_map,
    Device.run_setStream_on hidle]

theorem run_start_again (d : Device) (hstream : d.session.streaming = true) :
    (Moment.mk d (.operation (.setStream true))).events = [] ∧
      (Moment.mk d (.operation (.setStream true))).after = d := by
  simp [events, after, outcome, Step.perform, Operation.perform, Operation.complete_eq_map,
    Device.run_setStream_same hstream]

theorem replayed_or_retained {m : Moment} (hattended : m.step.Attended m.before)
    (hboot : m.before.session.fastBoot = false)
    (hused : m.before.session.programmed = true -> 0 < m.before.rig.usage.count.toNat) :
    m.replay? = some ⟨m.after.session.entry, true⟩ ∨
      (Device.Retains m.before m.events m.after ∧
        forall r, r ∈ m.replay? -> r = ⟨m.before.session.entry, false⟩) := by
  have hstart := Device.Retains.refl hused
  rcases m with ⟨d, step⟩
  by_cases hstep : step = .operation (.setStream true)
  · subst hstep
    cases hstream : d.session.streaming with
    | true =>
        right
        rw [(run_start_again d hstream).1, (run_start_again d hstream).2]
        refine ⟨hstart, ?_⟩
        simp [replay?, hstream]
    | false =>
        have hreplay : replay? ⟨d, .operation (.setStream true)⟩ = d.replay? := by
          simp [replay?, hstream]
        rw [hreplay, (run_start d hstream).1, (run_start d hstream).2]
        rcases Device.replayed_or_retained hboot hstart with ⟨hsome, hentry⟩ | hretains
        · left
          rw [hentry]
          exact hsome
        · exact Or.inr hretains
  · right
    constructor
    · exact (Step.retains_perform hattended hstep).always hstart
    · rw [replay?_of_other hstep]
      exact fun _ hr => nomatch hr

end Moment

end Scenario

/-!
# Runs
-/

theorem Device.Settled.programmed_of_streaming {w : Watch} {h : Holders} {log : List Event}
    {d : Device} (hd : Settled w h log d) (hboot : h.boot = false)
    (hstreaming : d.session.streaming = true) : d.session.programmed = true := by
  have hstream : h.stream = true := hd.streaming.symm.trans hstreaming
  apply hd.streamed _ hstream hboot
  rw [Nat.pos_iff_ne_zero]
  intro husers
  exact nomatch hstream.symm.trans (Holders.stream_of_users husers)

theorem Session.powerState_eq_configured_iff {s : Session} {entry : Entry} :
    s.powerState = .configured entry <->
      s.streaming = false ∧ s.active = true ∧ s.programmed = true ∧ s.entry = entry := by
  unfold powerState
  cases s.streaming <;> cases s.active <;> cases s.programmed <;> simp

theorem Session.powerState_eq_streaming_iff {s : Session} {entry : Entry} :
    s.powerState = .streaming entry <-> s.streaming = true ∧ s.entry = entry := by
  unfold powerState
  cases s.streaming <;> cases s.active <;> cases s.programmed <;> simp

namespace Scenario

/-- The replays since the sensor was last powered up, which a start does before its own. -/
def replays (history : List Moment) : List Replay :=
  history.foldl (fun rs m => (if m.powersUp then [] else rs) ++ m.replay?.toList) []

theorem replays_snoc (history : List Moment) (m : Moment) :
    replays (history ++ [m]) =
      (if m.powersUp then [] else replays history) ++ m.replay?.toList := by
  simp [replays]

/-- The program of a mode was replayed to its end, and then at most broke off. -/
def LoadedBy (entry : Entry) (rs : List Replay) : Prop :=
  exists earlier broken,
    rs = earlier ++ ⟨entry, true⟩ :: broken ∧ forall r, r ∈ broken -> r = ⟨entry, false⟩

theorem loadedBy_snoc (entry : Entry) (rs : List Replay) :
    LoadedBy entry (rs ++ [⟨entry, true⟩]) :=
  ⟨rs, [], rfl, fun _ hr => nomatch hr⟩

theorem LoadedBy.append {entry : Entry} {rs more : List Replay} (h : LoadedBy entry rs)
    (hmore : forall r, r ∈ more -> r = ⟨entry, false⟩) : LoadedBy entry (rs ++ more) := by
  rcases h with ⟨earlier, broken, rfl, hbroken⟩
  refine ⟨earlier, broken ++ more, by simp, ?_⟩
  intro r hr
  rcases List.mem_append.mp hr with hr | hr
  · exact hbroken r hr
  · exact hmore r hr

/-- What the session remembers of the replays. -/
structure Remembers (rs : List Replay) (d : Device) : Prop where
  programmed : d.session.programmed = true -> LoadedBy d.session.entry rs
  streaming : d.session.streaming = true -> rs.getLast? = some ⟨d.session.entry, true⟩

theorem Moment.remembers {rs : List Replay} {m : Moment} (hattended : m.step.Attended m.before)
    (hboot : m.before.session.fastBoot = false)
    (hused : m.before.session.programmed = true -> 0 < m.before.rig.usage.count.toNat)
    (hstreamed : m.after.session.streaming = true -> m.after.session.programmed = true)
    (hm : Remembers rs m.before) :
    Remembers ((if m.powersUp then [] else rs) ++ m.replay?.toList) m.after := by
  rcases replayed_or_retained hattended hboot hused with hreplay | ⟨hretains, hreplay⟩
  · rw [hreplay]
    exact ⟨fun _ => loadedBy_snoc _ _, fun _ => List.getLast?_concat⟩
  · have hkept : m.after.session.programmed = true ->
        m.before.session.programmed = true ∧
          m.after.session.entry = m.before.session.entry ∧ m.powersUp = false := by
      intro hprogrammed
      rcases hretains.programmed hprogrammed with ⟨hbefore, hentry, -, hlog⟩
      exact ⟨hbefore, hentry, decide_eq_false hlog⟩
    constructor
    · intro hprogrammed
      rcases hkept hprogrammed with ⟨hbefore, hentry, hup⟩
      rw [hentry, hup]
      exact (hm.programmed hbefore).append fun r hr => hreplay r (Option.mem_toList.mp hr)
    · intro hstreaming
      have hbefore := hretains.streaming hstreaming
      have hnone : m.replay? = none := by
        apply if_neg
        rintro ⟨-, hidle⟩
        exact nomatch hbefore.symm.trans hidle
      rcases hkept (hstreamed hstreaming) with ⟨-, hentry, hup⟩
      rw [hentry, hup, hnone, Option.toList_none, List.append_nil]
      exact hm.streaming hbefore

theorem Run.remembers {Allowed : Device -> Step -> Prop} {w : Watch} {h : Holders}
    {past : List Event} {d e : Device} {history : List Moment}
    (hrun : Run Allowed d history e) (hd : Device.Settled w h past d)
    (hboot : h.boot = false) (hguarded : w.guarded = false) (hheld : w.held = false)
    (hfresh : d.session.programmed = false) (hidle : d.session.streaming = false)
    (hallowed : forall d step, Allowed d step -> step.Attended d) :
    (exists h', h'.boot = false ∧ Device.Settled w h' (past ++ log history) e) ∧
      Remembers (replays history) e := by
  induction hrun with
  | start =>
      rw [log_nil, List.append_nil]
      refine ⟨⟨h, hboot, hd⟩, ?_, ?_⟩
      · intro hprogrammed
        exact nomatch hfresh.symm.trans hprogrammed
      · intro hstreaming
        exact nomatch hidle.symm.trans hstreaming
  | @next history e _ step hstep ih =>
      rcases ih with ⟨⟨h', hnone, he⟩, hrs⟩
      have hattended := hallowed _ _ hstep
      have hnext := Moment.settled_of_no_boot (m := ⟨e, step⟩) hnone hguarded hheld he hattended
      rw [log_snoc, replays_snoc, ← List.append_assoc]
      refine ⟨hnext, Moment.remembers (m := ⟨e, step⟩) hattended (he.fastBoot.trans hnone) ?_ ?_
        hrs⟩
      · intro hprogrammed
        rw [he.users]
        exact he.programmed hprogrammed
      · rcases hnext with ⟨h'', hnone', hend⟩
        intro hstreaming
        exact hend.programmed_of_streaming hnone' hstreaming

/--
A configured sensor holds the program of its mode, except for what replays that
broke off have written over it since; and none has while the sensor streams.
-/
theorem loaded_of_run {c : Config} {rig : Rig} (hboot : c.fastBoot = false)
    (husage : rig.usage = .zero) (hok : (Device.attach c rig).result = .ok ())
    {history : List Moment} {d : Device}
    (hrun : Run (fun d step => step.Attended d) (Device.attach c rig).state history d)
    (entry : Entry) :
    (d.session.powerState = .configured entry -> LoadedBy entry (replays history)) ∧
      (d.session.powerState = .streaming entry ->
        (replays history).getLast? = some ⟨entry, true⟩) := by
  have hstart := Device.settled_attach false hboot husage hok
  have hfresh : (Device.attach c rig).state.session.programmed = false := by
    rw [Bool.eq_false_iff]
    intro hprogrammed
    exact Nat.lt_irrefl 0 (hstart.programmed hprogrammed)
  have hend := (hrun.remembers hstart rfl rfl rfl hfresh hstart.streaming
    fun _ _ hstep => hstep).2
  constructor
  · intro hstate
    rcases Session.powerState_eq_configured_iff.mp hstate with ⟨-, -, hprogrammed, hentry⟩
    rw [← hentry]
    exact hend.programmed hprogrammed
  · intro hstate
    rcases Session.powerState_eq_streaming_iff.mp hstate with ⟨hstreaming, hentry⟩
    rw [← hentry]
    exact hend.streaming hstreaming

/-- A stream that has run and stopped leaves its program behind. -/
theorem loaded_after_stream :
    exists history d,
      Run (fun d step => step.Attended d) (Device.attach .standard .sound).state history d ∧
      history.map Moment.step =
        [.operation (.setPower true), .operation (.setStream true),
          .operation (.setStream false)] ∧
      d.session.powerState = .configured Catalog.first ∧
      LoadedBy Catalog.first (replays history) := by
  have hrun : Run (fun d step => step.Attended d)
      (Device.attach .standard .sound).state _ _ :=
    Run.next
      (Run.next
        (Run.next Run.start (.operation (.setPower true)) trivial)
        (.operation (.setStream true)) trivial)
      (.operation (.setStream false)) trivial
  exact ⟨_, _, hrun, rfl, rfl, (loaded_of_run rfl rfl rfl hrun Catalog.first).1 rfl⟩

/-- The bus fails in the middle of a program. -/
def breakOff : Step :=
  .disturbance (.fail { Faults.none with since := some 60 } BoardChange.none)

/-- After a replay that broke off the sensor counts as configured by the one before. -/
theorem configured_by_broken_replay :
    exists history d,
      Run (fun d step => step.Attended d) (Device.attach .standard .sound).state history d ∧
      history.map Moment.step =
        [.operation (.setPower true), .operation (.setStream true),
          .operation (.setStream false), breakOff, .operation (.setStream true)] ∧
      d.session.powerState = .configured Catalog.first ∧
      (replays history).getLast? = some ⟨Catalog.first, false⟩ ∧
      d.rig.bus.file.stored 0x1000 = some 0x16 ∧
      (d.rig.bus.file.load Catalog.first.mode.program.writes).stored 0x1000 = some 0x06 := by
  have hrun : Run (fun d step => step.Attended d)
      (Device.attach .standard .sound).state _ _ :=
    Run.next
      (Run.next
        (Run.next
          (Run.next
            (Run.next Run.start (.operation (.setPower true)) trivial)
            (.operation (.setStream true)) trivial)
          (.operation (.setStream false)) trivial)
        breakOff trivial)
      (.operation (.setStream true)) trivial
  exact ⟨_, _, hrun, rfl, rfl, rfl, rfl, rfl⟩

end Scenario
end ImageSensor
