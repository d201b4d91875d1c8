import ImageSensor.Proofs.InStep

/-!
# Room for another user

The host and the stream count for one user each, and the boot stage for one at most.
As long as nobody else moves the usage count it never exceeds that, whatever is
refused on the way and whichever power sequences are run directly; so the user that a
request adds for itself never overflows it.
-/

namespace ImageSensor

namespace Device

variable {α : Type}

/-!
# What moves no user
-/

/-- The users and the flags that stand for them are the same. -/
structure Uncounted (d : Device) (_ : List Event) (d' : Device) : Prop where
  usage : d'.rig.usage = d.rig.usage
  hostPower : d'.session.hostPower = d.session.hostPower
  streaming : d'.session.streaming = d.session.streaming

theorem composes_uncounted : Action.Composes Uncounted where
  refl := fun _ => ⟨rfl, rfl, rfl⟩
  trans := fun hes hfs => ⟨hfs.usage.trans hes.usage, hfs.hostPower.trans hes.hostPower,
    hfs.streaming.trans hes.streaming⟩

theorem uncounted_onRig {x : Action Rig α}
    (hx : Action.Obeys (fun rig _ rig' => rig'.usage = rig.usage) x) :
    Action.Obeys Uncounted (onRig x) :=
  fun d => ⟨⟨(hx d.rig).1, rfl, rfl⟩, (hx d.rig).2⟩

theorem uncounted_changeSession {f : Session -> Session}
    (hf : forall s, (f s).hostPower = s.hostPower ∧ (f s).streaming = s.streaming) :
    Action.Obeys Uncounted (changeSession f) :=
  fun d => ⟨⟨rfl, (hf d.session).1, (hf d.session).2⟩, fun _ hover => nomatch hover⟩

theorem uncounted_tuned {x : Action Device α} (hx : Action.Obeys Tuned x) :
    Action.Obeys Uncounted x := by
  intro d
  rcases hx d with ⟨ht, hover⟩
  rcases ht.same with ⟨bus, programmed, frameLength, orientation, hd⟩
  rw [hd]
  exact ⟨⟨rfl, rfl, rfl⟩, hover⟩

theorem uncounted_raiseRails : Action.Obeys Uncounted raiseRails := by
  apply composes_uncounted.bind (composes_uncounted.inspect _)
  intro config
  apply uncounted_onRig
  intro rig
  cases hsupplies : rig.board.refusesSupplies with
  | true =>
      rw [Rig.run_raiseRails_of_refused config.clockRate hsupplies]
      exact ⟨rfl, fun _ hover => nomatch hover⟩
  | false =>
      rcases Rig.coveringDelay_ready config.clockRate with ⟨ready, hready⟩
      rw [Rig.run_raiseRails_of_granted hsupplies hready]
      exact ⟨rfl, fun _ hover => nomatch hover⟩

theorem uncounted_powerOn : Action.Obeys Uncounted powerOn := by
  apply composes_uncounted.bind (composes_uncounted.inspect _)
  intro device
  have hclock : Action.Obeys Uncounted (onRig (Rig.startClock device.config.clockRate)) := by
    apply uncounted_onRig
    intro rig
    rw [Rig.run_startClock]
    refine ⟨rfl, ?_⟩
    intro kind hover
    change (if rig.board.refusesClock then _ else _) = _ at hover
    split at hover <;> cases hover
  apply composes_uncounted.bind hclock
  intro _
  apply composes_uncounted.bind (composes_uncounted.when _ uncounted_raiseRails)
  intro _
  exact uncounted_changeSession fun _ => ⟨rfl, rfl⟩

theorem uncounted_powerOff : Action.Obeys Uncounted powerOff := by
  apply composes_uncounted.bind
  · exact uncounted_onRig fun _ => ⟨rfl, fun _ hover => nomatch hover⟩
  intro _
  apply composes_uncounted.bind
  · exact uncounted_changeSession fun _ => ⟨rfl, rfl⟩
  intro _
  apply composes_uncounted.bind (composes_uncounted.inspect _)
  intro session
  split
  case isTrue => exact composes_uncounted.pure ()
  case isFalse =>
      apply composes_uncounted.bind
      · exact composes_uncounted.when _ (uncounted_changeSession fun _ => ⟨rfl, rfl⟩)
      intro _
      apply uncounted_onRig
      intro rig
      rw [Rig.run_lowerRails]
      exact ⟨rfl, fun _ hover => nomatch hover⟩

/-!
# A bound on the users
-/

/-- There are at most so many users, with these flags. -/
structure Users (n : Nat) (host stream : Bool) (log : List Event) (d : Device) : Prop where
  count : d.rig.usage.count.toNat ≤ n
  hostPower : d.session.hostPower = host
  streaming : d.session.streaming = stream

section

variable {n : Nat} {host stream : Bool}

theorem Users.mono {m : Nat} {log : List Event} {d : Device} (hd : Users n host stream log d)
    (h : n ≤ m) : Users m host stream log d :=
  ⟨Nat.le_trans hd.count h, hd.hostPower, hd.streaming⟩

theorem Users.uncounted {log es : List Event} {d d' : Device}
    (hd : Users n host stream log d) (h : Uncounted d es d') :
    Users n host stream (log ++ es) d' :=
  ⟨h.usage ▸ hd.count, h.hostPower.trans hd.hostPower, h.streaming.trans hd.streaming⟩

theorem users_uncounted {x : Action Device α} (hx : Action.Obeys Uncounted x) :
    Action.Keeps (Users n host stream) x :=
  hx.keeps fun _ _ _ _ hd h => hd.uncounted h

theorem contract_uncounted {x : Action Device α} (hx : Action.Obeys Uncounted x) :
    Action.Contract x (Users n host stream) (fun _ => Users n host stream)
      (Action.reported (Users n host stream)) :=
  hx.reports (users_uncounted hx)

theorem contract_get_users :
    Action.Contract (onRig Rig.get) (Users n host stream)
      (fun _ => Users (n + 1) host stream) (fun _ => Users n host stream) := by
  intro log d hd
  rw [run_onRig]
  rcases Rig.run_get_cases d.rig with ⟨kind, hget⟩ | ⟨usage, hcount, hget⟩
  · rw [hget]
    exact ⟨hd.count, hd.hostPower, hd.streaming⟩
  · rw [hget]
    have hle : usage.count.toNat ≤ n + 1 := hcount ▸ Nat.succ_le_succ hd.count
    exact ⟨hle, hd.hostPower, hd.streaming⟩

theorem contract_getIfInUse_users :
    Action.Contract (onRig Rig.getIfInUse) (Users n host stream)
      (fun inUse log d =>
        if inUse then Users (n + 1) host stream log d else Users n host stream log d)
      (fun _ => Users n host stream) := by
  intro log d hd
  rw [run_onRig]
  rcases Rig.run_getIfInUse_cases d.rig with
    ⟨-, kind, hget⟩ | ⟨-, hget⟩ | ⟨usage, -, hcount, hget⟩
  · rw [hget]
    exact ⟨hd.count, hd.hostPower, hd.streaming⟩
  · rw [hget]
    exact ⟨hd.count, hd.hostPower, hd.streaming⟩
  · rw [hget]
    have hle : usage.count.toNat ≤ n + 1 := hcount ▸ Nat.succ_le_succ hd.count
    exact ⟨hle, hd.hostPower, hd.streaming⟩

theorem contract_putNoIdle_users {E : Failure -> Action.Assertion Device} :
    Action.Contract (onRig Rig.putNoIdle) (Users (n + 1) host stream)
      (fun _ => Users n host stream) E := by
  intro log d hd
  have hle : d.rig.usage.putNoIdle.count.toNat ≤ n := by
    rw [UsageCount.toNat_putNoIdle]
    exact Nat.sub_le_of_le_add hd.count
  exact ⟨hle, hd.hostPower, hd.streaming⟩

theorem contract_put_users {E : Failure -> Action.Assertion Device} :
    Action.Contract (onRig Rig.put) (Users (n + 1) host stream)
      (fun _ => Users n host stream) E := by
  intro log d hd
  have hle : d.rig.usage.put.2.count.toNat ≤ n := by
    rw [UsageCount.toNat_put]
    exact Nat.sub_le_of_le_add hd.count
  exact ⟨hle, hd.hostPower, hd.streaming⟩

/-- A user is added, unless there is no power for the first one. -/
theorem contract_acquire_users :
    Action.Contract acquire (Users n host stream) (fun _ => Users (n + 1) host stream)
      (fun _ => Users n host stream) := by
  apply Action.Contract.bind contract_get_users
  intro first
  apply Action.Contract.when
  · intro _
    apply Action.Contract.onError (contract_uncounted uncounted_powerOn)
    · intro _
      exact contract_putNoIdle_users
    · intro _ _ _ hfalse
      exact hfalse.elim
  · intro _ _ _ hd
    exact hd

theorem contract_release_users :
    Action.Contract release (Users (n + 1) host stream) (fun _ => Users n host stream)
      (fun _ => Users n host stream) := by
  apply Action.Contract.bind contract_put_users
  intro last
  exact (users_uncounted uncounted_powerOff).when last

theorem users_release : Action.Keeps (Users n host stream) release :=
  (contract_release_users.pre fun _ _ hd => hd.mono (Nat.le_succ n))

theorem users_putNoIdle : Action.Keeps (Users n host stream) (onRig Rig.putNoIdle) :=
  (contract_putNoIdle_users.pre fun _ _ hd => hd.mono (Nat.le_succ n))

/-!
# Power and streams
-/

theorem contract_grantPower_users (n : Nat) (stream : Bool) :
    Action.Contract grantPower (Users n false stream) (fun _ => Users (n + 1) true stream)
      (fun _ => Users n false stream) := by
  rw [grantPower_eq]
  apply Action.Contract.bind contract_acquire_users
  intro _
  exact Action.Contract.update fun _ _ hd => ⟨hd.count, rfl, hd.streaming⟩

theorem contract_withdrawPower_users (n : Nat) (stream : Bool) :
    Action.Contract withdrawPower (Users (n + 1) true stream) (fun _ => Users n false stream)
      (fun _ => Users n true stream) := by
  apply Action.Contract.bind contract_release_users
  intro _
  exact Action.Contract.update fun _ _ hd => ⟨hd.count, rfl, hd.streaming⟩

theorem users_takeOverIfNeeded : Action.Keeps (Users n host stream) takeOverIfNeeded := by
  have habandon : Action.Keeps (Users n host stream) abandonTakeOver := by
    apply Action.Keeps.bind
    · exact users_uncounted (uncounted_changeSession fun _ => ⟨rfl, rfl⟩)
    · intro _
      exact users_putNoIdle
  apply Action.Keeps.inspect
  intro device
  split
  case isFalse => exact Action.Keeps.pure false
  case isTrue =>
      apply Action.Keeps.bind
      · exact users_uncounted (uncounted_changeSession fun _ => ⟨rfl, rfl⟩)
      intro _
      apply Action.Keeps.inspect
      intro session
      apply (((users_uncounted uncounted_raiseRails).onError habandon).when _).bind
      intro _
      exact Action.Keeps.pure _

theorem contract_beginStream_users (n : Nat) (host : Bool) :
    Action.Contract beginStream (Users n host false) (fun _ => Users (n + 1) host true)
      (fun _ => Users n host false) := by
  apply Action.Contract.bind users_takeOverIfNeeded
  intro surplus
  apply Action.Contract.bind contract_acquire_users
  intro _
  apply Action.Contract.bind (M := fun _ => Users (n + 1) host false)
  · apply Action.Contract.when
    · intro _
      exact contract_putNoIdle_users.pre fun _ _ hd => hd.mono (Nat.le_succ _)
    · intro _ _ _ hd
      exact hd
  intro _
  apply Action.Contract.bind (M := fun _ => Users (n + 1) host false)
  · apply Action.Contract.onError (contract_uncounted (uncounted_tuned tuned_startStream))
    · intro _
      exact contract_release_users
    · intro _ _ _ hfalse
      exact hfalse.elim
  · intro _
    exact Action.Contract.update fun _ _ hd => ⟨hd.count, hd.hostPower, rfl⟩

/-- Host, stream and boot stage are all the users there are. -/
def Counted : Action.Assertion Device :=
  fun _ d => d.rig.usage.count.toNat ≤
    d.session.hostPower.toNat + d.session.streaming.toNat + 1

theorem Users.counted {log : List Event} {d : Device} (hd : Users n host stream log d)
    (hn : n ≤ host.toNat + stream.toNat + 1) : Counted log d := by
  unfold Counted
  rw [hd.hostPower, hd.streaming]
  exact Nat.le_trans hd.count hn

theorem Counted.users {log : List Event} {d : Device} (hd : Counted log d)
    (hhost : d.session.hostPower = host) (hstream : d.session.streaming = stream) :
    Users (host.toNat + stream.toNat + 1) host stream log d := by
  refine ⟨?_, hhost, hstream⟩
  rw [← hhost, ← hstream]
  exact hd

theorem counted_uncounted {x : Action Device α} (hx : Action.Obeys Uncounted x) :
    Action.Keeps Counted x := by
  apply hx.keeps
  intro log d es e hd h
  exact ((hd.users rfl rfl).uncounted h).counted (Nat.le_refl _)

theorem users_stopStream : Action.Keeps (Users n host stream) stopStream := by
  apply Action.Keeps.inspect
  intro session
  apply Action.Keeps.bind
  · apply Action.Keeps.when
    apply Action.Keeps.bind
    · exact users_uncounted (uncounted_changeSession fun _ => ⟨rfl, rfl⟩)
    · intro _
      exact users_release
  · intro _
    exact users_uncounted (uncounted_tuned (tuned_switchStream false))

theorem contract_leaveStream_users (host : Bool) :
    Action.Contract leaveStream (Users (host.toNat + 1 + 1) host true) (fun _ => Counted)
      (fun _ => Counted) := by
  apply Action.Contract.bind
  · apply contract_release_users.orElse
    intro _ _ _ hd
    exact hd.counted (Nat.le_succ _)
  · intro _
    apply Action.Contract.update
    intro log d hd
    have hleft : Users (host.toNat + 1) host false log
        { d with session := { d.session with streaming := false } } :=
      ⟨hd.count, hd.hostPower, rfl⟩
    exact hleft.counted (Nat.le_refl _)

/-- The user of the stream is removed whether or not the sensor answers. -/
theorem contract_endStream_users (host : Bool) :
    Action.Contract endStream (Users (host.toNat + 1 + 1) host true) (fun _ => Counted)
      (fun _ => Counted) := by
  apply Action.Contract.ensuring users_stopStream
  · intro _
    exact contract_leaveStream_users host
  · intro _
    exact contract_leaveStream_users host
  · intro _ _ _ hd
    exact hd.counted (Nat.le_refl _)

theorem counted_setPower (on : Bool) : Action.Keeps Counted (setPower on) := by
  apply Action.Contract.inspect
  intro session
  split
  case isTrue => exact Action.Contract.pure fun _ _ hd => hd.1
  case isFalse hother =>
      have hhost : session.hostPower = !on := Bool.eq_not_of_ne hother
      cases on with
      | true =>
          apply (contract_grantPower_users (session.streaming.toNat + 1)
            session.streaming).consequence
          · rintro log d ⟨hd, rfl⟩
            exact (hd.users hhost rfl).mono (by simp)
          · intro _ _ _ hd
            exact hd.counted (by simp only [Bool.toNat_true]; omega)
          · intro _ _ _ hd
            exact hd.counted (by simp)
      | false =>
          apply (contract_withdrawPower_users (session.streaming.toNat + 1)
            session.streaming).consequence
          · rintro log d ⟨hd, rfl⟩
            exact (hd.users hhost rfl).mono (by simp only [Bool.not_false, Bool.toNat_true]; omega)
          · intro _ _ _ hd
            exact hd.counted (by simp)
          · intro _ _ _ hd
            exact hd.counted (by simp)

theorem counted_setStream (on : Bool) : Action.Keeps Counted (setStream on) := by
  apply Action.Contract.inspect
  intro session
  split
  case isTrue => exact Action.Contract.pure fun _ _ hd => hd.1
  case isFalse hother =>
      have hstream : session.streaming = !on := Bool.eq_not_of_ne hother
      cases on with
      | true =>
          apply (contract_beginStream_users (session.hostPower.toNat + 1)
            session.hostPower).consequence
          · rintro log d ⟨hd, rfl⟩
            exact hd.users rfl hstream
          · intro _ _ _ hd
            exact hd.counted (Nat.le_refl _)
          · intro _ _ _ hd
            exact hd.counted (Nat.le_refl _)
      | false =>
          apply (contract_endStream_users session.hostPower).pre
          rintro log d ⟨hd, rfl⟩
          exact hd.users rfl hstream

/-!
# Requests
-/

/-- The user that a control adds for itself is removed again. -/
theorem tunable_users : Tunable (Users n host stream) (Users (n + 1) host stream) where
  changeControls := fun _ =>
    Action.Contract.update fun _ _ hd => ⟨hd.count, hd.hostPower, hd.streaming⟩
  getIfInUse := contract_getIfInUse_users
  pushStored := fun request stored =>
    users_uncounted (uncounted_tuned (tuned_pushStored request stored))
  release := contract_release_users

theorem counted_applyControl (request : Control) :
    Action.Keeps Counted (applyControl request) := by
  apply Action.Contract.of_always
  intro log d hd
  have hend := (tunable_users.keeps_applyControl request).always (hd.users rfl rfl)
  exact hend.counted (Nat.le_refl _)

theorem counted_selectMode (entry : Entry) : Action.Keeps Counted (selectMode entry) :=
  keeps_selectMode (fun _ => Action.Contract.update fun _ _ hd => hd)
    (Action.Contract.update fun _ _ hd => hd)

theorem negotiable_counted : Negotiable Counted where
  scratch := fun _ => Action.Contract.update fun _ _ hd => hd
  selectMode := fun _ => (counted_selectMode _).pre fun _ _ hd => hd.1

/-- Attaching adds one user at most. -/
theorem counted_bringUp :
    Action.Contract bringUp (Users 0 false false) (fun _ => Counted) (fun _ => Counted) := by
  have hcounted : forall {log d}, Users 0 false false log d -> Counted log d :=
    fun hd => hd.counted (Nat.zero_le _)
  have hoff : Action.Keeps (Users 0 false false) powerOff := users_uncounted uncounted_powerOff
  apply Action.Contract.bind
    ((users_uncounted uncounted_powerOn).orElse fun _ _ _ hd => hcounted hd)
  intro _
  apply Action.Contract.inspect
  intro session
  split
  case isTrue =>
      apply Action.Contract.bind (M := fun _ => Users 1 false false)
      · apply contract_get_users.consequence
        · exact fun _ _ hd => hd.1
        · exact fun _ _ _ hd => hd
        · exact fun _ _ _ hd => hcounted hd
      · intro _
        exact Action.Contract.pure fun _ _ hd => hd.counted (Nat.le_refl _)
  case isFalse =>
      have hidentify : Action.Keeps (Users 0 false false) identify :=
        users_uncounted (uncounted_tuned tuned_identify)
      apply ((hidentify.onError hoff).bind fun _ => hoff).consequence
      · exact fun _ _ hd => hd.1
      · exact fun _ _ _ hd => hcounted hd
      · exact fun _ _ _ hd => hcounted hd

theorem roomy_of_counted {log : List Event} {d : Device} (hd : Counted log d) : d.Roomy := by
  have hhost := d.session.hostPower.toNat_le
  have hstream := d.session.streaming.toNat_le
  have hsize : UInt32.size = 4294967296 := rfl
  unfold Counted at hd
  unfold Roomy
  omega

end
end Device

/-!
# Runs
-/

theorem Operation.counted_perform (request : Operation) :
    Action.Keeps Device.Counted request.perform := by
  cases request with
  | powerOn => exact contract_complete (Device.counted_uncounted Device.uncounted_powerOn)
  | powerOff => exact contract_complete (Device.counted_uncounted Device.uncounted_powerOff)
  | setPower on => exact contract_complete (Device.counted_setPower on)
  | setStream on => exact contract_complete (Device.counted_setStream on)
  | selectMode entry => exact contract_complete (Device.counted_selectMode entry)
  | applyControl request => exact contract_complete (Device.counted_applyControl request)
  | command request =>
      exact (Device.negotiable_counted.keeps_command fun on _ =>
        Device.counted_uncounted (Device.uncounted_tuned (Device.tuned_switchStream on))).map
  | _ => exact keeps_perform Device.negotiable_counted trivial

namespace Scenario

/--
A mode that is selected directly is one of the catalog, nobody else is a user, and the
device is not given up.
-/
def Step.Exclusive : Step -> Prop
  | .operation (.selectMode entry) => entry ∈ Catalog.entries
  | .disturbance (.usage _) => False
  | .detach => False
  | _ => True

theorem Step.Exclusive.catalogued {step : Step} (h : step.Exclusive) : step.Catalogued := by
  cases step with
  | operation request =>
      cases request with
      | selectMode entry => exact h
      | _ => trivial
  | _ => trivial

theorem Step.Exclusive.isFinal {step : Step} (h : step.Exclusive) : step.isFinal = false := by
  cases step with
  | detach => exact h.elim
  | _ => rfl

theorem Step.counted_perform {step : Step} (h : step.Exclusive) :
    Action.Keeps Device.Counted step.perform := by
  cases step with
  | operation request =>
      have hrequest : Action.Keeps Device.Counted request.perform := request.counted_perform
      exact hrequest.map
  | setting kind value =>
      exact contract_setting kind value (fun request _ => Device.counted_applyControl request)
        fun _ _ hd => hd
  | disturbance change =>
      have hother : forall call, change ≠ .usage call := by
        rintro call rfl
        exact h
      intro log d hd
      rcases run_happen change hother d.rig with ⟨bus, board, hrun⟩
      rw [perform, Device.run_onRig, hrun]
      exact hd
  | peek register => exact Action.Contract.look fun _ _ hd => hd
  | detach => exact h.elim

/-- There always is room for another user. -/
theorem Run.counted {Allowed : Device -> Step -> Prop} {c : Config} {rig : Rig}
    {history : List Moment} {d : Device}
    (hrun : Run Allowed (Device.attach c rig).state history d)
    (hallowed : forall {d : Device} {step : Step}, Allowed d step -> step.Exclusive)
    (husage : rig.usage = .zero) : Device.Counted [] d := by
  have hinitial : Device.Users 0 false false [] (Device.initial c rig) :=
    ⟨Nat.le_of_eq (congrArg (fun u => u.count.toNat) husage), rfl, rfl⟩
  have hstart := Device.counted_bringUp.always hinitial
  exact hrun.kept_allowed (I := Device.Counted) hstart
    fun h => Step.counted_perform (hallowed h)

end Scenario

/-!
# Requests for controls among faults
-/

open Scenario

/--
Whatever the surroundings do to a request for a control, it either fails and leaves
the device as it was, or is granted as a whole.
-/
theorem handled_of_run {c : Config} {rig : Rig} (husage : rig.usage = .zero)
    {history : List Moment} {d : Device}
    (hrun : Run (fun _ step => step.Exclusive) (Device.attach c rig).state history d)
    (bus : Bus) (board : Board) (request : Control) :
    (d.amid bus board).Handled request
      ((Device.applyControl request).run (d.amid bus board)) := by
  have hstep : (d.amid bus board).selection.InStep := hrun.inStep fun h => h.catalogued
  have hcounted : Device.Counted [] (d.amid bus board) := hrun.counted (fun h => h) husage
  exact Device.handled (Device.fitted_of_inStep hstep) (Device.roomy_of_counted hcounted) request

/-- A frame blanking that drags the exposure along: of its writes only the second fails. -/
theorem handled_of_broken_blanking :
    exists history d,
      Run (fun _ step => step.Exclusive) (Device.attach .booted .sound).state history d ∧
      d.session.streaming = true ∧ d.controls.value .exposure = 65000 ∧
      (let faulty := d.rig.bus.plan { Faults.none with single := [1] }
       let o := (Device.applyControl (.verticalBlank 120)).run (d.amid faulty d.rig.board)
       o.result = .error (.reported (.transfer .write Register.exposureMiddle)) ∧
         o.events.filter Event.isTransaction =
           [ .write 0x36 Register.exposureHigh [0] true,
             .write 0x36 Register.exposureMiddle [4] false,
             .write 0x36 Register.exposureLow [175] true ] ∧
         (d.amid faulty d.rig.board).Handled (.verticalBlank 120) o) := by
  have hrun : Run (fun _ step => step.Exclusive) (Device.attach .booted .sound).state _ _ :=
    Run.start
      |>.next (.operation (.applyControl (.verticalBlank 64455))) trivial
      |>.next (.operation (.setStream true)) trivial
      |>.next (.operation (.applyControl (.exposure 65000))) trivial
  exact ⟨_, _, hrun, rfl, rfl, rfl, rfl, handled_of_run rfl hrun _ _ _⟩

end ImageSensor
