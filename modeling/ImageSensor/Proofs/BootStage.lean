import ImageSensor.Proofs.Attaching
import ImageSensor.Proofs.Run

/-!
# The user of the boot stage

A device attached under a boot stage's set-up has one user more, which is meant
to leave with the first stop of a stream.  It does; but as long as the set-up
is still in use a second stop takes one more user away.  The main result says
that the account of the users is right, and that no sequence of power goes
wrong, exactly on the runs without such a second stop.
-/

namespace ImageSensor

namespace Scenario

/-- A managed step on a board that reports no failed hand-over. -/
def Step.Undisputed (d : Device) (step : Step) : Prop :=
  step.Managed d ∧ d.rig.board.reportsHandoffFailure = false

/--
What is expected of every moment.  The users are the host, the stream and, up
to the first stop, the boot stage; a host that keeps its power is not powered
down; and a stream is switched off in the sensor while the clock runs.
-/
structure LeavesOnce (l : Lines) (past : List Event) (earlier : List Moment)
    (m : Moment) : Prop where
  users : m.after.rig.usage.count.toNat =
    m.after.session.hostPower.toNat + m.after.session.streaming.toNat +
      (!(earlier ++ [m]).any Moment.stopsStream).toNat
  powered : m.before.session.hostPower = true -> ¬ m.step.IsWithdrawal ->
    forall e, e ∈ m.events -> e.isPowerDown = false
  clocked : m.stopsStream = true -> forall es device ok,
    es ++ [.write device Register.streamControl [Register.standby] ok] <+: m.events ->
      ((Levels.handedOver l).afterAll (past ++ log earlier ++ es)).clock = true

end Scenario

/-!
# Watching a single step
-/

namespace Device

theorem Conducted.restart {w : Watch} {n : Nat} {h : Holders} {past : List Event}
    {d : Device} (hd : Conducted w n h past d) (guarded held : Bool) :
    Conducted ⟨w.lines, d.levels, guarded, held⟩ n h [] d :=
  ⟨hd.users, hd.active, hd.programmed, hd.holders, hd.boot, hd.streamed, hd.lines,
    ⟨rfl, fun _ => trivial⟩, fun _ _ he => nomatch he⟩

end Device

namespace Scenario

variable {w : Watch} {h : Holders} {past : List Event} {earlier : List Moment}
  {m : Moment}

theorem Step.eq_of_stops {step : Step} (hstops : step.stops h = true) :
    step = .operation (.setStream false) ∧ h.stream = true := by
  cases step with
  | operation request =>
      cases request with
      | setStream on =>
          cases on with
          | false => exact ⟨rfl, hstops⟩
          | true => cases hstops
      | _ => cases hstops
  | _ => cases hstops

theorem Moment.steady (hd : Device.Settled w h past m.before)
    (hmanaged : m.step.Managed m.before) (hstands : m.before.HandoffStands)
    (hagain : m.stopsAgain = false) (hhost : m.before.session.hostPower = true)
    (hkept : ¬ m.step.IsWithdrawal) :
    forall e, e ∈ m.events -> e.isPowerDown = false := by
  have hstart := hd.restart false true
  have horderly := hmanaged.orderly hstart (fun hfalse => nomatch hfalse)
    (fun _ => hkept) (by rw [← hd.holders]; exact hagain)
  rcases Moment.followed hstart hstands horderly
    (fun _ => hd.hostPower.symm.trans hhost) with ⟨h', -, hend⟩
  exact hend.steady rfl

theorem Moment.safe (hd : Device.Settled w h past m.before)
    (hmanaged : m.step.Managed m.before) (hstands : m.before.HandoffStands)
    (hagain : m.stopsAgain = false) (hquick : ¬ m.step.IsQuickSwitch) :
    Levels.Safe w.lines m.before.levels m.events := by
  have hstart := hd.restart true false
  have horderly := hmanaged.orderly hstart (fun _ => hquick)
    (fun hfalse => nomatch hfalse) (by rw [← hd.holders]; exact hagain)
  rcases Moment.followed hstart hstands horderly (fun hfalse => nomatch hfalse)
    with ⟨h', -, hend⟩
  exact hend.leads.2 rfl

/-!
# A first stop
-/

theorem leavesOnce_of_settled
    (hd : Device.Settled w h (past ++ log earlier) m.before)
    (hmanaged : m.step.Managed m.before) (hstands : m.before.HandoffStands)
    (hstart : w.start = .handedOver w.lines) (hguarded : w.guarded = false)
    (hheld : w.held = false)
    (hwaiting : h.waiting = !earlier.any Moment.stopsStream)
    (hagain : m.stopsAgain = false) : LeavesOnce w.lines past earlier m where
  users := by
    have horderly := hmanaged.orderly hd
      (fun hguards => nomatch hguarded.symm.trans hguards)
      (fun hholds => nomatch hheld.symm.trans hholds)
      (by rw [← hd.holders]; exact hagain)
    rcases Moment.followed hd hstands horderly
      (fun hholds => nomatch hheld.symm.trans hholds) with ⟨h', hfollows, hend⟩
    rw [hend.users, hend.hostPower, hend.streaming, Holders.users, hfollows.waiting,
      hwaiting]
    simp [List.any_append]
  powered := Moment.steady hd hmanaged hstands hagain
  clocked := by
    intro hstops es device ok hes
    have hquick : ¬ m.step.IsQuickSwitch := by
      intro hquick
      rcases hquick with ⟨on, hstep⟩
      have hoff := (Step.eq_of_stops hstops).1
      rw [hstep] at hoff
      cases hoff
    have hsafe := (Moment.safe hd hmanaged hstands hagain hquick).mono hes
    have hfull := hsafe.full_of_transaction rfl
    rw [Levels.afterAll_append, ← hstart, hd.leads.1]
    exact hfull.1

/-!
# A second stop

The second stop removes a user for the boot stage that has left already.  If
the host still keeps its power nobody is left on the count; if the stream was
the last user the power is gone before the stream is switched off.
-/

end Scenario

namespace Device

variable {w : Watch} {h : Holders} {past : List Event} {d : Device}

theorem contract_endStream_again (hboot : h.boot = true) (hheld : w.held = false) :
    Action.Contract endStream (Conducted w 2 h)
      (fun _ => Conducted w 0 { h.left with stream := false })
      (fun _ => Conducted w 0 { h.left with stream := false }) := by
  have hleave : Action.Contract leaveStream (Conducted w 1 { h with stopped := true })
      (fun _ => Conducted w 0 { h.left with stream := false }) Action.never := by
    have hleft : { h with stopped := true }.left = h.left := by
      rcases h with ⟨host, stream, boot, stopped⟩
      cases hboot
      rfl
    rw [← hleft]
    exact contract_leaveStream (fun _ _ => rfl) fun _ => hheld
  apply Action.Contract.ensuring (contract_stopStream_of_boot hboot)
  · intro _
    exact hleave.anyFailure
  · intro _
    exact hleave.anyFailure
  · intro _ _ _ hfalse
    exact hfalse.elim

/-- The switch of the stream comes after all that leaving the boot stage did. -/
theorem events_stopStream_of_boot (hfast : d.session.fastBoot = true)
    (hok : (leaveBootStage.run d).result = .ok ()) :
    exists device ok,
      (stopStream.run d).events =
        (leaveBootStage.run d).events ++
          [.write device Register.streamControl [Register.standby] ok] := by
  have hwrite : forall e : Device, exists device ok,
      ((switchStream false).run e).events =
        [.write device Register.streamControl [Register.standby] ok] :=
    fun e => ⟨_, _, rfl⟩
  rcases hwrite (leaveBootStage.run d).state with ⟨device, ok, hes⟩
  refine ⟨device, ok, ?_⟩
  simp [stopStream, Action.run_bind, hfast, hok, hes]

end Device

namespace Scenario

variable {w : Watch} {h : Holders} {past : List Event} {earlier : List Moment}
  {m : Moment}

theorem not_leavesOnce_of_settled
    (hd : Device.Settled w h (past ++ log earlier) m.before)
    (hstart : w.start = .handedOver w.lines) (hheld : w.held = false)
    (hagain : m.stopsAgain = true) : ¬ LeavesOnce w.lines past earlier m := by
  intro honce
  rw [Moment.stopsAgain, hd.holders] at hagain
  rcases Bool.and_eq_true_iff.mp hagain with ⟨hrest, hstopped⟩
  rcases Bool.and_eq_true_iff.mp hrest with ⟨hstops, hboot⟩
  have hmoment : m.stopsStream = true := by
    rw [Moment.stopsStream, hd.holders]
    exact hstops
  rcases m with ⟨d, step⟩
  rcases Step.eq_of_stops hstops with ⟨hstep, hstream⟩
  subst hstep
  have hstreaming : d.session.streaming = true := hd.streaming.trans hstream
  have hevents : (Moment.mk d (.operation (.setStream false))).events =
      (Device.endStream.run d).events := by
    simp [Moment.events, Moment.outcome, Step.perform, Operation.perform,
      Operation.complete_eq_map, Device.run_setStream_off hstreaming]
  have hafter : (Moment.mk d (.operation (.setStream false))).after =
      (Device.endStream.run d).state := by
    simp [Moment.after, Moment.outcome, Step.perform, Operation.perform,
      Operation.complete_eq_map, Device.run_setStream_off hstreaming]
  -- with the host's power the count is wrong, without it the clock is stopped early
  cases hhost : h.host with
  | true =>
      have husers : h.users = 2 := by
        simp [Holders.users, Holders.waiting, hhost, hstream, hboot, hstopped]
      unfold Device.Settled at hd
      rw [husers] at hd
      have hend := (Device.contract_endStream_again hboot hheld).always hd
      rw [← hafter] at hend
      have hcount := honce.users
      have hpower :
          (Moment.mk d (.operation (.setStream false))).after.session.hostPower =
          true := hend.hostPower.trans hhost
      rw [hend.users, hpower, Bool.toNat_true] at hcount
      omega
  | false =>
      have husers : h.users = 1 := by
        simp [Holders.users, Holders.waiting, hhost, hstream, hboot, hstopped]
      unfold Device.Settled at hd
      rw [husers] at hd
      have hleave := Device.contract_leaveBootStage (w := w) (n := 0) (h := h)
        fun _ => hheld
      cases hres : (Device.leaveBootStage.run d).result with
      | error failure => exact hleave.failure hd hres
      | ok _ =>
          have hleft := hleave.result hd hres
          have hoff := hleft.leads.1
          rw [Device.levels_of_inactive hleft.active, hstart] at hoff
          rcases Device.events_stopStream_of_boot (hd.fastBoot.trans hboot) hres
            with ⟨device, ok, hes⟩
          have hstop : (Device.stopStream.run d).events <+:
              (Device.endStream.run d).events :=
            Action.events_prefix_ensuring _ _ d
          rw [hes, ← hevents] at hstop
          have hclock := honce.clocked hmoment _ _ _ hstop
          rw [hoff] at hclock
          cases hclock

/-!
# Over a run
-/

theorem leavesOnce_iff {c : Config} {rig : Rig} (hboot : c.fastBoot = true)
    (husage : rig.usage = .zero) (hok : (Device.attach c rig).result = .ok ())
    {history : List Moment} {d : Device}
    (hrun : Run (fun d step => step.Undisputed d) (Device.attach c rig).state
      history d) :
    (Device.attach c rig).state.rig.usage.count = 1 ∧
    ((forall earlier m later, history = earlier ++ m :: later ->
        LeavesOnce rig.lines (Device.attach c rig).events earlier m) <->
      forall m, m ∈ history -> m.stopsAgain = false) := by
  have hstart : Device.Settled ⟨rig.lines, .handedOver rig.lines, false, false⟩
      (.initial true) (Device.attach c rig).events (Device.attach c rig).state :=
    Device.attach_of_boot false hboot husage hok
  have hsettled : forall earlier m later, history = earlier ++ m :: later ->
      (forall m', m' ∈ earlier -> m'.stopsAgain = false) ->
      m.step.Undisputed m.before ∧ exists h,
        h.waiting = (!earlier.any Moment.stopsStream) ∧
        Device.Settled ⟨rig.lines, .handedOver rig.lines, false, false⟩ h
          ((Device.attach c rig).events ++ log earlier) m.before := by
    intro earlier m later hhistory hearlier
    subst hhistory
    rcases hrun.before with ⟨hbefore, hallowed⟩
    refine ⟨hallowed, ?_⟩
    rcases hbefore.settled hstart rfl
      (fun _ _ hstep => ⟨hstep.1, fun hfalse => nomatch hfalse⟩)
      (fun _ _ _ hstep _ => hstep.2) (fun _ => hearlier) with ⟨h, hfollows, hd⟩
    exact ⟨h, hfollows.waiting, hd⟩
  constructor
  · rw [← UInt32.toNat_inj]
    exact hstart.users
  constructor
  · intro honce m hm
    -- up to the first moment that stops again the run is settled
    cases hfirst : history.find? Moment.stopsAgain with
    | none => simpa using List.find?_eq_none.mp hfirst m hm
    | some first =>
        rcases List.find?_eq_some_iff_append.mp hfirst with
          ⟨hagain, earlier, later, hhistory, hearlier⟩
        rcases hsettled earlier first later hhistory (by simpa using hearlier) with
          ⟨-, h, -, hd⟩
        have hbroken := not_leavesOnce_of_settled hd rfl rfl hagain
        exact (hbroken (honce earlier first later hhistory)).elim
  · intro hagain earlier m later hhistory
    have hm : m ∈ history := by
      rw [hhistory]
      exact List.mem_append_right _ List.mem_cons_self
    have hearlier : forall m', m' ∈ earlier -> m'.stopsAgain = false := by
      intro m' hm'
      apply hagain
      rw [hhistory]
      exact List.mem_append_left _ hm'
    rcases hsettled earlier m later hhistory hearlier with ⟨hallowed, h, hwaiting, hd⟩
    exact leavesOnce_of_settled hd hallowed.1 (fun _ => hallowed.2) rfl rfl rfl hwaiting
      (hagain m hm)

theorem leavesOnce_iff_first_stop :
    exists history d,
      Run (fun d step => step.Undisputed d) (Device.attach .booted .sound).state
        history d ∧
      history.any Moment.stopsStream = true ∧ d.rig.usage.count = 1 ∧
      forall earlier m later, history = earlier ++ m :: later ->
        LeavesOnce Lines.wired (Device.attach .booted .sound).events earlier m := by
  have hok : (Device.attach .booted .sound).result = .ok () := rfl
  have hrun : Run (fun d step => step.Undisputed d)
      (Device.attach .booted .sound).state _ _ :=
    Run.next
      (Run.next
        (Run.next Run.start (.operation (.setPower true)) ⟨trivial, rfl⟩)
        (.operation (.setStream true)) ⟨trivial, rfl⟩)
      (.operation (.setStream false)) ⟨trivial, rfl⟩
  refine ⟨_, _, hrun, rfl, rfl, (leavesOnce_iff rfl rfl hok hrun).2.mpr ?_⟩
  decide

/-- Two streams under a host that keeps its power leave it without power. -/
theorem unpowered_under_host :
    exists history d,
      Run (fun d step => step.Undisputed d) (Device.attach .booted .sound).state
        history d ∧
      history.map Moment.step =
        [.operation (.setPower true), .operation (.setStream true),
          .operation (.setStream false), .operation (.setStream true),
          .operation (.setStream false)] ∧
      d.session.hostPower = true ∧ d.session.streaming = false ∧
      d.session.active = false ∧ d.rig.usage.count = 0 := by
  have hrun : Run (fun d step => step.Undisputed d)
      (Device.attach .booted .sound).state _ _ :=
    Run.next
      (Run.next
        (Run.next
          (Run.next
            (Run.next Run.start (.operation (.setPower true)) ⟨trivial, rfl⟩)
            (.operation (.setStream true)) ⟨trivial, rfl⟩)
          (.operation (.setStream false)) ⟨trivial, rfl⟩)
        (.operation (.setStream true)) ⟨trivial, rfl⟩)
      (.operation (.setStream false)) ⟨trivial, rfl⟩
  exact ⟨_, _, hrun, rfl, rfl, rfl, rfl, rfl⟩

end Scenario
end ImageSensor
