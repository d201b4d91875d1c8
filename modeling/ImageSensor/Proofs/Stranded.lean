import ImageSensor.Proofs.Accounting
import ImageSensor.Proofs.TakeOver

/-!
# Users without power

A take-over that the supplies refuse strands a host that keeps its power: its
user is still counted, so nobody else powers up.  Streams then start on a bus
without power, and the usage count is all that is right about them.  The device
recovers when the last user goes.
-/

namespace ImageSensor

theorem Rig.afterAll_powerOff (l : Lines) (b : Board) :
    Levels.off.afterAll
      (.clockOff :: l.fallEvents b) = .off := by
  rcases l with ⟨hasReset, hasPowerDown⟩
  cases hasReset <;> cases hasPowerDown <;> cases hm : b.minimal <;>
    simp [Levels.after, Levels.off, hm, Lines.fallEvents, Lines.lowered, Lines.driven,
      Lines.driveEvents, Lines.has, Board.pinEvents]

namespace Device

variable {l : Lines} {n : Nat} {h : Holders}

/-!
# The last user goes
-/

/-- As many users without power; none at all is nothing special. -/
def Adrift (l : Lines) (n : Nat) (h : Holders) : Action.Assertion Device :=
  fun log d =>
    if n = 0 then Conducted (.plain l) 0 h log d else Occupied l .off false n h log d

theorem Occupied.adrift {log : List Event} {d : Device} (hn : 0 < n)
    (hd : Occupied l .off false n h log d) : Adrift l n h log d := by
  unfold Adrift
  rw [if_neg (Nat.ne_of_gt hn)]
  exact hd

theorem contract_powerOff_stranded (hboot : h.boot = false) :
    Action.Contract powerOff (Occupied l .off false 0 h)
      (fun _ => Conducted (.plain l) 0 h) Action.never := by
  intro log d hd
  have hfast : d.session.fastBoot = false := hd.fastBoot.trans hboot
  have hholders := hd.holders
  subst hholders
  have hrun := run_powerOff (d := d) fun hboot => nomatch hfast.symm.trans hboot
  have hleads : (Watch.plain l).Leads (log ++ (powerOff.run d).events) .off := by
    rw [Watch.leads_plain, hrun]
    unfold Levels.ofLog
    rw [Levels.afterAll_append]
    show (Levels.ofLog log).afterAll _ = .off
    rw [hd.levels]
    exact Rig.afterAll_powerOff d.rig.lines d.rig.board
  rw [hrun] at hleads ⊢
  have hoff : Unpowered (.plain l) 0 d.session.holders _
      (d.withoutPower.withBoard (d.rig.lines.fallen d.rig.board)) :=
    ⟨hd.users, rfl, rfl, by simp [Session.holders, withoutPower, withBoard, hfast], hboot,
      hd.lines, hleads⟩
  exact hoff.conducted rfl

theorem contract_release_stranded (hboot : h.boot = false) :
    Action.Contract release (Occupied l .off false (n + 1) h) (fun _ => Adrift l n h)
      Action.never := by
  apply Action.Contract.bind occupied_put
  intro last
  apply Action.Contract.assuming
  intro hlast
  rw [hlast]
  unfold Adrift
  by_cases hn : n = 0
  · subst hn
    exact contract_powerOff_stranded hboot
  · rw [decide_eq_false hn]
    simp only [hn, if_false]
    exact Action.Contract.pure fun _ _ hd => hd

theorem contract_adrift {h' : Holders} {x : Action Device Unit}
    (hnone : Action.Contract x (Conducted (.plain l) 0 h)
      (fun _ => Conducted (.plain l) 0 h') Action.never)
    (hsome : Action.Contract x (Occupied l .off false n h)
      (fun _ => Occupied l .off false n h') Action.never) :
    Action.Contract x (Adrift l n h) (fun _ => Adrift l n h') Action.never := by
  unfold Adrift
  split
  case isTrue => exact hnone
  case isFalse => exact hsome

theorem contract_withdrawPower_stranded (hboot : h.boot = false) :
    Action.Contract withdrawPower (Occupied l .off false (n + 1) h)
      (fun _ => Adrift l n { h with host := false }) Action.never := by
  apply Action.Contract.bind (contract_release_stranded hboot)
  intro _
  exact contract_adrift contract_dropHost occupied_dropHost

theorem contract_endStream_stranded (hboot : h.boot = false) :
    Action.Contract endStream (Occupied l .off false (n + 1) h)
      (fun _ => Adrift l n { h with stream := false })
      (fun _ => Adrift l n { h with stream := false }) := by
  have hleave : Action.Contract leaveStream (Occupied l .off false (n + 1) h)
      (fun _ => Adrift l n { h with stream := false }) Action.never := by
    apply Action.Contract.bind (contract_release_stranded hboot)
    intro _
    exact contract_adrift contract_dropStream (occupied_markStream false)
  apply Action.Contract.ensuring (occupied_stopStream hboot)
  · intro _
    exact hleave.anyFailure
  · intro _
    exact hleave.anyFailure
  · intro _ _ _ hfalse
    exact hfalse.elim

/-!
# Requests to a stranded device
-/

/-- Still stranded, or without users. -/
def Drifted (l : Lines) : Action.Assertion Device :=
  fun log d => exists h : Holders, h.boot = false ∧ Adrift l h.users h log d

theorem Occupied.drifted {log : List Event} {d : Device} (hboot : h.boot = false)
    (hn : 0 < h.users) (hd : Occupied l .off false h.users h log d) : Drifted l log d :=
  ⟨h, hboot, hd.adrift hn⟩

theorem contract_setPower_stranded (hboot : h.boot = false) (hn : 0 < h.users)
    (on : Bool) :
    Action.Contract (setPower on) (Occupied l .off false h.users h)
      (fun _ => Drifted l) (fun _ => Drifted l) := by
  apply contract_setPower_of_host (fun _ _ hd => hd.hostPower)
  · intro _ _ _ hd
    exact hd.drifted hboot hn
  · intro hhost _
    have hgranted := Holders.users_grant hhost
    apply (occupied_grantPower hn).consequence
    · intro _ _ hd
      exact hd
    · intro _ _ _ hd
      rw [← hgranted] at hd
      exact ⟨{ h with host := true }, hboot, hd.adrift (hgranted ▸ Nat.succ_pos _)⟩
    · intro _ _ _ hd
      exact hd.drifted hboot hn
  · intro hhost _
    rcases h with ⟨host, stream, boot, stopped⟩
    cases hhost
    have husers := Holders.users_grant (h := ⟨false, stream, boot, stopped⟩) rfl
    rw [husers]
    have hwithdrawn := (contract_withdrawPower_stranded hboot).post
      fun _ _ _ hd => (⟨⟨false, stream, boot, stopped⟩, hboot, hd⟩ : Drifted l _ _)
    exact hwithdrawn.anyFailure

theorem contract_setStream_stranded (hboot : h.boot = false) (hn : 0 < h.users)
    (on : Bool) :
    Action.Contract (setStream on) (Occupied l .off false h.users h)
      (fun _ => Drifted l) (fun _ => Drifted l) := by
  apply contract_setStream_of_streaming (fun _ _ hd => hd.streaming)
  · intro _ _ _ hd
    exact hd.drifted hboot hn
  · intro hidle _
    have hbegun := Holders.users_begin hidle
    apply (occupied_beginStream hn hboot).consequence
    · intro _ _ hd
      exact hd
    · intro _ _ _ hd
      rw [← hbegun] at hd
      exact ⟨{ h with stream := true }, hboot, hd.adrift (hbegun ▸ Nat.succ_pos _)⟩
    · intro _ _ _ hd
      exact hd.drifted hboot hn
  · intro hstream _
    rcases h with ⟨host, stream, boot, stopped⟩
    cases hstream
    have husers := Holders.users_begin (h := ⟨host, false, boot, stopped⟩) rfl
    rw [husers]
    apply (contract_endStream_stranded hboot).consequence
    · intro _ _ hd
      exact hd
    · intro _ _ _ hd
      exact ⟨⟨host, false, boot, stopped⟩, hboot, hd⟩
    · intro _ _ _ hd
      exact ⟨⟨host, false, boot, stopped⟩, hboot, hd⟩

end Device

/-!
# Steps
-/

namespace Scenario

open Device

/-- A step about power or about the stream. -/
inductive Step.IsSwitch : Step -> Prop where
  | power (on : Bool) : IsSwitch (.operation (.setPower on))
  | stream (on : Bool) : IsSwitch (.operation (.setStream on))

variable {l : Lines} {v : Levels} {active : Bool} {n : Nat} {h : Holders}

theorem Step.occupied_operation (hn : 0 < n) {request : Operation}
    (hother : ¬ (Step.operation request).IsSwitch) :
    Action.Contract request.perform
      (fun log d => Occupied l v active n h log d ∧ request.Managed d)
      (fun _ => Occupied l v active n h) (fun _ => Occupied l v active n h) := by
  apply Operation.contract_managed (fun _ _ hd => hd) (fun _ _ hd => hd) negotiable_occupied
    occupied_switchStream fun control _ => (tunable_occupied hn).keeps_applyControl control
  · intro on hrequest
    exact (hother (hrequest ▸ .power on)).elim
  · intro on hrequest
    exact (hother (hrequest ▸ .stream on)).elim

theorem Step.occupied_step (hn : 0 < n) {step : Step} (hother : ¬ step.IsSwitch) :
    Action.Contract step.perform
      (fun log d => Occupied l v active n h log d ∧ step.Managed d)
      (fun _ => Occupied l v active n h) (fun _ => Occupied l v active n h) := by
  apply contract_managed (fun _ _ hd => hd) (fun _ _ hd => hd) _
    fun control _ => (tunable_occupied hn).keeps_applyControl control
  · intro change _ husage log d hd
    rcases Step.run_happen change husage d.rig with ⟨bus, board, hrun⟩
    rw [run_onRig, hrun, List.append_nil]
    exact ⟨hd.users, hd.active, hd.holders, hd.unprogrammed, hd.lines, hd.levels⟩
  · intro request hstep
    exact occupied_operation hn (hstep ▸ hother)

namespace Moment

variable {log : List Event} {m : Moment}

theorem occupied (hn : 0 < n) (hd : Occupied l v active n h log m.before)
    (hmanaged : m.step.Managed m.before) (hother : ¬ m.step.IsSwitch) :
    Occupied l v active n h (log ++ m.events) m.after :=
  (Step.occupied_step hn hother).always ⟨hd, hmanaged⟩

theorem drifted (hboot : h.boot = false) (hn : 0 < h.users)
    (hd : Occupied l .off false h.users h log m.before)
    (hmanaged : m.step.Managed m.before) : Drifted l (log ++ m.events) m.after := by
  by_cases hswitch : m.step.IsSwitch
  · rcases m with ⟨d, step⟩
    cases hswitch with
    | power on =>
        exact (Step.contract_setPower (contract_setPower_stranded hboot hn on)).always hd
    | stream on =>
        exact (Step.contract_setStream (contract_setStream_stranded hboot hn on)).always hd
  · exact (occupied hn hd hmanaged hswitch).drifted hboot hn

end Moment

/-!
# How far a take-over has got
-/

/-- A take-over that the supplies refuse, under a host that keeps its power. -/
def Moment.strands (m : Moment) : Bool :=
  decide (m.step = .operation (.setStream true)) && m.before.session.fastBoot &&
    m.before.session.hostPower && m.before.rig.board.refusesSupplies

/-- The host was stranded, and the last user has not gone since. -/
def stranded (history : List Moment) : Bool :=
  history.foldl
    (fun s m => (s || m.strands) && decide (m.after.rig.usage.count ≠ 0)) false

theorem stranded_snoc (history : List Moment) (m : Moment) :
    stranded (history ++ [m]) =
      ((stranded history || m.strands) && decide (m.after.rig.usage.count ≠ 0)) := by
  simp [stranded]

inductive Phase (l : Lines) (log : List Event) (d : Device) : Bool -> Prop where
  | untouched {host : Bool} : Untouched l host log d -> Phase l log d false
  | settled {h : Holders} :
      h.boot = false -> Settled (.plain l) h log d -> Phase l log d false
  | stranded {h : Holders} :
      h.boot = false -> 0 < h.users -> Occupied l .off false h.users h log d ->
      Phase l log d true

theorem Phase.flag_eq {log : List Event} {d : Device} {flag : Bool}
    (hphase : Phase l log d flag) : (flag && decide (d.rig.usage.count ≠ 0)) = flag := by
  cases hphase with
  | untouched _ => rfl
  | settled _ _ => rfl
  | stranded _ hn hd =>
      have hcount : d.rig.usage.count ≠ 0 := by
        rw [UInt32.ne_zero_iff_toNat_pos, hd.users]
        exact hn
      simp [hcount]

theorem contract_setPower_untouched {host : Bool} (on : Bool) :
    Action.Contract (setPower on) (Untouched l host)
      (fun _ log d => exists host', Untouched l host' log d)
      (fun _ log d => exists host', Untouched l host' log d) := by
  apply contract_setPower_of_host (fun _ _ hd => hd.hostPower)
  · intro _ _ _ hd
    exact ⟨host, hd⟩
  · rintro rfl _
    apply (occupied_grantPower (Nat.succ_pos _)).consequence
    · intro _ _ hd
      exact hd
    · intro _ _ _ hd
      exact ⟨true, hd⟩
    · intro _ _ _ hd
      exact ⟨false, hd⟩
  · rintro rfl _
    apply (occupied_withdrawPower (Nat.succ_pos 0)).consequence
    · intro _ _ hd
      exact hd
    · intro _ _ _ hd
      exact ⟨false, hd⟩
    · intro _ _ _ hfalse
      exact hfalse.elim

/-- The first stream brings up the rails, or strands the host if there is one. -/
theorem contract_setStream_untouched {host : Bool} (refused : Bool) :
    Action.Contract (setStream true)
      (fun log d => Untouched l host log d ∧ d.rig.board.reportsHandoffFailure = true ∧
        d.rig.board.refusesSupplies = refused)
      (fun _ log d => Phase l log d (host && refused))
      (fun _ log d => Phase l log d (host && refused)) := by
  apply contract_setStream_on fun _ _ hd => hd.1.streaming
  apply (contract_beginStream_untouched refused).consequence
  · intro _ _ hd
    exact hd
  · intro _ _ _ hd
    rw [hd.1, Bool.and_false]
    exact Phase.settled rfl hd.2
  · intro _ _ _ hd
    rcases hd with ⟨hgranted, hd⟩ | ⟨hrefused, hd⟩
    · rw [hgranted, Bool.and_false]
      exact Phase.settled rfl hd
    · rw [hrefused, Bool.and_true]
      cases host with
      | false => exact Phase.settled rfl hd.settled
      | true =>
          exact Phase.stranded (h := ⟨true, false, false, false⟩) rfl (Nat.succ_pos 0)
            hd.toOccupied

namespace Moment

variable {log : List Event} {m : Moment}

theorem strands_of_not_switch (hother : ¬ m.step.IsSwitch) : m.strands = false := by
  have hstep : m.step ≠ .operation (.setStream true) := by
    intro hstep
    exact hother (hstep ▸ .stream true)
  simp [strands, hstep]

theorem next_untouched {host : Bool} (hd : Untouched l host log m.before)
    (hmanaged : m.step.Managed m.before)
    (hreports : m.before.rig.board.reportsHandoffFailure = true) :
    Phase l (log ++ m.events) m.after m.strands := by
  by_cases hswitch : m.step.IsSwitch
  · rcases m with ⟨d, step⟩
    cases hswitch with
    | power on =>
        have hstrands : strands ⟨d, .operation (.setPower on)⟩ = false := by
          simp [strands]
        rcases (Step.contract_setPower (contract_setPower_untouched on)).always hd with
          ⟨host', hend⟩
        rw [hstrands]
        exact Phase.untouched hend
    | stream on =>
        cases on with
        | true =>
            have hfast : d.session.fastBoot = true := hd.fastBoot
            have hhost : d.session.hostPower = host := hd.hostPower
            have hstrands : strands ⟨d, .operation (.setStream true)⟩ =
                (host && d.rig.board.refusesSupplies) := by
              simp [strands, hfast, hhost]
            rw [hstrands]
            exact (Step.contract_setStream (contract_setStream_untouched _)).always
              ⟨hd, hreports, rfl⟩
        | false =>
            have hsame : Action.Keeps (Untouched l host) (setStream false) := by
              intro log d hd
              rw [run_setStream_same hd.streaming, List.append_nil]
              exact hd
            have hstrands : strands ⟨d, .operation (.setStream false)⟩ = false := by
              simp [strands]
            rw [hstrands]
            exact Phase.untouched ((Step.contract_setStream hsame).always hd)
  · rw [strands_of_not_switch hswitch]
    exact Phase.untouched (occupied (Nat.succ_pos _) hd hmanaged hswitch)

theorem next_settled (hboot : h.boot = false) (hd : Settled (.plain l) h log m.before)
    (hmanaged : m.step.Managed m.before) : Phase l (log ++ m.events) m.after false := by
  rcases settled_of_no_boot hboot rfl rfl hd hmanaged.attended with ⟨h', hnone, hend⟩
  exact Phase.settled hnone hend

theorem next_stranded (hboot : h.boot = false) (hn : 0 < h.users)
    (hd : Occupied l .off false h.users h log m.before)
    (hmanaged : m.step.Managed m.before) :
    Phase l (log ++ m.events) m.after (decide (m.after.rig.usage.count ≠ 0)) := by
  rcases drifted hboot hn hd hmanaged with ⟨h', hnone, hend⟩
  unfold Adrift at hend
  split at hend
  case isTrue husers =>
      have hcount : m.after.rig.usage.count = 0 := UInt32.toNat_inj.mp hend.users
      have hsettled : Settled (.plain l) h' (log ++ m.events) m.after := by
        unfold Settled
        rw [husers]
        exact hend
      simp only [hcount, ne_eq, not_true, decide_false]
      exact Phase.settled hnone hsettled
  case isFalse husers =>
      have hphase := Phase.stranded hnone (Nat.pos_of_ne_zero husers) hend
      have hcount := hphase.flag_eq
      rw [Bool.true_and] at hcount
      rw [hcount]
      exact hphase

theorem next_phase {flag : Bool} (hphase : Phase l log m.before flag)
    (hmanaged : m.step.Managed m.before)
    (hreports : m.before.rig.board.reportsHandoffFailure = true) :
    Phase l (log ++ m.events) m.after
      ((flag || m.strands) && decide (m.after.rig.usage.count ≠ 0)) := by
  cases hphase with
  | untouched hd =>
      have hnext := next_untouched hd hmanaged hreports
      rw [Bool.false_or, hnext.flag_eq]
      exact hnext
  | settled hboot hd =>
      have hfast : m.before.session.fastBoot = false := hd.fastBoot.trans hboot
      have hstrands : m.strands = false := by
        simp [strands, hfast]
      rw [hstrands]
      exact next_settled hboot hd hmanaged
  | stranded hboot hn hd =>
      rw [Bool.true_or, Bool.true_and]
      exact next_stranded hboot hn hd hmanaged

end Moment

theorem Run.phase {Allowed : Device -> Step -> Prop} {past : List Event} {d e : Device}
    {history : List Moment} (hrun : Run Allowed d history e) (hd : Untouched l false past d)
    (hallowed : forall d step, Allowed d step ->
      step.Managed d ∧ d.rig.board.reportsHandoffFailure = true) :
    Phase l (past ++ log history) e (stranded history) := by
  induction hrun with
  | start =>
      rw [log_nil, List.append_nil]
      exact Phase.untouched hd
  | @next history e _ step hstep ih =>
      rcases hallowed _ _ hstep with ⟨hmanaged, hreports⟩
      rw [log_snoc, stranded_snoc, ← List.append_assoc]
      exact Moment.next_phase (m := ⟨e, step⟩) ih hmanaged hreports

/-- A stream that starts adds its user, and runs unless the device is stranded. -/
theorem Phase.begun {log : List Event} {d : Device} {flag : Bool}
    (hphase : Phase l log d flag) (hidle : d.session.streaming = false)
    (hreports : d.rig.board.reportsHandoffFailure = true)
    (hok : ((setStream true).run d).result = .ok ()) :
    let e := ((setStream true).run d).state
    e.rig.usage.count.toNat = e.session.hostPower.toNat + 1 ∧
      (Running (log ++ ((setStream true).run d).events) e <-> flag = false) := by
  intro e
  cases hphase with
  | @untouched host hd =>
      have hend := (contract_setStream_on (fun _ _ hd => hd.1.streaming)
        (contract_beginStream_untouched d.rig.board.refusesSupplies)).result
          ⟨hd, hreports, rfl⟩ hok
      have hsettled := hend.2
      refine ⟨?_, fun _ => rfl, fun _ => ?_⟩
      · rw [hsettled.users, hsettled.hostPower]
        rfl
      · exact Conducted.running (n := host.toNat) hsettled
  | @settled h hboot hd =>
      have hstream : h.stream = false := hd.streaming.symm.trans hidle
      have hstands : d.HandoffStands :=
        fun hfast => nomatch (hd.fastBoot.trans hboot).symm.trans hfast
      have hend := (contract_setStream_on (fun _ _ hd => hd.1.streaming.trans hstream)
        (contract_beginStream (w := .plain l) hstream fun hheld => nomatch hheld)).result
          ⟨hd, hstands⟩ hok
      have hbegun := Holders.users_begin hstream
      refine ⟨?_, fun _ => rfl, fun _ => ?_⟩
      · rw [hend.users, hend.hostPower]
        simp [Holders.users, Holders.waiting, hboot]
      · unfold Settled at hend
        rw [hbegun] at hend
        exact hend.running
  | @stranded h hboot hn hd =>
      have hstream : h.stream = false := hd.streaming.symm.trans hidle
      have hend := (contract_setStream_on (fun _ _ hd => hd.streaming.trans hstream)
        (occupied_beginStream hn hboot)).result hd hok
      refine ⟨?_, fun hrunning => (hend.not_running hrunning).elim, ?_⟩
      · rw [hend.users, hend.hostPower]
        simp [Holders.users, Holders.waiting, hboot, hstream]
      · intro hfalse
        cases hfalse

/--
Whenever a stream starts, the users are counted right; and the sensor is
powered exactly when no refused take-over has stranded the host before.
-/
theorem running_iff_not_stranded {c : Config} {rig : Rig} (hboot : c.fastBoot = true)
    (husage : rig.usage = .zero) (hok : (attach c rig).result = .ok ())
    {history : List Moment} {d : Device}
    (hrun : Run (fun d step => step.Managed d ∧ d.rig.board.reportsHandoffFailure = true)
      (attach c rig).state history d)
    (hreports : d.rig.board.reportsHandoffFailure = true)
    (hidle : d.session.streaming = false)
    (hstarted : ((setStream true).run d).result = .ok ()) :
    let e := ((setStream true).run d).state
    e.rig.usage.count.toNat = e.session.hostPower.toNat + 1 ∧
      (Running ((attach c rig).events ++ log history ++ ((setStream true).run d).events) e <->
        stranded history = false) :=
  (hrun.phase (untouched_attach hboot husage hok) fun _ _ hstep => hstep).begun hidle
    hreports hstarted

/-!
# With and without a host that keeps its power
-/

/-- The hand-over failed, and the supplies refuse for now. -/
def unsuppliedRig : Rig :=
  { Rig.sound with
    board := { Board.sound with handoffFailed := true, refusesSupplies := true } }

/-- The supplies work from now on. -/
def resupply : Step :=
  .disturbance (.fail .none { BoardChange.none with refusesSupplies := some false })

/-- Without a host, the next stream powers up again. -/
theorem running_after_resupply :
    exists history d,
      Run (fun d step => step.Managed d ∧ d.rig.board.reportsHandoffFailure = true)
        (attach .booted unsuppliedRig).state history d ∧
      history.map Moment.step = [.operation (.setStream true), resupply] ∧
      Running ((attach .booted unsuppliedRig).events ++ log history ++
        ((setStream true).run d).events) ((setStream true).run d).state := by
  have hok : (attach .booted unsuppliedRig).result = .ok () := rfl
  have hrun : Run (fun d step => step.Managed d ∧ d.rig.board.reportsHandoffFailure = true)
      (attach .booted unsuppliedRig).state _ _ :=
    Run.next (Run.next Run.start (.operation (.setStream true)) ⟨trivial, rfl⟩)
      resupply ⟨trivial, rfl⟩
  exact ⟨_, _, hrun, rfl, (running_iff_not_stranded rfl rfl hok hrun rfl rfl rfl).2.mpr rfl⟩

/-- With a host, the next stream starts on a sensor that is off. -/
theorem stranded_after_resupply :
    exists history d,
      Run (fun d step => step.Managed d ∧ d.rig.board.reportsHandoffFailure = true)
        (attach .booted unsuppliedRig).state history d ∧
      history.map Moment.step =
        [.operation (.setPower true), .operation (.setStream true), resupply,
          .operation (.setStream true)] ∧
      d.session.streaming = true ∧ d.session.hostPower = true ∧
      d.rig.usage.count = 2 ∧ d.session.active = false ∧
      (Levels.ofLog ((attach .booted unsuppliedRig).events ++ log history)).clock = false ∧
      (Levels.ofLog ((attach .booted unsuppliedRig).events ++ log history)).supplies =
        false := by
  have hrun : Run (fun d step => step.Managed d ∧ d.rig.board.reportsHandoffFailure = true)
      (attach .booted unsuppliedRig).state _ _ :=
    Run.next
      (Run.next
        (Run.next
          (Run.next Run.start (.operation (.setPower true)) ⟨trivial, rfl⟩)
          (.operation (.setStream true)) ⟨trivial, rfl⟩)
        resupply ⟨trivial, rfl⟩)
      (.operation (.setStream true)) ⟨trivial, rfl⟩
  exact ⟨_, _, hrun, rfl, rfl, rfl, rfl, rfl, rfl, rfl⟩

end Scenario
end ImageSensor
