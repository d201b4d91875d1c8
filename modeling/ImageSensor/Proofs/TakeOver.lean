import ImageSensor.Proofs.Attaching
import ImageSensor.Proofs.Occupied
import ImageSensor.Proofs.Run

/-!
# Taking over from the boot stage

On a board that reports that the hand-over failed, the first stream takes over:
the rails are brought up under the clock that runs since the device was
attached.  If the supplies refuse, everything is off again, and the user that
stood for the boot stage is gone.  But the host may still be a user.  Then
later users are added to a device without power, and none of them powers it
up, until all are gone.
-/

namespace ImageSensor

/-- Watched from the start of the log, without further conditions. -/
def Watch.plain (l : Lines) : Watch :=
  ⟨l, .off, false, false⟩

theorem Watch.leads_plain {l : Lines} {log : List Event} {v : Levels} :
    (plain l).Leads log v <-> Levels.ofLog log = v :=
  ⟨fun hleads => hleads.1, fun hlog => ⟨hlog, fun hfalse => nomatch hfalse⟩⟩

/-- The clock runs, the supplies are up, and the session says so. -/
structure Running (log : List Event) (d : Device) : Prop where
  clock : (Levels.ofLog log).clock = true
  supplies : (Levels.ofLog log).supplies = true
  active : d.session.active = true

namespace Device

variable {l : Lines} {n : Nat} {h : Holders} {host : Bool}

theorem Conducted.running {log : List Event} {d : Device}
    (hd : Conducted (.plain l) (n + 1) h log d) : Running log d := by
  have hlevels : Levels.ofLog log = .on l := by
    rw [Watch.leads_plain.mp hd.leads, hd.levels_on]
    rfl
  exact ⟨by rw [hlevels]; rfl, by rw [hlevels]; rfl, hd.active⟩

theorem Occupied.not_running {v : Levels} {log : List Event} {d : Device}
    (hd : Occupied l v false n h log d) : ¬ Running log d :=
  fun hrunning => nomatch hd.active.symm.trans hrunning.active

/-!
# The set-up of the boot stage
-/

/-- Nothing but the clock was touched since the boot stage. -/
abbrev Untouched (l : Lines) (host : Bool) : Action.Assertion Device :=
  Occupied l Rig.clocked true (host.toNat + 1) ⟨host, false, true, false⟩

/-- The first power-up starts the clock and leaves the rails to the boot stage. -/
theorem contract_powerOn_of_boot {c : Config} {rig : Rig} (hboot : c.fastBoot = true)
    (husage : rig.usage = .zero) :
    Action.Contract powerOn (fun log d => log = [] ∧ d = initial c rig)
      (fun _ => Occupied rig.lines Rig.clocked true 0 (.initial true))
      (fun _ _ _ => True) := by
  intro log d hd
  rcases hd with ⟨rfl, rfl⟩
  cases hclock : rig.board.refusesClock with
  | true =>
      simp [powerOn, Action.run_bind, Rig.run_startClock, hclock, initial]
  | false =>
      have hes := Rig.leads_startEvents_granted (Levels.ordered_off rig.lines) rfl hclock
        c.clockRate
      rw [run_powerOn_of_boot hboot hclock]
      exact
        { users := by
            show rig.usage.count.toNat = 0
            rw [husage]
            rfl
          active := rfl
          holders := by
            show Holders.mk false false c.fastBoot false = _
            rw [hboot]
            rfl
          unprogrammed := fun _ => rfl
          lines := rfl
          levels := hes.2 }

theorem untouched_attach {c : Config} {rig : Rig} (hboot : c.fastBoot = true)
    (husage : rig.usage = .zero) (hok : (attach c rig).result = .ok ()) :
    Untouched rig.lines false (attach c rig).events (attach c rig).state := by
  have hup : Action.Contract bringUp (fun log d => log = [] ∧ d = initial c rig)
      (fun _ => Untouched rig.lines false) (fun _ _ _ => True) := by
    apply Action.Contract.bind (contract_powerOn_of_boot hboot husage)
    intro _
    apply Action.Contract.inspect
    intro session
    have hfast : forall log d,
        Occupied rig.lines Rig.clocked true 0 (.initial true) log d ∧ d.session = session ->
        session.fastBoot = true := by
      intro log d hd
      rw [← hd.2]
      exact congrArg Holders.boot hd.1.holders
    apply Action.Contract.knowing hfast
    intro hfast
    rw [if_pos hfast]
    apply Action.Contract.bind
      (M := fun _ => Untouched rig.lines false)
    · apply occupied_get.consequence
      · intro _ _ hd
        exact hd.1
      · intro _ _ _ hd
        exact hd.2
      · intro _ _ _ _
        trivial
    · intro _
      exact Action.Contract.pure fun _ _ hd => hd
  exact hup.result ⟨rfl, rfl⟩ hok

/-!
# Bringing up the rails late
-/

/-- With neither a boot stage nor a stream nor a program. -/
structure Bare (l : Lines) (v : Levels) (active : Bool) (n : Nat) (host : Bool)
    (log : List Event) (d : Device) : Prop
    extends Occupied l v active n ⟨host, false, false, false⟩ log d where
  programmed : d.session.programmed = false

theorem Bare.settled {log : List Event} {d : Device} (hd : Bare l .off false 0 false log d) :
    Settled (.plain l) ⟨false, false, false, false⟩ log d := by
  have hoff : Unpowered (.plain l) 0 ⟨false, false, false, false⟩ log d :=
    ⟨hd.users, hd.active, hd.programmed, hd.holders, rfl, hd.lines,
      Watch.leads_plain.mpr hd.levels⟩
  exact hoff.conducted rfl

theorem Bare.conducted {log : List Event} {d : Device}
    (hd : Bare l (.on l) true (n + 1) host log d) :
    Conducted (.plain l) (n + 1) ⟨host, false, false, false⟩ log d := by
  have hon : Powered (.plain l) (n + 1) ⟨host, false, false, false⟩ log d :=
    ⟨hd.users, hd.active, hd.holders, hd.lines, Watch.leads_plain.mpr hd.levels⟩
  exact hon.conducted rfl rfl

theorem Bare.led {v w : Levels} {active : Bool} {log es : List Event} {d : Device}
    (hd : Bare l v active n host log d) (board : Board)
    (hes : Levels.Leads d.rig.lines v es w) :
    Bare l w active n host (log ++ es) (d.withBoard board) := by
  refine ⟨⟨hd.users, hd.active, hd.holders, hd.unprogrammed, hd.lines, ?_⟩, hd.programmed⟩
  unfold Levels.ofLog
  rw [Levels.afterAll_append]
  show (Levels.ofLog log).afterAll es = w
  rw [hd.levels, hes.2]

theorem raiseRails_cases (d : Device) :
    exists board es,
      (d.rig.board.refusesSupplies = true ∧
        raiseRails.run d =
          ⟨.error (.reported (.unavailable .supplies)), d.withBoard board, es⟩ ∧
        Levels.Leads d.rig.lines Rig.clocked es .off) ∨
      (d.rig.board.refusesSupplies = false ∧
        raiseRails.run d = ⟨.ok (), d.withBoard board, es⟩ ∧
        Levels.Leads d.rig.lines Rig.clocked es (.on d.rig.lines)) := by
  cases hsupplies : d.rig.board.refusesSupplies with
  | true =>
      have hrun : raiseRails.run d = ⟨.error (.reported (.unavailable .supplies)),
          d.withBoard (d.rig.lines.driven .reset d.rig.board),
          d.rig.lines.refusalEvents d.rig.board⟩ := by
        rw [raiseRails, Action.run_bind_ok (Action.run_inspect _ _), run_onRig,
          Rig.run_raiseRails_of_refused _ hsupplies]
        rfl
      exact ⟨_, _, Or.inl ⟨rfl, hrun, Rig.leads_refusalEvents d.rig.lines _⟩⟩
  | false =>
      rcases Rig.coveringDelay_ready d.config.clockRate with ⟨ready, hready⟩
      have hrun : raiseRails.run d = ⟨.ok (), d.withBoard (d.rig.lines.risen d.rig.board),
          d.rig.lines.riseEvents ready d.rig.board⟩ := by
        rw [raiseRails, Action.run_bind_ok (Action.run_inspect _ _), run_onRig,
          Rig.run_raiseRails_of_granted hsupplies hready]
        rfl
      exact ⟨_, _, Or.inr ⟨rfl, hrun, Rig.leads_riseEvents d.rig.lines ready _⟩⟩

theorem contract_raiseRails (refused : Bool) :
    Action.Contract raiseRails
      (fun log d => Bare l Rig.clocked true n host log d ∧
        d.rig.board.refusesSupplies = refused)
      (fun _ log d => refused = false ∧ Bare l (.on l) true n host log d)
      (Action.reported fun log d => refused = true ∧ Bare l .off true n host log d) := by
  intro log d hd
  rcases hd with ⟨hd, hrefused⟩
  rcases raiseRails_cases d with
    ⟨board, es, ⟨hsupplies, hrun, hes⟩ | ⟨hsupplies, hrun, hes⟩⟩
  · rw [hrun]
    exact ⟨hrefused.symm.trans hsupplies, hd.led board hes⟩
  · have hend := hd.led board hes
    rw [hd.lines] at hend
    rw [hrun]
    exact ⟨hrefused.symm.trans hsupplies, hend⟩

theorem contract_abandonTakeOver :
    Action.Contract abandonTakeOver (Bare l .off true (n + 1) host)
      (fun _ => Bare l .off false n host) Action.never := by
  apply Action.Contract.bind (M := fun _ => Bare l .off false (n + 1) host)
  · apply Action.Contract.update
    intro log d hd
    exact ⟨⟨hd.users, rfl, hd.holders, hd.unprogrammed, hd.lines, hd.levels⟩,
      hd.programmed⟩
  · intro _ log d hd
    rcases Rig.run_putNoIdle hd.users with ⟨usage, hcount, hput⟩
    rw [run_onRig, hput]
    exact ⟨hd.toOccupied.moved hcount _ _ _, hd.programmed⟩

/--
The rails come up, and the boot stage's user is left over; or everything is off
again, and that user is gone.
-/
theorem contract_takeOver (refused : Bool) :
    Action.Contract takeOver
      (fun log d => Untouched l host log d ∧ d.rig.board.refusesSupplies = refused)
      (fun surplus log d => surplus = true ∧ refused = false ∧
        Bare l (.on l) true (host.toNat + 1) host log d)
      (Action.reported fun log d => refused = true ∧
        Bare l .off false host.toNat host log d) := by
  apply Action.Contract.bind (M := fun _ log d =>
    Bare l Rig.clocked true (host.toNat + 1) host log d ∧
      d.rig.board.refusesSupplies = refused)
  · apply Action.Contract.update
    intro log d hd
    rcases hd with ⟨hd, hrefused⟩
    have hholders := hd.holders
    simp only [Session.holders, Holders.mk.injEq] at hholders
    rcases hholders with ⟨hhost, hstream, -, hstopped⟩
    have hbare : Occupied l Rig.clocked true (host.toNat + 1) ⟨host, false, false, false⟩
        log { d with session := { d.session with fastBoot := false } } := by
      apply hd.changed
      · rfl
      · simp [Session.holders, hhost, hstream, hstopped]
      · intro hfalse
        cases hfalse
    exact ⟨⟨hbare, hd.unprogrammed rfl⟩, hrefused⟩
  intro _
  apply Action.Contract.inspect
  intro session
  apply Action.Contract.knowing (c := session.active = true)
  · intro log d hd
    rw [← hd.2]
    exact hd.1.1.active
  intro hactive
  rw [hactive, Action.when_true]
  apply Action.Contract.bind (M := fun _ log d => refused = false ∧
    Bare l (.on l) true (host.toNat + 1) host log d)
  · apply Action.Contract.onError ((contract_raiseRails refused).pre fun _ _ hd => hd.1)
    · intro e
      apply Action.Contract.assuming
      intro hrefused
      apply contract_abandonTakeOver.consequence
      · intro _ _ hd
        exact hd
      · intro _ _ _ hd
        exact ⟨hrefused, hd⟩
      · intro _ _ _ hfalse
        exact hfalse.elim
    · intro _ _ _ hfalse
      exact hfalse
  · intro _
    exact Action.Contract.pure fun _ _ hd => ⟨rfl, hd⟩

/-!
# The first stream
-/

theorem contract_acquire_busy {w : Watch} (hn : 0 < n) (hroom : n + 1 < UInt32.size) :
    Action.Contract acquire (Conducted w n h) (fun _ => Conducted w (n + 1) h)
      Action.never := by
  have hget : Action.Contract (onRig Rig.get) (Conducted w n h)
      (fun first log d =>
        if first then n = 0 ∧ Unpowered w 1 h log d else Conducted w (n + 1) h log d)
      Action.never := by
    intro log d hd
    have hend := contract_get log d hd
    have hfree : d.rig.usage.count.toNat + 1 < UInt32.size := by
      rw [hd.users]
      exact hroom
    rcases Rig.get_answers hfree with ⟨first, hfirst⟩
    rw [run_onRig, hfirst] at hend ⊢
    exact hend
  apply Action.Contract.bind hget
  intro first
  cases first with
  | true =>
      apply Action.Contract.assuming
      intro hzero
      exact absurd hzero (Nat.ne_of_gt hn)
  | false => exact Action.Contract.pure fun _ _ hd => hd

theorem contract_putNoIdle_busy {w : Watch} (hn : 0 < n) :
    Action.Contract (onRig Rig.putNoIdle) (Conducted w (n + 1) h)
      (fun _ => Conducted w n h) Action.never := by
  intro log d hd
  rcases Rig.run_putNoIdle hd.users with ⟨usage, hcount, hput⟩
  have hactive : d.session.active = decide (0 < n) := by
    rw [hd.active]
    simp [hn]
  rw [run_onRig, hput]
  exact ⟨hcount, hactive, fun _ => hn, hd.holders, fun _ => hn,
    fun _ => hd.streamed (Nat.succ_pos n), hd.lines, hd.leads_usage _ _ _,
    hd.steady_usage _ _ _⟩

theorem contract_takeOverIfNeeded_untouched (refused : Bool) :
    Action.Contract takeOverIfNeeded
      (fun log d => Untouched l host log d ∧ d.rig.board.reportsHandoffFailure = true ∧
        d.rig.board.refusesSupplies = refused)
      (fun surplus log d => surplus = true ∧ refused = false ∧
        Bare l (.on l) true (host.toNat + 1) host log d)
      (Action.reported fun log d => refused = true ∧
        Bare l .off false host.toNat host log d) := by
  intro log d hd
  rcases hd with ⟨hd, hreports, hrefused⟩
  have hfast : d.session.fastBoot = true := congrArg Holders.boot hd.holders
  have htake : takeOverIfNeeded.run d = takeOver.run d := by
    simp [takeOverIfNeeded, Action.run_bind, hfast, hreports]
  rw [htake]
  exact contract_takeOver refused log d ⟨hd, hrefused⟩

/--
Either the stream takes over and goes on like any other; or the supplies
refuse, and a host that is a user is left without power.
-/
theorem contract_beginStream_untouched (refused : Bool) :
    Action.Contract beginStream
      (fun log d => Untouched l host log d ∧ d.rig.board.reportsHandoffFailure = true ∧
        d.rig.board.refusesSupplies = refused)
      (fun _ log d => refused = false ∧
        Settled (.plain l) ⟨host, true, false, false⟩ log d)
      (fun _ log d => (refused = false ∧
          Settled (.plain l) ⟨host, false, false, false⟩ log d) ∨
        (refused = true ∧ Bare l .off false host.toNat host log d)) := by
  have hsize : host.toNat + 1 + 1 < UInt32.size := by
    have hhost := host.toNat_le
    have hsize : UInt32.size = 4294967296 := rfl
    omega
  apply Action.Contract.bind
  · apply (contract_takeOverIfNeeded_untouched refused).consequence
    · intro _ _ hd
      exact hd
    · intro _ _ _ hd
      exact hd
    · intro e _ _ hd
      cases e with
      | reported e => exact Or.inr hd
      | overflow kind => exact hd.elim
  intro surplus
  apply Action.Contract.assuming
  intro hsurplus
  apply Action.Contract.assuming
  intro hgranted
  subst hsurplus
  -- The stream's own user is counted before the boot stage's is given back.
  apply Action.Contract.bind
    ((contract_acquire_busy (Nat.succ_pos _) hsize).anyFailure.pre fun _ _ hd => hd.conducted)
  intro _
  rw [Action.when_true]
  apply Action.Contract.bind (contract_putNoIdle_busy (Nat.succ_pos _)).anyFailure
  intro _
  have htry := contract_tryStream (w := .plain l) (n := host.toNat)
    (h := ⟨host, false, false, false⟩) (fun hfalse => nomatch hfalse) fun _ => rfl
  apply Action.Contract.bind
  · apply htry.consequence
    · intro _ _ hd
      exact hd
    · intro _ _ _ hd
      exact hd
    · intro _ _ _ hd
      exact Or.inl ⟨hgranted, hd⟩
  · intro _
    have hmark := contract_markStream (w := .plain l)
      (h := ⟨host, false, false, false⟩) (E := fun _ _ _ => False) rfl
    apply hmark.consequence
    · intro _ _ hd
      exact hd
    · intro _ _ _ hd
      exact ⟨hgranted, hd⟩
    · intro _ _ _ hfalse
      exact hfalse.elim

end Device
end ImageSensor
