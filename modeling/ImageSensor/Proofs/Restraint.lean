import ImageSensor.Proofs.Requests
import ImageSensor.Proofs.Showing

/-!
# Restraint under a boot stage

As long as the boot stage's set-up is in use, supplies, lines and pins stay as
they are, and the bus serves only the switch of the stream and the controls
that the host asks for.  Where the hand-over stands, a request that gives up the
set-up does so by one complete power-down, once a stream was stopped.
-/

namespace ImageSensor

/-!
# Events that leave the set-up alone
-/

/-- Neither supplies, lines nor pins are touched, and of the registers only some. -/
def Event.Restrained (registers : List UInt16) : Event -> Prop
  | .suppliesOn _ => False
  | .suppliesOff => False
  | .line .. => False
  | .pins state _ => state = .default
  | .write _ register _ _ => register ∈ Register.streamControl :: registers
  | .read _ register _ => register ∈ registers
  | .readFailure _ register _ => register ∈ registers
  | _ => True

/-- Restrained, and the clock is not stopped either. -/
def Event.Calm (registers : List UInt16) (e : Event) : Prop :=
  e.Restrained registers ∧ e ≠ .clockOff

theorem Event.Calm.mono {registers more : List UInt16} {e : Event} (h : e.Calm registers)
    (hmore : registers ⊆ more) : e.Calm more := by
  refine ⟨?_, h.2⟩
  have hrestrained := h.1
  cases e with
  | write device register bytes ok =>
      exact List.cons_subset_cons Register.streamControl hmore hrestrained
  | read device register bytes => exact hmore hrestrained
  | readFailure device register width => exact hmore hrestrained
  | _ => exact hrestrained

theorem Board.calm_startEvents (b : Board) (hertz : UInt32) {registers : List UInt16}
    {e : Event} (he : e ∈ b.startEvents hertz) : e.Calm registers := by
  have hpins : forall e, e ∈ b.pinEvents .default -> e.Calm registers := by
    unfold pinEvents
    split <;> simp [Event.Calm, Event.Restrained]
  have hclock : forall e, e ∈ [Event.clockRate hertz (!b.refusesRate),
      .clockOn (!b.refusesClock)] -> e.Calm registers := by
    simp [Event.Calm, Event.Restrained]
  exact (List.mem_append.mp he).elim (hpins e) (hclock e)

theorem Lines.fallEvents_rated (l : Lines) (b : Board) (hertz : UInt32) :
    l.fallEvents (b.rated hertz) = l.fallEvents b := by
  unfold Board.rated
  split <;> rfl

theorem Board.settle_rated (b : Board) (hertz : UInt32) (count : Nat) :
    (b.rated hertz).settle count = (b.settle count).rated hertz := by
  unfold rated
  rw [refusesRate_settle]
  split <;> rfl

namespace Rig

/-- What a power-down records once so many more settings were asked for. -/
def powerDownEvents (rig : Rig) (count : Nat) : List Event :=
  .clockOff :: rig.lines.fallEvents (rig.board.settle count)

/-- A power-down stands in the log once, and nothing of one anywhere else. -/
def PowersDownOnce (rig : Rig) (log : List Event) : Prop :=
  exists count before after, log = before ++ rig.powerDownEvents count ++ after ∧
    forall e, e ∈ before ++ after -> forall other, e ∉ rig.powerDownEvents other

theorem not_mem_powerDownEvents {rig : Rig} {registers : List UInt16} {e : Event}
    (h : e.Calm registers) (count : Nat) : e ∉ rig.powerDownEvents count := by
  have hline : forall wire b, e ∉ rig.lines.driveEvents wire false b := by
    intro wire b hmem
    unfold Lines.driveEvents at hmem
    split at hmem
    · rw [List.mem_singleton.mp hmem] at h
      exact h.1
    · cases hmem
  have hpins : forall b : Board, e ∉ b.pinEvents .sleep := by
    intro b hmem
    unfold Board.pinEvents at hmem
    split at hmem
    · cases hmem
    · rw [List.mem_singleton.mp hmem] at h
      cases h.1
  have hsupplies : e ≠ .suppliesOff := by
    rintro rfl
    exact h.1
  simp [powerDownEvents, Lines.fallEvents, h.2, hline, hpins, hsupplies]

/-- Power-downs of the later rig are recorded as such of the earlier, some settings on. -/
def PowersDownAs (later earlier : Rig) : Prop :=
  exists n, forall count, later.powerDownEvents count = earlier.powerDownEvents (n + count)

variable {rig rig' rig'' : Rig}

theorem PowersDownAs.of_same (hboard : rig'.board = rig.board) (hlines : rig'.lines = rig.lines) :
    rig'.PowersDownAs rig := by
  refine ⟨0, ?_⟩
  intro count
  rw [powerDownEvents, hboard, hlines, Nat.zero_add]
  rfl

theorem PowersDownAs.trans (h : rig''.PowersDownAs rig') (h' : rig'.PowersDownAs rig) :
    rig''.PowersDownAs rig := by
  rcases h with ⟨m, hm⟩
  rcases h' with ⟨n, hn⟩
  refine ⟨n + m, ?_⟩
  intro count
  rw [hm, hn, Nat.add_assoc]

theorem powersDownAs_startClock (rig : Rig) (hertz : UInt32) :
    ((startClock hertz).run rig).state.PowersDownAs rig := by
  rw [run_startClock]
  refine ⟨(!rig.board.minimal).toNat, ?_⟩
  intro count
  show Event.clockOff :: rig.lines.fallEvents ((rig.board.pinned.rated hertz).settle count) = _
  rw [Board.settle_rated, Lines.fallEvents_rated, Board.pinned, Board.settle_settle]
  rfl

end Rig

theorem UsageCount.count_put_of_last {u : UsageCount} (h : u.put.1 = true) :
    u.put.2.count = 0 := by
  unfold put at h ⊢
  split at h
  case isTrue => cases h
  case isFalse hpos =>
      rw [if_neg hpos]
      exact beq_iff_eq.mp h

/-!
# Registers of a request
-/

/-- Where a control is put; a turn needs both axes. -/
def Control.registers : Control -> List UInt16
  | .exposure _ => Kind.exposure.registers
  | .analogGain _ => Kind.analogGain.registers
  | .horizontalFlip _ => [Register.mirror, Register.flip]
  | .verticalFlip _ => [Register.mirror, Register.flip]
  | _ => []

/-- Where a request leads; a frame blanking may move the exposure. -/
def ControlSet.registers (c : ControlSet) (m : Mode) : Control -> List UInt16
  | .verticalBlank lines =>
      match c.store (.verticalBlank lines) m with
      | .ok (_, true) => Control.Kind.exposure.registers
      | _ => []
  | request => request.registers

theorem ControlSet.subset_registers (c : ControlSet) (m : Mode) (request : Control) :
    request.registers ⊆ c.registers m request := by
  cases request with
  | verticalBlank lines => exact List.nil_subset _
  | _ => exact List.Subset.refl _

theorem ControlSet.exposure_subset_registers {c c' : ControlSet} {m : Mode}
    {request : Control} (hstore : c.store request m = .ok (c', true)) :
    Control.Kind.exposure.registers ⊆ c.registers m request := by
  cases request with
  | verticalBlank lines =>
      simp only [registers, hstore]
      exact List.Subset.refl _
  | _ => cases hstore

namespace Bus

variable {registers : List UInt16}

/-- Only these registers were accessed, and nothing else was recorded. -/
def Within (registers : List UInt16) (_ : Bus) (es : List Event) (_ : Bus) : Prop :=
  forall e, e ∈ es -> e.Calm registers

theorem composes_within : Action.Composes (Within registers) where
  refl := fun _ _ he => nomatch he
  trans := fun hes hfs => List.forall_mem_append.mpr ⟨hes, hfs⟩

theorem within_writeByte {register : UInt16} (value : UInt8)
    (hregister : register ∈ Register.streamControl :: registers) :
    Action.Obeys (Within registers) (writeByte register value) := by
  intro b
  refine ⟨?_, (active_write register 1 value.toUInt32 b).2⟩
  cases hfails : b.failsNext .write register with
  | true =>
      rw [run_writeByte_of_failure hfails]
      intro e he
      rw [List.mem_singleton.mp he]
      exact ⟨hregister, fun h => nomatch h⟩
  | false =>
      rw [run_writeByte hfails]
      intro e he
      rw [List.mem_singleton.mp he]
      exact ⟨hregister, fun h => nomatch h⟩

theorem within_readByte {register : UInt16} (hregister : register ∈ registers) :
    Action.Obeys (Within registers) (readByte register) := by
  intro b
  refine ⟨?_, (active_readByte register b).2⟩
  cases hfails : b.failsNext .read register with
  | true =>
      rw [run_readByte_of_failure hfails]
      intro e he
      rw [List.mem_singleton.mp he]
      exact ⟨hregister, fun h => nomatch h⟩
  | false =>
      rw [run_readByte hfails]
      intro e he
      rw [List.mem_singleton.mp he]
      exact ⟨hregister, fun h => nomatch h⟩

theorem within_writeEach {writes : List (UInt16 × UInt8)}
    (hwrites : writes.map Prod.fst ⊆ registers) :
    Action.Obeys (Within registers) (writeEach writes) := by
  induction writes with
  | nil => exact composes_within.pure ()
  | cons head rest ih =>
      rw [List.map_cons, List.cons_subset] at hwrites
      exact composes_within.both
        (within_writeByte head.2 (List.mem_cons_of_mem _ hwrites.1)) (ih hwrites.2)

end Bus

namespace Device

variable {registers : List UInt16} {α : Type}

/-!
# Work that leaves the set-up alone
-/

/-- The set-up, its users and what a power-down would record are the same as before. -/
structure Discreet (registers : List UInt16) (d : Device) (es : List Event) (d' : Device) :
    Prop where
  boot : d'.session.fastBoot = d.session.fastBoot
  stopped : d'.session.stoppedOnce = d.session.stoppedOnce
  users : d'.rig.usage = d.rig.usage
  sequence : d'.rig.PowersDownAs d.rig
  calm : forall e, e ∈ es -> e.Calm registers

theorem composes_discreet : Action.Composes (Discreet registers) where
  refl := fun _ => ⟨rfl, rfl, rfl, .of_same rfl rfl, fun _ he => nomatch he⟩
  trans := fun hes hfs =>
    ⟨hfs.boot.trans hes.boot, hfs.stopped.trans hes.stopped, hfs.users.trans hes.users,
      hfs.sequence.trans hes.sequence, List.forall_mem_append.mpr ⟨hes.calm, hfs.calm⟩⟩

theorem discreet_mono {more : List UInt16} {x : Action Device α}
    (hx : Action.Obeys (Discreet registers) x) (hmore : registers ⊆ more) :
    Action.Obeys (Discreet more) x := by
  intro d
  rcases hx d with ⟨h, hover⟩
  exact ⟨⟨h.boot, h.stopped, h.users, h.sequence, fun e he => (h.calm e he).mono hmore⟩, hover⟩

theorem discreet_onBus {x : Action Bus α} (hx : Action.Obeys (Bus.Within registers) x) :
    Action.Obeys (Discreet registers) (onBus x) :=
  fun d => ⟨⟨rfl, rfl, rfl, .of_same rfl rfl, (hx d.rig.bus).1⟩, (hx d.rig.bus).2⟩

theorem discreet_changeSession {f : Session -> Session}
    (hboot : forall s, (f s).fastBoot = s.fastBoot)
    (hstopped : forall s, (f s).stoppedOnce = s.stoppedOnce) :
    Action.Obeys (Discreet registers) (changeSession f) :=
  fun d => ⟨⟨hboot d.session, hstopped d.session, rfl, .of_same rfl rfl,
    fun _ he => nomatch he⟩, fun _ hover => nomatch hover⟩

theorem discreet_changeControls (controls : ControlSet) :
    Action.Obeys (Discreet registers) (changeControls controls) :=
  fun _ => ⟨⟨rfl, rfl, rfl, .of_same rfl rfl, fun _ he => nomatch he⟩,
    fun _ hover => nomatch hover⟩

theorem discreet_switchStream (on : Bool) :
    Action.Obeys (Discreet registers) (switchStream on) :=
  discreet_onBus (Bus.within_writeByte _ List.mem_cons_self)

theorem discreet_writeLinear (writes : List (UInt16 × UInt8)) :
    Action.Obeys (Discreet (writes.map Prod.fst))
      (Action.inspect Device.mode >>= fun mode =>
        Action.when mode.isLinear (onBus (Bus.writeEach writes))) := by
  apply composes_discreet.bind (composes_discreet.inspect _)
  intro mode
  exact composes_discreet.when _
    (discreet_onBus (Bus.within_writeEach (List.Subset.refl _)))

theorem discreet_turn (f : Orientation -> Orientation) :
    Action.Obeys (Discreet [Register.mirror, Register.flip])
      (readOrientation >>= fun o => setOrientation (f o).code) := by
  have hread : Action.Obeys (Discreet [Register.mirror, Register.flip]) readOrientation := by
    apply composes_discreet.bind (discreet_onBus (Bus.within_readByte (by simp)))
    intro mirror
    apply composes_discreet.bind (discreet_onBus (Bus.within_readByte (by simp)))
    intro flip
    exact composes_discreet.pure _
  apply composes_discreet.bind hread
  intro o
  apply composes_discreet.bind (discreet_onBus (Bus.within_writeEach _))
  · intro _
    exact discreet_changeSession (fun _ => rfl) fun _ => rfl
  · rw [Register.orientationWrites_registers]
    simp [Control.Kind.registers]

theorem discreet_push (control : Control) :
    Action.Obeys (Discreet control.registers) (push control) := by
  cases control with
  | exposure lines => exact discreet_writeLinear (Register.exposureWrites lines)
  | analogGain gain => exact discreet_writeLinear (Register.gainWrites (Gain.encode gain))
  | horizontalBlank pixels => exact composes_discreet.pure ()
  | verticalBlank lines =>
      exact discreet_changeSession
        (f := fun s => { s with frameLength := s.entry.mode.frameLength })
        (fun _ => rfl) fun _ => rfl
  | testPattern pattern => exact composes_discreet.pure ()
  | horizontalFlip on => exact discreet_turn fun o => { o with mirror := on }
  | verticalFlip on => exact discreet_turn fun o => { o with flip := on }

theorem discreet_pushStored {c : ControlSet} {m : Mode} {request : Control}
    {stored : ControlSet × Bool} (hstore : c.store request m = .ok stored) :
    Action.Obeys (Discreet (c.registers m request)) (pushStored request stored) := by
  have hpush := discreet_mono (discreet_push request) (c.subset_registers m request)
  rcases stored with ⟨c', moved⟩
  cases moved with
  | false => exact hpush
  | true =>
      have hexposure := discreet_mono (discreet_push (.exposure c'.exposure.value))
        (ControlSet.exposure_subset_registers hstore)
      exact composes_discreet.both hpush hexposure

/-!
# The set-up in use and given up
-/

/-- The set-up is in use, and nothing of a power-down was recorded. -/
structure Standing (rig : Rig) (registers : List UInt16) (stopped : Bool) (log : List Event)
    (d : Device) : Prop where
  boot : d.session.fastBoot = true
  stopped : d.session.stoppedOnce = stopped
  sequence : d.rig.PowersDownAs rig
  calm : forall e, e ∈ log -> e.Calm registers

/-- The set-up is in use, but the clock may have been stopped. -/
structure Resting (registers : List UInt16) (stopped : Bool) (log : List Event)
    (d : Device) : Prop where
  boot : d.session.fastBoot = true
  stopped : d.session.stoppedOnce = stopped
  restrained : forall e, e ∈ log -> e.Restrained registers

/-- The set-up was given up by one power-down. -/
structure Fallen (rig : Rig) (registers : List UInt16) (log : List Event) (d : Device) :
    Prop where
  boot : d.session.fastBoot = false
  powerDown : exists count before after,
    log = before ++ rig.powerDownEvents count ++ after ∧
      forall e, e ∈ before ++ after -> e.Calm registers

/-- How a user may have left, before or after the first stop of a stream. -/
inductive Relieved (rig : Rig) (registers : List UInt16) : Bool -> Action.Assertion Device where
  | standing {stopped : Bool} {log : List Event} {d : Device} :
      Standing rig registers stopped log d -> Relieved rig registers stopped log d
  | resting {log : List Event} {d : Device} :
      Resting registers false log d -> Relieved rig registers false log d
  | fallen {log : List Event} {d : Device} :
      d.rig.usage.count = 0 -> Fallen rig registers log d -> Relieved rig registers true log d

/-- How a request may end. -/
def Ended (rig : Rig) (registers : List UInt16) (stopped : Bool) (log : List Event)
    (d : Device) : Prop :=
  Resting registers stopped log d ∨ (stopped = true ∧ Fallen rig registers log d)

section

variable {rig : Rig} {stopped : Bool} {log es : List Event} {d d' : Device}

theorem Standing.start (registers : List UInt16) (hboot : d.session.fastBoot = true) :
    Standing d.rig registers d.session.stoppedOnce [] d :=
  ⟨hboot, rfl, .of_same rfl rfl, fun _ he => nomatch he⟩

theorem Standing.resting (hd : Standing rig registers stopped log d) :
    Resting registers stopped log d :=
  ⟨hd.boot, hd.stopped, fun e he => (hd.calm e he).1⟩

theorem Fallen.powersDownOnce (hd : Fallen rig registers log d) : rig.PowersDownOnce log := by
  rcases hd.powerDown with ⟨count, before, after, hlog, hcalm⟩
  exact ⟨count, before, after, hlog, fun e he => Rig.not_mem_powerDownEvents (hcalm e he)⟩

theorem Relieved.ended (hd : Relieved rig registers stopped log d) :
    Ended rig registers stopped log d := by
  cases hd with
  | standing hd => exact Or.inl hd.resting
  | resting hd => exact Or.inl hd
  | fallen _ hd => exact Or.inr ⟨rfl, hd⟩

theorem Standing.discreet (hd : Standing rig registers stopped log d)
    (h : Discreet registers d es d') : Standing rig registers stopped (log ++ es) d' :=
  ⟨h.boot.trans hd.boot, h.stopped.trans hd.stopped, h.sequence.trans hd.sequence,
    List.forall_mem_append.mpr ⟨hd.calm, h.calm⟩⟩

theorem Fallen.discreet (hd : Fallen rig registers log d) (h : Discreet registers d es d') :
    Fallen rig registers (log ++ es) d' := by
  rcases hd.powerDown with ⟨count, before, after, rfl, hcalm⟩
  refine ⟨h.boot.trans hd.boot, count, before, after ++ es, by simp, ?_⟩
  rw [← List.append_assoc]
  exact List.forall_mem_append.mpr ⟨hcalm, h.calm⟩

theorem Relieved.discreet (hd : Relieved rig registers stopped log d)
    (h : Discreet registers d es d') : Relieved rig registers stopped (log ++ es) d' := by
  cases hd with
  | standing hd => exact .standing (hd.discreet h)
  | resting hd =>
      refine .resting ⟨h.boot.trans hd.boot, h.stopped.trans hd.stopped, ?_⟩
      exact List.forall_mem_append.mpr ⟨hd.restrained, fun e he => (h.calm e he).1⟩
  | fallen hcount hd => exact .fallen (h.users ▸ hcount) (hd.discreet h)

theorem standing_discreet {x : Action Device α} (hx : Action.Obeys (Discreet registers) x) :
    Action.Keeps (Standing rig registers stopped) x :=
  hx.keeps fun _ _ _ _ hd h => hd.discreet h

theorem relieved_discreet {x : Action Device α} (hx : Action.Obeys (Discreet registers) x) :
    Action.Keeps (Relieved rig registers stopped) x :=
  hx.keeps fun _ _ _ _ hd h => hd.discreet h

/-!
# Users
-/

theorem Standing.moved (hd : Standing rig registers stopped log d) (usage : UsageCount)
    (call : UsageCall) (answer : Option Bool) (count : UInt32) :
    Standing rig registers stopped (log ++ [.usage call answer count])
      { d with rig := { d.rig with usage := usage } } := by
  refine ⟨hd.boot, hd.stopped, hd.sequence, List.forall_mem_append.mpr ⟨hd.calm, ?_⟩⟩
  intro e he
  rw [List.mem_singleton.mp he]
  exact ⟨trivial, fun h => nomatch h⟩

theorem standing_moveUsage (call : UsageCall)
    (move : UsageCount -> Checked (Bool × UsageCount)) :
    Action.Keeps (Standing rig registers stopped) (onRig (Rig.moveUsage call move)) := by
  intro log d hd
  cases hmove : move d.rig.usage with
  | ok next => simpa [Rig.moveUsage, hmove] using hd.moved next.2 call (some next.1) next.2.count
  | error kind => simpa [Rig.moveUsage, hmove] using hd

theorem standing_putNoIdle :
    Action.Keeps (Standing rig registers stopped) (onRig Rig.putNoIdle) :=
  fun _ _ hd => hd.moved _ _ _ _

theorem contract_put_standing :
    Action.Contract (onRig Rig.put) (Standing rig registers stopped)
      (fun last log d => Standing rig registers stopped log d ∧
        (last = true -> d.rig.usage.count = 0)) Action.never := by
  intro log d hd
  exact ⟨hd.moved _ _ _ _, UsageCount.count_put_of_last⟩

theorem run_release_idle (hcount : d.rig.usage.count = 0) :
    release.run d = ⟨.ok (), d, [.usage .put (some false) d.rig.usage.count]⟩ := by
  simp [release, Action.run_bind, Rig.run_put_of_idle hcount]

/-!
# Power
-/

theorem discreet_startClock (hertz : UInt32) :
    Action.Obeys (Discreet registers) (onRig (Rig.startClock hertz)) := by
  intro d
  have hsequence := Rig.powersDownAs_startClock d.rig hertz
  rw [run_onRig]
  rw [Rig.run_startClock] at hsequence ⊢
  refine ⟨⟨rfl, rfl, rfl, hsequence, fun e he => d.rig.board.calm_startEvents hertz he⟩, ?_⟩
  intro kind
  cases d.rig.board.refusesClock <;> simp

theorem standing_powerOn : Action.Keeps (Standing rig registers stopped) powerOn := by
  apply Action.Contract.inspect_knowing (c := fun device => device.session.fastBoot = true)
    fun _ _ hd => hd.boot
  intro device hboot
  rw [hboot, Bool.not_true, Action.when_false]
  apply (standing_discreet (discreet_startClock _)).bind
  intro _
  apply Action.Keeps.bind (Action.Keeps.pure ())
  intro _
  exact standing_discreet (discreet_changeSession (f := fun s => { s with active := true })
    (fun _ => rfl) fun _ => rfl)

theorem standing_acquire : Action.Keeps (Standing rig registers stopped) acquire := by
  apply (standing_moveUsage _ _).bind
  intro first
  exact (standing_powerOn.onError standing_putNoIdle).when first

/-- Before the first stop of a stream only the clock is stopped. -/
theorem contract_powerOff_early :
    Action.Contract powerOff (Standing rig registers false)
      (fun _ => Resting registers false) Action.never := by
  intro log d hd
  have hrun : powerOff.run d =
      ⟨.ok (), { d with session := { d.session with active := false, programmed := false } },
        [.clockOff]⟩ := by
    simp [powerOff, Action.run_bind, hd.boot, hd.stopped]
  rw [hrun]
  refine ⟨hd.boot, hd.stopped, List.forall_mem_append.mpr ⟨hd.resting.restrained, ?_⟩⟩
  intro e he
  rw [List.mem_singleton.mp he]
  trivial

/-- After it the set-up is given up together with the power. -/
theorem contract_powerOff_late (count : UInt32) :
    Action.Contract powerOff
      (fun log d => Standing rig registers true log d ∧ d.rig.usage.count = count)
      (fun _ log d => Fallen rig registers log d ∧ d.rig.usage.count = count)
      Action.never := by
  intro log d hd
  rcases hd.1.sequence with ⟨n, hsequence⟩
  rw [run_powerOff fun _ => hd.1.stopped]
  refine ⟨⟨rfl, n, log, [], ?_, by simpa using hd.1.calm⟩, hd.2⟩
  rw [List.append_nil, ← Nat.add_zero n, ← hsequence]
  rfl

theorem contract_release_standing :
    Action.Contract release (Standing rig registers stopped)
      (fun _ => Relieved rig registers stopped) Action.never := by
  apply Action.Contract.bind contract_put_standing
  intro last
  cases last with
  | false => exact Action.Contract.pure fun _ _ hd => .standing hd.1
  | true =>
      rw [Action.when_true]
      -- the last user takes the power along, but the set-up only once a stream was stopped
      cases stopped with
      | false =>
          exact (contract_powerOff_early.pre fun _ _ hd => hd.1).post
            fun _ _ _ hd => Relieved.resting hd
      | true =>
          apply (contract_powerOff_late 0).consequence
          · intro _ _ hd
            exact ⟨hd.1, hd.2 rfl⟩
          · intro _ _ _ hd
            exact .fallen hd.2 hd.1
          · intro _ _ _ hfalse
            exact hfalse

theorem contract_release_relieved :
    Action.Contract release (Relieved rig registers true)
      (fun _ => Relieved rig registers true) Action.never := by
  intro log d hd
  cases hd with
  | standing hd => exact contract_release_standing log d hd
  | fallen hcount hd =>
      rw [run_release_idle hcount]
      refine .fallen hcount (hd.discreet ⟨rfl, rfl, rfl, .of_same rfl rfl, ?_⟩)
      intro e he
      rw [List.mem_singleton.mp he]
      exact ⟨trivial, fun h => nomatch h⟩

/-!
# Requests
-/

theorem relieved_of_keeps {x : Action Device α}
    (hx : Action.Keeps (Standing rig registers stopped) x) :
    Action.Contract x (Standing rig registers stopped)
      (fun _ => Relieved rig registers stopped) (fun _ => Relieved rig registers stopped) :=
  hx.consequence (fun _ _ hd => hd) (fun _ _ _ hd => .standing hd) fun _ _ _ hd => .standing hd

theorem ended_of_relieved {P : Action.Assertion Device} {x : Action Device α}
    (hx : Action.Contract x P (fun _ => Relieved rig registers stopped)
      (fun _ => Relieved rig registers stopped)) :
    Action.Contract x P (fun _ => Ended rig registers stopped)
      (fun _ => Ended rig registers stopped) :=
  hx.consequence (fun _ _ hd => hd) (fun _ _ _ hd => hd.ended) fun _ _ _ hd => hd.ended

theorem contract_setPower_standing (on : Bool) :
    Action.Contract (setPower on) (Standing rig registers stopped)
      (fun _ => Relieved rig registers stopped) (fun _ => Relieved rig registers stopped) := by
  have hhost : forall on, Action.Obeys (Discreet registers)
      (changeSession fun s => { s with hostPower := on }) :=
    fun on => discreet_changeSession (fun _ => rfl) fun _ => rfl
  apply Action.Contract.inspect
  intro session
  split
  case isTrue => exact Action.Contract.pure fun _ _ hd => .standing hd.1
  case isFalse =>
      split
      case isTrue =>
          have hgrant : Action.Keeps (Standing rig registers stopped) grantPower := by
            rw [grantPower_eq]
            exact standing_acquire.bind fun _ => standing_discreet (hhost true)
          exact (relieved_of_keeps hgrant).pre fun _ _ hd => hd.1
      case isFalse =>
          apply Action.Contract.bind (M := fun _ => Relieved rig registers stopped)
          · exact contract_release_standing.anyFailure.pre fun _ _ hd => hd.1
          · intro _
            exact relieved_discreet (hhost false)

theorem contract_startStream_standing :
    Action.Contract startStream (Standing rig registers stopped)
      (fun _ => Standing rig registers stopped)
      (fun _ => Standing rig registers stopped) := by
  apply Action.Contract.inspect_knowing (c := fun session => session.fastBoot = true)
    fun _ _ hd => hd.boot
  intro session hboot
  rw [hboot, Bool.not_true, Action.when_false]
  apply Action.Keeps.bind (Action.Keeps.pure ())
  intro _
  exact standing_discreet (discreet_switchStream true)

theorem contract_beginStream_standing :
    Action.Contract beginStream
      (fun log d => Standing rig registers stopped log d ∧
        d.rig.board.reportsHandoffFailure = false)
      (fun _ => Relieved rig registers stopped) (fun _ => Relieved rig registers stopped) := by
  have hmark : Action.Keeps (Standing rig registers stopped)
      (changeSession fun s => { s with streaming := true }) :=
    standing_discreet (discreet_changeSession (fun _ => rfl) fun _ => rfl)
  apply contract_beginStream_of_stands (M := Standing rig registers stopped)
    (I := Standing rig registers stopped)
  · exact fun _ _ hd _ => hd.2
  · exact standing_acquire.consequence (fun _ _ hd => hd.1) (fun _ _ _ hd => hd)
      fun _ _ _ hd => .standing hd
  · apply Action.Contract.onError contract_startStream_standing
    · intro _
      exact contract_release_standing.anyFailure
    · exact fun _ _ _ hd => .standing hd
  · exact relieved_of_keeps hmark

/-- The boot stage's user leaves first; the stream's own may be there no longer. -/
theorem contract_endStream_standing :
    Action.Contract endStream (Standing rig registers stopped)
      (fun _ => Relieved rig registers true) (fun _ => Relieved rig registers true) := by
  have hleave : Action.Contract leaveBootStage (Standing rig registers stopped)
      (fun _ => Relieved rig registers true) (fun _ => Relieved rig registers true) := by
    apply Action.Contract.bind (M := fun _ => Standing rig registers true)
    · exact Action.Contract.update fun _ _ hd => ⟨hd.boot, rfl, hd.sequence, hd.calm⟩
    · intro _
      exact contract_release_standing.anyFailure
  have hstop : Action.Contract stopStream (Standing rig registers stopped)
      (fun _ => Relieved rig registers true) (fun _ => Relieved rig registers true) := by
    apply Action.Contract.inspect_knowing (c := fun session => session.fastBoot = true)
      fun _ _ hd => hd.boot
    intro session hboot
    rw [hboot, Action.when_true]
    apply Action.Contract.bind hleave
    intro _
    exact relieved_discreet (discreet_switchStream false)
  -- if the power is down already, this user is missing and nothing is taken down twice
  have hend : Action.Contract leaveStream (Relieved rig registers true)
      (fun _ => Relieved rig registers true) (fun _ => Relieved rig registers true) := by
    apply Action.Contract.bind contract_release_relieved.anyFailure
    intro _
    exact relieved_discreet (discreet_changeSession (f := fun s => { s with streaming := false })
      (fun _ => rfl) fun _ => rfl)
  apply Action.Contract.ensuring hstop
  · intro _
    exact hend
  · intro _
    exact hend
  · exact fun _ _ _ hd => hd

theorem contract_applyControl_standing (request : Control) :
    Action.Contract (applyControl request)
      (fun log d => Standing rig registers stopped log d ∧
        d.controls.registers d.mode request = registers)
      (fun _ => Relieved rig registers stopped) (fun _ => Relieved rig registers stopped) := by
  apply Action.Contract.inspect
  intro before
  apply Action.Contract.inspect
  intro mode
  apply Action.Contract.knowing (c := before.registers mode request = registers)
  · rintro log d ⟨⟨⟨-, hregisters⟩, rfl⟩, rfl⟩
    exact hregisters
  intro hregisters
  subst hregisters
  split
  case isFalse => exact Action.Contract.report fun _ _ hd => .standing hd.1.1.1
  case isTrue =>
      apply Action.Contract.bind (M := fun stored log d =>
        before.store request mode = .ok stored ∧
          Standing rig (before.registers mode request) stopped log d)
      · apply Action.Contract.compute
        · intro _ _ hd stored hstore
          exact ⟨hstore, hd.1.1.1⟩
        · exact fun _ _ _ hd => .standing hd.1.1.1
      intro stored
      apply Action.Contract.assuming
      intro hstore
      have hpush : Action.Keeps (Standing rig (before.registers mode request) stopped)
          (pushStored request stored) :=
        standing_discreet (discreet_pushStored hstore)
      have hdeliver : Action.Contract (deliver before request stored)
          (Standing rig (before.registers mode request) stopped)
          (fun _ => Relieved rig (before.registers mode request) stopped)
          (fun _ => Relieved rig (before.registers mode request) stopped) := by
        apply Action.Contract.onError
          (F := fun _ => Relieved rig (before.registers mode request) stopped)
        · apply Action.Contract.ensuring hpush
          · intro _
            exact contract_release_standing.anyFailure
          · intro _
            exact contract_release_standing.anyFailure
          · exact fun _ _ _ hd => .standing hd
        · intro _
          exact relieved_discreet (discreet_changeControls before)
        · exact fun _ _ _ hd => hd
      apply Action.Contract.bind
        (M := fun _ => Standing rig (before.registers mode request) stopped)
      · exact (standing_discreet (discreet_changeControls stored.1)).orElse
          fun _ _ _ hd => .standing hd
      intro _
      apply Action.Contract.bind
        (M := fun _ => Standing rig (before.registers mode request) stopped)
      · exact (standing_moveUsage _ _).orElse fun _ _ _ hd => .standing hd
      intro inUse
      apply Action.Contract.when
      · intro _
        exact hdeliver
      · exact fun _ _ _ hd => .standing hd

theorem standing_selectMode (entry : Entry) :
    Action.Keeps (Standing rig registers stopped) (selectMode entry) :=
  keeps_selectMode (fun controls => standing_discreet (discreet_changeControls controls))
    (standing_discreet (discreet_changeSession (fun _ => rfl) fun _ => rfl))

theorem negotiable_standing : Negotiable (Standing rig registers stopped) where
  scratch := fun _ => standing_discreet (discreet_changeSession (fun _ => rfl) fun _ => rfl)
  selectMode := fun _ => (standing_selectMode _).pre fun _ _ hd => hd.1

theorem ended_powerOff :
    Action.Contract powerOff (Standing rig registers stopped)
      (fun _ => Ended rig registers stopped) (fun _ => Ended rig registers stopped) := by
  cases stopped with
  | false => exact contract_powerOff_early.anyFailure.post fun _ _ _ hd => Or.inl hd
  | true =>
      intro log d hd
      have hlate : Action.Contract powerOff
          (fun log e => Standing rig registers true log e ∧
            e.rig.usage.count = d.rig.usage.count)
          (fun _ => Ended rig registers true) (fun _ => Ended rig registers true) :=
        (contract_powerOff_late _).anyFailure.post fun _ _ _ hd => Or.inr ⟨rfl, hd.1⟩
      exact hlate log d ⟨hd, rfl⟩

/-- A stream that is stopped is stopped under the set-up. -/
theorem ended_setStream (on : Bool)
    (hstands : on = true -> d.session.streaming = false -> d.HandoffStands)
    (hboot : d.session.fastBoot = true) :
    Action.Contract (setStream on) (fun log e => log = [] ∧ e = d)
      (fun _ => Ended d.rig registers
        (d.session.stoppedOnce || (!on && d.session.streaming)))
      (fun _ => Ended d.rig registers
        (d.session.stoppedOnce || (!on && d.session.streaming))) := by
  have hstart := Standing.start registers hboot
  by_cases hsame : d.session.streaming = on
  · rintro _ _ ⟨rfl, rfl⟩
    rw [run_setStream_same hsame, hsame, Bool.not_and_self, Bool.or_false]
    exact Or.inl hstart.resting
  · have hother : d.session.streaming = !on := Bool.eq_not_of_ne hsame
    cases on with
    | true =>
        rw [Bool.not_true, Bool.false_and, Bool.or_false]
        apply ended_of_relieved
        apply contract_setStream_on
        · rintro _ _ ⟨-, rfl⟩
          exact hother
        · apply contract_beginStream_standing.pre
          rintro _ _ ⟨rfl, rfl⟩
          exact ⟨hstart, hstands rfl hother hboot⟩
    | false =>
        rw [hother, Bool.not_false, Bool.and_self, Bool.or_true]
        apply ended_of_relieved
        apply contract_setStream_off
        · rintro _ _ ⟨-, rfl⟩
          exact hother
        · apply Action.Contract.pre (P := Standing d.rig registers d.session.stoppedOnce)
            contract_endStream_standing
          rintro _ _ ⟨rfl, rfl⟩
          exact hstart

/-- Attaching adds the boot stage's user and runs the clock. -/
theorem standing_bringUp : Action.Keeps (Standing rig registers stopped) bringUp := by
  apply standing_powerOn.bind
  intro _
  apply Action.Contract.inspect_knowing (c := fun session => session.fastBoot = true)
    fun _ _ hd => hd.boot
  intro session hboot
  rw [if_pos hboot]
  apply (standing_moveUsage _ _).bind
  intro _
  exact Action.Keeps.pure ()

theorem standing_attach {c : Config} (rig : Rig) (hboot : c.fastBoot = true) :
    Standing (initial c rig).rig [] false (attach c rig).events (attach c rig).state := by
  have hend : Standing (initial c rig).rig [] false ([] ++ (attach c rig).events)
      (attach c rig).state :=
    standing_bringUp.always (Standing.start (d := initial c rig) [] hboot)
  exact hend

end

end Device
end ImageSensor
