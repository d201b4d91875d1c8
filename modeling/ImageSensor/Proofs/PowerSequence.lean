import ImageSensor.Device.Power
import ImageSensor.Proofs.Contract
import ImageSensor.Proofs.Levels

/-!
# The power sequences

What each sequence answers, leaves behind and records, in closed form, and
where it takes the levels.  The clock is started first and the rails follow;
either may be refused, and then everything is off again.  On the way down the
clock stops first and the supplies go last.
-/

namespace ImageSensor

@[simp]
theorem Outcome.after_mk {σ α : Type} (es fs : List Event)
    (r : Except Failure α) (s : σ) :
    Outcome.after es ⟨r, s, fs⟩ = ⟨r, s, es ++ fs⟩ := rfl

/-!
# Settings

A setting moves nothing but the number of the next, so it is only the mark on a
later setting that depends on it.
-/

namespace Board

variable {b : Board} {count : Nat}

@[simp]
theorem settle_settle (b : Board) (m n : Nat) : (b.settle m).settle n = b.settle (m + n) := by
  simp [settle, Nat.add_assoc]

@[simp]
theorem minimal_settle : (b.settle count).minimal = b.minimal := rfl

@[simp]
theorem refusesRate_settle : (b.settle count).refusesRate = b.refusesRate := rfl

@[simp]
theorem refusesClock_settle : (b.settle count).refusesClock = b.refusesClock := rfl

@[simp]
theorem refusesSupplies_settle :
    (b.settle count).refusesSupplies = b.refusesSupplies := rfl

/-- The board after it was asked for a rate. -/
def rated (b : Board) (hertz : UInt32) : Board :=
  if b.refusesRate then b else { b with rate := hertz }

@[simp]
theorem refusesClock_rated (b : Board) (hertz : UInt32) :
    (b.rated hertz).refusesClock = b.refusesClock := by
  unfold rated
  cases b.refusesRate <;> rfl

@[simp]
theorem refusesSupplies_rated (b : Board) (hertz : UInt32) :
    (b.rated hertz).refusesSupplies = b.refusesSupplies := by
  unfold rated
  cases b.refusesRate <;> rfl

/-- The board after it was asked for a setting of its pins. -/
def pinned (b : Board) : Board :=
  b.settle (!b.minimal).toNat

/-- The board after the clock was asked for. -/
def started (b : Board) (hertz : UInt32) : Board :=
  b.pinned.rated hertz

@[simp]
theorem refusesClock_started (b : Board) (hertz : UInt32) :
    (b.started hertz).refusesClock = b.refusesClock :=
  refusesClock_rated b.pinned hertz

@[simp]
theorem refusesSupplies_started (b : Board) (hertz : UInt32) :
    (b.started hertz).refusesSupplies = b.refusesSupplies :=
  refusesSupplies_rated b.pinned hertz

/-- A minimal board has no pins to set. -/
def pinEvents (b : Board) (state : PinState) : List Event :=
  if b.minimal then [] else [.pins state (b.agrees b.refusesPins)]

/-- What is recorded when the clock is asked for. -/
def startEvents (b : Board) (hertz : UInt32) : List Event :=
  b.pinEvents .default ++ [.clockRate hertz (!b.refusesRate), .clockOn (!b.refusesClock)]

@[simp]
theorem filter_pinEvents (b : Board) (state : PinState) :
    (b.pinEvents state).filter Event.isTransaction = [] := by
  unfold pinEvents
  split <;> rfl

@[simp]
theorem filter_startEvents (b : Board) (hertz : UInt32) :
    (b.startEvents hertz).filter Event.isTransaction = [] := by
  simp [startEvents, Event.isTransaction]

end Board

namespace Lines

/-- The board after it was asked for a level on a line. -/
def driven (l : Lines) (wire : Line) (b : Board) : Board :=
  b.settle (l.has wire).toNat

/-- A line that is not wired cannot be driven. -/
def driveEvents (l : Lines) (wire : Line) (high : Bool) (b : Board) : List Event :=
  if l.has wire then [.line wire high (b.agrees b.refusesLevels)] else []

@[simp]
theorem filter_driveEvents (l : Lines) (wire : Line) (high : Bool) (b : Board) :
    (l.driveEvents wire high b).filter Event.isTransaction = [] := by
  unfold driveEvents
  split <;> rfl

/-- The board after the rails came up. -/
def risen (l : Lines) (b : Board) : Board :=
  l.driven .powerDown (l.driven .reset (l.driven .reset b))

/-- What is recorded while the rails come up. -/
def riseEvents (l : Lines) (ready : UInt32) (b : Board) : List Event :=
  l.driveEvents .reset false b ++ [.suppliesOn true] ++
    l.driveEvents .reset true (l.driven .reset b) ++ [.pauseMicroseconds 500] ++
    l.driveEvents .powerDown true (l.driven .reset (l.driven .reset b)) ++
    [.pauseMicroseconds (if l.hasReset then 6000 else 12000), .pauseMicroseconds ready]

/-- What is recorded if the supplies refuse. -/
def refusalEvents (l : Lines) (b : Board) : List Event :=
  l.driveEvents .reset false b ++ [.suppliesOn false, .clockOff]

/-- The board before its pins are put to sleep. -/
def lowered (l : Lines) (b : Board) : Board :=
  l.driven .reset (l.driven .powerDown b)

/-- The board after the rails went down. -/
def fallen (l : Lines) (b : Board) : Board :=
  (l.lowered b).pinned

/-- What is recorded while the rails go down. -/
def fallEvents (l : Lines) (b : Board) : List Event :=
  l.driveEvents .powerDown false b ++ l.driveEvents .reset false (l.driven .powerDown b) ++
    (l.lowered b).pinEvents .sleep ++ [.suppliesOff]

@[simp]
theorem filter_riseEvents (l : Lines) (ready : UInt32) (b : Board) :
    (l.riseEvents ready b).filter Event.isTransaction = [] := by
  simp [riseEvents, Event.isTransaction]

@[simp]
theorem filter_refusalEvents (l : Lines) (b : Board) :
    (l.refusalEvents b).filter Event.isTransaction = [] := by
  simp [refusalEvents, Event.isTransaction]

@[simp]
theorem filter_fallEvents (l : Lines) (b : Board) :
    (l.fallEvents b).filter Event.isTransaction = [] := by
  simp [fallEvents, Event.isTransaction]

end Lines

namespace Rig

@[simp]
theorem run_drive (wire : Line) (high : Bool) (rig : Rig) :
    (onLines (Lines.drive wire high)).run rig =
      ⟨.ok (), { rig with board := rig.lines.driven wire rig.board },
        rig.lines.driveEvents wire high rig.board⟩ := rfl

@[simp]
theorem run_selectPins (state : PinState) (rig : Rig) :
    (onBoard (Board.selectPins state)).run rig =
      ⟨.ok (rig.board.minimal || rig.board.agrees rig.board.refusesPins),
        { rig with board := rig.board.pinned }, rig.board.pinEvents state⟩ := rfl

@[simp]
theorem run_setClockRate (hertz : UInt32) (rig : Rig) :
    (onBoard (Board.setClockRate hertz)).run rig =
      ⟨.ok (!rig.board.refusesRate), { rig with board := rig.board.rated hertz },
        [.clockRate hertz (!rig.board.refusesRate)]⟩ := rfl

@[simp]
theorem run_disableSupplies (rig : Rig) :
    (onBoard Board.disableSupplies).run rig =
      ⟨.ok (), rig, [.suppliesOff]⟩ := rfl

@[simp]
theorem run_stopClock (rig : Rig) :
    stopClock.run rig = ⟨.ok (), rig, [.clockOff]⟩ := rfl

theorem run_enableClock (rig : Rig) :
    (onBoard Board.enableClock).run rig =
      ⟨if rig.board.refusesClock then .error (.reported (.unavailable .clock))
        else .ok (), rig, [.clockOn (!rig.board.refusesClock)]⟩ := rfl

theorem run_enableSupplies (rig : Rig) :
    (onBoard Board.enableSupplies).run rig =
      ⟨if rig.board.refusesSupplies then
          .error (.reported (.unavailable .supplies))
        else .ok (), rig, [.suppliesOn (!rig.board.refusesSupplies)]⟩ := rfl

/-!
# Sequences
-/

theorem run_startClock (hertz : UInt32) (rig : Rig) :
    (startClock hertz).run rig =
      ⟨if rig.board.refusesClock then .error (.reported (.unavailable .clock))
        else .ok (),
        { rig with board := rig.board.started hertz }, rig.board.startEvents hertz⟩ := by
  simp [startClock, Action.run_bind, run_enableClock, Board.started, Board.pinned,
    Board.startEvents]

/-- Whole cycles of the clock in a microsecond, of which one is always taken. -/
def cyclesPerMicrosecond (hertz : UInt32) : Nat :=
  max (hertz.toNat / 1000000) 1

theorem cyclesPerMicrosecond_pos (hertz : UInt32) : 0 < cyclesPerMicrosecond hertz :=
  Nat.lt_of_lt_of_le Nat.zero_lt_one (Nat.le_max_right _ _)

theorem cyclesPerMicrosecond_lt (hertz : UInt32) : cyclesPerMicrosecond hertz < 4295 := by
  have hlt : hertz.toNat < 4294967296 := hertz.toNat_lt_size
  unfold cyclesPerMicrosecond
  omega

theorem toNat_cyclesPerMicrosecond (hertz : UInt32) :
    (max (hertz / 1000000) 1).toNat = cyclesPerMicrosecond hertz := by
  have hdiv : (hertz / 1000000).toNat = hertz.toNat / 1000000 := UInt32.toNat_div _ _
  show (if hertz / 1000000 ≤ 1 then 1 else hertz / 1000000).toNat =
    if hertz.toNat / 1000000 ≤ 1 then 1 else hertz.toNat / 1000000
  split
  case isTrue h =>
      rw [UInt32.le_iff_toNat_le, hdiv] at h
      exact (if_pos h).symm
  case isFalse h =>
      rw [UInt32.le_iff_toNat_le, hdiv] at h
      exact hdiv.trans (if_neg h).symm

/-- The delay is the quotient rounded up, as long as the sum before it is a word. -/
theorem exists_coveringDelay {cycles hertz : UInt32}
    (h : cycles.toNat + cyclesPerMicrosecond hertz < UInt32.size) :
    exists delay, coveringDelay cycles hertz = .ok delay ∧
      delay.toNat =
        (cycles.toNat + cyclesPerMicrosecond hertz - 1) / cyclesPerMicrosecond hertz := by
  have hpos := cyclesPerMicrosecond_pos hertz
  rw [← toNat_cyclesPerMicrosecond] at h hpos ⊢
  rcases Checked.exists_add h with ⟨sum, hsum, hsumNat⟩
  have hone : (1 : UInt32).toNat ≤ sum.toNat := by
    rw [hsumNat]
    exact Nat.le_trans hpos (Nat.le_add_left _ _)
  rcases Checked.exists_sub hone with ⟨rounded, hrounded, hroundedNat⟩
  refine ⟨rounded / max (hertz / 1000000) 1, ?_, ?_⟩
  · show (Checked.add cycles _ >>= fun sum =>
      Checked.sub sum 1 >>= fun rounded => pure (rounded / _)) = _
    rw [hsum]
    show (Checked.sub sum 1 >>= fun rounded => pure (rounded / _)) = _
    rw [hrounded]
    rfl
  · rw [UInt32.toNat_div, hroundedNat, hsumNat]
    rfl

theorem readyCycles_add_lt (hertz : UInt32) :
    readyCycles.toNat + cyclesPerMicrosecond hertz < UInt32.size :=
  Nat.lt_trans (Nat.add_lt_add_left (cyclesPerMicrosecond_lt hertz) _) (by decide)

/-- The start-up delay is a word at every clock rate. -/
theorem coveringDelay_ready (hertz : UInt32) :
    exists ready, coveringDelay readyCycles hertz = .ok ready := by
  rcases exists_coveringDelay (readyCycles_add_lt hertz) with ⟨ready, hready, -⟩
  exact ⟨ready, hready⟩

theorem run_raiseRails_of_refused (hertz : UInt32) {rig : Rig}
    (h : rig.board.refusesSupplies = true) :
    (raiseRails hertz).run rig =
      ⟨.error (.reported (.unavailable .supplies)),
        { rig with board := rig.lines.driven .reset rig.board },
        rig.lines.refusalEvents rig.board⟩ := by
  let asserted : Rig := { rig with board := rig.lines.driven .reset rig.board }
  have hsupplies :
      (Action.onError (onBoard Board.enableSupplies) stopClock).run asserted =
        ⟨.error (.reported (.unavailable .supplies)), asserted,
          [.suppliesOn false] ++ [.clockOff]⟩ := by
    apply Action.run_onError_of_reported (t := asserted)
    · simp [asserted, run_enableSupplies, Lines.driven, h]
    · rfl
  simp [raiseRails, Lines.assertReset, Lines.refusalEvents, Action.run_bind, asserted,
    hsupplies]

theorem run_raiseRails_of_granted {hertz ready : UInt32} {rig : Rig}
    (h : rig.board.refusesSupplies = false)
    (hready : coveringDelay readyCycles hertz = .ok ready) :
    (raiseRails hertz).run rig =
      ⟨.ok (), { rig with board := rig.lines.risen rig.board },
        rig.lines.riseEvents ready rig.board⟩ := by
  let asserted : Rig := { rig with board := rig.lines.driven .reset rig.board }
  have hsupplies :
      (Action.onError (onBoard Board.enableSupplies) stopClock).run asserted =
        ⟨.ok (), asserted, [.suppliesOn true]⟩ := by
    apply Action.run_onError_of_ok
    simp [asserted, run_enableSupplies, Lines.driven, h]
  simp [raiseRails, Lines.assertReset, Lines.releaseReset, Lines.powerUp, Lines.risen,
    Lines.riseEvents, pauseMicroseconds, Action.run_bind, asserted, hsupplies, hready]

theorem run_lowerRails (rig : Rig) :
    lowerRails.run rig =
      ⟨.ok (), { rig with board := rig.lines.fallen rig.board },
        rig.lines.fallEvents rig.board⟩ := by
  simp [lowerRails, Lines.powerDown, Lines.assertReset, Lines.fallen, Lines.fallEvents,
    Lines.lowered, Action.run_bind]

/-!
# Where the sequences take the levels
-/

/-- The levels between the start of the clock and the rise of the rails. -/
def clocked : Levels :=
  { Levels.off with clock := true }

theorem leads_pinEvents {l : Lines} {v : Levels} (hordered : v.Ordered l)
    (b : Board) (state : PinState) : Levels.Leads l v (b.pinEvents state) v := by
  unfold Board.pinEvents
  cases b.minimal with
  | true => exact Levels.Leads.nil l v
  | false =>
      exact (Levels.Leads.nil l v).cons (fun h => nomatch h) hordered

theorem leads_startEvents_refused {l : Lines} {v : Levels} (hordered : v.Ordered l)
    {b : Board} (hrefuses : b.refusesClock = true) (hertz : UInt32) :
    Levels.Leads l v (b.startEvents hertz) v := by
  unfold Board.startEvents
  rw [hrefuses]
  apply (leads_pinEvents hordered b .default).append
  refine Levels.Leads.cons ?_ hordered
    (Levels.Leads.cons ?_ hordered (Levels.Leads.nil l v))
  · intro h
    cases h
  · intro h
    cases h

theorem leads_startEvents_granted {l : Lines} {v : Levels} (hordered : v.Ordered l)
    (hclock : v.clock = false) {b : Board} (hgrants : b.refusesClock = false)
    (hertz : UInt32) :
    Levels.Leads l v (b.startEvents hertz) { v with clock := true } := by
  unfold Board.startEvents
  rw [hgrants]
  apply (leads_pinEvents hordered b .default).append
  refine Levels.Leads.cons ?_ hordered
    (Levels.Leads.cons ?_ hordered (Levels.Leads.nil l _))
  · intro h
    cases h
  · intro _
    exact hclock

theorem leads_refusalEvents (l : Lines) (b : Board) :
    Levels.Leads l clocked (l.refusalEvents b) .off := by
  rcases l with ⟨hasReset, hasPowerDown⟩
  cases hasReset <;>
    simp [Levels.Leads, Levels.Safe, Levels.Admits, Levels.after, Levels.off,
      Levels.Ordered, Event.isTransaction, clocked, Lines.refusalEvents,
      Lines.driveEvents, Lines.has]

theorem leads_riseEvents (l : Lines) (ready : UInt32) (b : Board) :
    Levels.Leads l clocked (l.riseEvents ready b) (.on l) := by
  rcases l with ⟨hasReset, hasPowerDown⟩
  cases hasReset <;> cases hasPowerDown <;>
    simp [Levels.Leads, Levels.Safe, Levels.Admits, Levels.after, Levels.on,
      Levels.off, Levels.Ordered, Event.isTransaction, clocked, Lines.riseEvents,
      Lines.driveEvents, Lines.has]

theorem leads_powerOff (l : Lines) (b : Board) :
    Levels.Leads l (.on l) (.clockOff :: l.fallEvents b) .off := by
  rcases l with ⟨hasReset, hasPowerDown⟩
  cases hasReset <;> cases hasPowerDown <;> cases hm : b.minimal <;>
    simp [Levels.Leads, Levels.Safe, Levels.Admits, Levels.after, Levels.on,
      Levels.off, Levels.Ordered, Event.isTransaction, hm, Lines.fallEvents,
      Lines.lowered, Lines.driven, Lines.driveEvents, Lines.has, Board.pinEvents]

end Rig

/-!
# Powering the device

The sequences as the device runs them.  A power-up that fails leaves no trace
but the rate and the number of settings that the board was asked for.
-/

namespace Device

def withBoard (d : Device) (board : Board) : Device :=
  { d with rig := { d.rig with board := board } }

def withBus (d : Device) (b : Bus) : Device :=
  { d with rig := { d.rig with bus := b } }

/-- The device after a power-down that gave up the boot stage's set-up, if any. -/
def withoutPower (d : Device) : Device :=
  { d with
    session :=
      { d.session with
        active := false
        programmed := false
        fastBoot := false
        stoppedOnce := !d.session.fastBoot && d.session.stoppedOnce } }

@[simp]
theorem run_onRig {α : Type} (x : Action Rig α) (d : Device) :
    (onRig x).run d =
      ⟨(x.run d.rig).result, { d with rig := (x.run d.rig).state },
        (x.run d.rig).events⟩ := rfl

@[simp]
theorem run_onBus {α : Type} (x : Action Bus α) (d : Device) :
    (onBus x).run d =
      ⟨(x.run d.rig.bus).result, d.withBus (x.run d.rig.bus).state,
        (x.run d.rig.bus).events⟩ := rfl

@[simp]
theorem run_changeSession (f : Session -> Session) (d : Device) :
    (changeSession f).run d = ⟨.ok (), { d with session := f d.session }, []⟩ := rfl

@[simp]
theorem run_changeControls (controls : ControlSet) (d : Device) :
    (changeControls controls).run d =
      ⟨.ok (), { d with controls := controls }, []⟩ := rfl

section

variable {d : Device}

theorem run_powerOn_of_clock_refused (hclock : d.rig.board.refusesClock = true) :
    powerOn.run d =
      ⟨.error (.reported (.unavailable .clock)),
        d.withBoard (d.rig.board.started d.config.clockRate),
        d.rig.board.startEvents d.config.clockRate⟩ := by
  simp [powerOn, Action.run_bind, Rig.run_startClock, hclock, withBoard]

theorem run_powerOn_of_supplies_refused (hboot : d.session.fastBoot = false)
    (hclock : d.rig.board.refusesClock = false)
    (hsupplies : d.rig.board.refusesSupplies = true) :
    powerOn.run d =
      ⟨.error (.reported (.unavailable .supplies)),
        d.withBoard (d.rig.lines.driven .reset (d.rig.board.started d.config.clockRate)),
        d.rig.board.startEvents d.config.clockRate ++
          d.rig.lines.refusalEvents (d.rig.board.started d.config.clockRate)⟩ := by
  simp [powerOn, raiseRails, Action.run_bind, Rig.run_startClock, hclock, hboot,
    Rig.run_raiseRails_of_refused, hsupplies, withBoard]

theorem run_powerOn_of_granted (hboot : d.session.fastBoot = false)
    (hclock : d.rig.board.refusesClock = false)
    (hsupplies : d.rig.board.refusesSupplies = false) {ready : UInt32}
    (hready : Rig.coveringDelay Rig.readyCycles d.config.clockRate = .ok ready) :
    powerOn.run d =
      ⟨.ok (),
        { d.withBoard (d.rig.lines.risen (d.rig.board.started d.config.clockRate)) with
          session := { d.session with active := true } },
        d.rig.board.startEvents d.config.clockRate ++
          d.rig.lines.riseEvents ready (d.rig.board.started d.config.clockRate)⟩ := by
  simp [powerOn, raiseRails, Action.run_bind, Rig.run_startClock, hclock, hboot,
    Rig.run_raiseRails_of_granted _ hready, hsupplies, withBoard]

/-- The rails are left to the boot stage. -/
theorem run_powerOn_of_boot (hboot : d.session.fastBoot = true)
    (hclock : d.rig.board.refusesClock = false) :
    powerOn.run d =
      ⟨.ok (),
        { d.withBoard (d.rig.board.started d.config.clockRate) with
          session := { d.session with active := true } },
        d.rig.board.startEvents d.config.clockRate⟩ := by
  simp [powerOn, Action.run_bind, Rig.run_startClock, hclock, hboot, withBoard]

/-- A power-down that is not left to the boot stage takes everything down. -/
theorem run_powerOff (hboot : d.session.fastBoot = true -> d.session.stoppedOnce = true) :
    powerOff.run d =
      ⟨.ok (), d.withoutPower.withBoard (d.rig.lines.fallen d.rig.board),
        .clockOff :: d.rig.lines.fallEvents d.rig.board⟩ := by
  cases hfast : d.session.fastBoot with
  | false =>
      simp [powerOff, Action.run_bind, Rig.run_lowerRails, hfast, withoutPower, withBoard]
  | true =>
      simp [powerOff, Action.run_bind, Rig.run_lowerRails, hfast, hboot hfast,
        withoutPower, withBoard]

theorem powerOn_cases (hboot : d.session.fastBoot = false) :
    exists board es,
      (exists resource,
        powerOn.run d =
          ⟨.error (.reported (.unavailable resource)), d.withBoard board, es⟩ ∧
        Levels.Leads d.rig.lines .off es .off) ∨
      (powerOn.run d =
          ⟨.ok (),
            { d.withBoard board with session := { d.session with active := true } },
            es⟩ ∧
        Levels.Leads d.rig.lines .off es (.on d.rig.lines)) := by
  have hordered := Levels.ordered_off d.rig.lines
  cases hclock : d.rig.board.refusesClock with
  | true =>
      have hstart := Rig.leads_startEvents_refused hordered hclock d.config.clockRate
      exact ⟨_, _, Or.inl ⟨.clock, run_powerOn_of_clock_refused hclock, hstart⟩⟩
  | false =>
      have hstart := Rig.leads_startEvents_granted hordered rfl hclock d.config.clockRate
      cases hsupplies : d.rig.board.refusesSupplies with
      | true =>
          exact ⟨_, _, Or.inl ⟨.supplies,
            run_powerOn_of_supplies_refused hboot hclock hsupplies,
            hstart.append (Rig.leads_refusalEvents d.rig.lines _)⟩⟩
      | false =>
          rcases Rig.coveringDelay_ready d.config.clockRate with ⟨ready, hready⟩
          exact ⟨_, _, Or.inr ⟨run_powerOn_of_granted hboot hclock hsupplies hready,
            hstart.append (Rig.leads_riseEvents d.rig.lines ready _)⟩⟩

theorem powerOff_cases
    (hboot : d.session.fastBoot = true -> d.session.stoppedOnce = true) :
    exists es,
      powerOff.run d =
          ⟨.ok (), d.withoutPower.withBoard (d.rig.lines.fallen d.rig.board), es⟩ ∧
        Levels.Leads d.rig.lines (.on d.rig.lines) es .off :=
  ⟨_, run_powerOff hboot, Rig.leads_powerOff d.rig.lines d.rig.board⟩

end

/-!
# Assertions that see no power

An assertion that does not see the flags of the power is kept by a sequence if the
parts of the sequence on the rig keep it.
-/

/-- The assertion does not depend on how far the device is powered. -/
def Powerless (I : Action.Assertion Device) : Prop :=
  forall {log : List Event} {d : Device} (active programmed fastBoot stoppedOnce : Bool),
    I log d -> I log { d with
      session := { d.session with
        active := active
        programmed := programmed
        fastBoot := fastBoot
        stoppedOnce := stoppedOnce } }

section

variable {I : Action.Assertion Device}

theorem Powerless.keeps_powerOn (hI : Powerless I)
    (hclock : forall hertz, Action.Keeps I (onRig (Rig.startClock hertz)))
    (hrails : forall hertz, Action.Keeps I (onRig (Rig.raiseRails hertz))) :
    Action.Keeps I powerOn := by
  apply Action.Keeps.inspect
  intro device
  apply (hclock _).bind
  intro _
  apply Action.Keeps.bind
  · exact Action.Keeps.when _ (Action.Keeps.inspect fun config => hrails _)
  · intro _
    exact Action.Contract.update fun _ d hd =>
      hI true d.session.programmed d.session.fastBoot d.session.stoppedOnce hd

theorem Powerless.keeps_powerOff (hI : Powerless I)
    (hclock : Action.Keeps I (onRig Rig.stopClock))
    (hrails : Action.Keeps I (onRig Rig.lowerRails)) : Action.Keeps I powerOff := by
  apply hclock.bind
  intro _
  apply Action.Keeps.bind
  · exact Action.Contract.update fun _ d hd =>
      hI false false d.session.fastBoot d.session.stoppedOnce hd
  intro _
  apply Action.Keeps.inspect
  intro session
  split
  case isTrue => exact Action.Keeps.pure ()
  case isFalse =>
      apply Action.Keeps.bind
      · exact Action.Keeps.when _ (Action.Contract.update fun _ d hd =>
          hI d.session.active d.session.programmed false false hd)
      · intro _
        exact hrails

end

end Device
end ImageSensor
