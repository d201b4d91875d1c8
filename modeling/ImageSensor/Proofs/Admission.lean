import ImageSensor.Proofs.PowerSafety

/-!
# Admitting a sensor

A sensor without a boot stage is attached by powering it up, asking for its
identity and powering it down.  Three resources and the identity may stand in the
way, and the first that does is the answer.  Whatever the answer, the sensor was
asked for nothing but its identity, what was switched on was switched off, and
there is no user.  A sensor that a boot stage has set up is only clocked, is asked
for nothing, and has one user then.
-/

namespace ImageSensor

namespace Bus

/-- The two bytes under the identification address, the first one high. -/
def identity (b : Bus) : UInt16 :=
  (b.file.get 0x0011).toUInt16 * 256 + (b.file.get 0x0012).toUInt16

/-- What the question for the identity leaves in the log. -/
def identification (b : Bus) : Event :=
  if b.failsNext .read Register.chipId then
    .readFailure b.device Register.chipId 2
  else
    .read b.device Register.chipId [b.file.get 0x0011, b.file.get 0x0012]

/-- What is wrong with the identity: it cannot be read, or it is another part's. -/
def strangeness? (b : Bus) : Option Error :=
  if b.failsNext .read Register.chipId then
    some (.transfer .read Register.chipId)
  else if b.file.get 0x0011 = 0x04 ∧ b.file.get 0x0012 = 0x00 then
    none
  else
    some (.wrongChip b.identity)

theorem identity_eq_genuineChip_iff (b : Bus) :
    b.identity = Register.genuineChip <->
      b.file.get 0x0011 = 0x04 ∧ b.file.get 0x0012 = 0x00 := by
  have hhigh := (b.file.get 0x0011).toNat_lt_size
  have hlow := (b.file.get 0x0012).toNat_lt_size
  rw [← UInt16.toNat_inj, ← UInt8.toNat_inj, ← UInt8.toNat_inj]
  simp only [identity, Register.genuineChip, UInt16.toNat_add, UInt16.toNat_mul,
    UInt8.toNat_toUInt16, UInt16.reduceToNat, UInt8.reduceToNat, UInt8.size] at hhigh hlow ⊢
  omega

@[simp]
theorem strangeness?_address (b : Bus) (device : UInt8) :
    (b.address device).strangeness? = b.strangeness? := rfl

theorem isTransaction_identification (b : Bus) : b.identification.isTransaction = true := by
  unfold identification
  split <;> rfl

end Bus

namespace Rig

/-- What stands in the way of a sensor, in the order in which it is asked for. -/
def obstacle? (rig : Rig) : Option Error :=
  if rig.board.refusesClock then
    some (.unavailable .clock)
  else if rig.board.refusesSupplies then
    some (.unavailable .supplies)
  else
    rig.bus.strangeness?

theorem obstacle?_eq_none_iff (rig : Rig) :
    rig.obstacle? = none <->
      rig.board.refusesClock = false ∧ rig.board.refusesSupplies = false ∧
      rig.bus.failsNext .read Register.chipId = false ∧
      rig.bus.file.get 0x0011 = 0x04 ∧ rig.bus.file.get 0x0012 = 0x00 := by
  unfold obstacle? Bus.strangeness?
  cases rig.board.refusesClock <;> cases rig.board.refusesSupplies <;>
    cases rig.bus.failsNext .read Register.chipId <;> simp

end Rig

/-- The answer of an action that is done unless something stands in its way. -/
def answerTo : Option Error -> Except Failure Unit
  | none => .ok ()
  | some error => .error (.reported error)

theorem answerTo_eq_ok_iff {obstacle : Option Error} :
    answerTo obstacle = .ok () <-> obstacle = none := by
  cases obstacle <;> simp [answerTo]

namespace Register

theorem ofBytes_pair (high low : UInt8) :
    (ofBytes [high, low]).toUInt16 = high.toUInt16 * 256 + low.toUInt16 := by
  rw [← UInt16.toNat_inj]
  simp [ofBytes]

end Register

namespace Device

variable {d : Device}

/-!
# The question for the identity
-/

/-- The device after one more transaction that stored nothing. -/
def afterQuestion (d : Device) : Device :=
  d.withBus { d.rig.bus with attempts := d.rig.bus.attempts + 1 }

theorem run_identify (d : Device) :
    identify.run d =
      ⟨answerTo d.rig.bus.strangeness?, d.afterQuestion, [d.rig.bus.identification]⟩ := by
  cases hfails : d.rig.bus.failsNext .read Register.chipId with
  | true =>
      have hread : (onBus (Bus.readPair Register.chipId)).run d =
          ⟨.error (.reported (.transfer .read Register.chipId)), d.afterQuestion,
            [.readFailure d.rig.bus.device Register.chipId 2]⟩ := by
        rw [run_onBus, Bus.run_readPair_of_failure hfails]
        rfl
      rw [identify, Action.run_bind_error hread]
      simp [Bus.strangeness?, Bus.identification, hfails, answerTo]
  | false =>
      have hread : (onBus (Bus.readPair Register.chipId)).run d =
          ⟨.ok d.rig.bus.identity, d.afterQuestion,
            [.read d.rig.bus.device Register.chipId
              [d.rig.bus.file.get 0x0011, d.rig.bus.file.get 0x0012]]⟩ := by
        rw [run_onBus, Bus.run_readPair hfails, Bus.identity, ← Register.ofBytes_pair]
        rfl
      rw [identify, Action.run_bind_ok hread]
      by_cases hgenuine : d.rig.bus.identity = Register.genuineChip
      · have hbytes := (Bus.identity_eq_genuineChip_iff d.rig.bus).mp hgenuine
        simp [Bus.strangeness?, Bus.identification, hfails, hgenuine, hbytes, answerTo]
      · have hbytes := mt (Bus.identity_eq_genuineChip_iff d.rig.bus).mpr hgenuine
        rw [if_neg hgenuine, Bus.strangeness?, Bus.identification, hfails, if_neg hbytes]
        rfl

/-!
# Attaching
-/

/-- Powering down asks the sensor for nothing. -/
theorem exists_run_powerOff (hboot : d.session.fastBoot = false) :
    exists board fs, fs.filter Event.isTransaction = [] ∧
      powerOff.run d = ⟨.ok (), d.withoutPower.withBoard board, fs⟩ := by
  have hrun := run_powerOff (d := d) fun hfast => nomatch hboot.symm.trans hfast
  refine ⟨_, _, ?_, hrun⟩
  exact d.rig.lines.filter_fallEvents d.rig.board

/-- Whatever the question was answered, the sensor is powered down once after it. -/
theorem run_bringUp_of_powered {t : Device} {es : List Event} {b : Bus}
    (hup : powerOn.run d = ⟨.ok (), t, es⟩) (hboot : t.session.fastBoot = false)
    (hbus : t.rig.bus = b) :
    exists board fs, fs.filter Event.isTransaction = [] ∧
      bringUp.run d =
        ⟨answerTo b.strangeness?, t.afterQuestion.withoutPower.withBoard board,
          es ++ b.identification :: fs⟩ := by
  rcases exists_run_powerOff (d := t.afterQuestion) hboot with ⟨board, fs, hfs, hoff⟩
  refine ⟨board, fs, hfs, ?_⟩
  rw [bringUp, Action.run_bind_ok hup, Action.run_bind_ok (Action.run_inspect _ _),
    if_neg (by simp [hboot])]
  have hask := run_identify t
  rw [hbus] at hask
  cases hstrange : b.strangeness? with
  | none =>
      rw [hstrange] at hask
      rw [Action.run_bind_ok (Action.run_onError_of_ok hask powerOff), hoff]
      rfl
  | some error =>
      rw [hstrange] at hask
      rw [Action.run_bind_error (Action.run_onError_of_reported hask hoff)]
      rfl

/-- A sensor that was set up and has no user yet gets its first. -/
theorem run_bringUp_of_clocked {t : Device} {es : List Event}
    (hup : powerOn.run d = ⟨.ok (), t, es⟩) (hboot : t.session.fastBoot = true)
    (husage : t.rig.usage = .zero) :
    bringUp.run d =
      ⟨.ok (), { t with rig := { t.rig with usage := ⟨1⟩ } },
        es ++ [.usage .get (some true) 1]⟩ := by
  have hget : (onRig Rig.get).run t =
      ⟨.ok true, { t with rig := { t.rig with usage := ⟨1⟩ } },
        [.usage .get (some true) 1]⟩ := by
    simp only [run_onRig, Rig.get, Rig.moveUsage, husage]
    rfl
  rw [bringUp, Action.run_bind_ok hup, Action.run_bind_ok (Action.run_inspect _ _),
    if_pos hboot, Action.run_bind_ok hget]
  rfl

/-- What attaching does to the rig of a sensor without a boot stage. -/
structure Asked (c : Config) (rig : Rig) (o : Outcome Device Unit) : Prop where
  /-- The first thing that stands in the way is the answer. -/
  result : o.result = answerTo rig.obstacle?
  granted_iff : o.result = .ok () <->
    rig.board.refusesClock = false ∧ rig.board.refusesSupplies = false ∧
    rig.bus.failsNext .read Register.chipId = false ∧
    rig.bus.file.get 0x0011 = 0x04 ∧ rig.bus.file.get 0x0012 = 0x00
  /--
  Once it has power, the sensor at the configured address is asked for its identity,
  and for nothing else.
  -/
  transactions : o.events.filter Event.isTransaction =
    if rig.board.refusesClock || rig.board.refusesSupplies then []
    else [(rig.bus.address c.device).identification]
  clock_undone : forall es fs, o.events = es ++ .clockOn true :: fs -> .clockOff ∈ fs
  supplies_undone : forall es fs,
    o.events = es ++ .suppliesOn true :: fs -> .suppliesOff ∈ fs
  file : o.state.rig.bus.file = rig.bus.file
  usage : o.state.rig.usage = rig.usage
  off : o.state.session.powerState = .off

/-- What attaching does to the rig of a sensor that a boot stage has set up. -/
structure Entrusted (rig : Rig) (o : Outcome Device Unit) : Prop where
  result : o.result =
    answerTo (if rig.board.refusesClock then some (.unavailable .clock) else none)
  granted_iff : o.result = .ok () <-> rig.board.refusesClock = false
  transactions : o.events.filter Event.isTransaction = []
  usage : o.state.rig.usage.count = if rig.board.refusesClock then 0 else 1

section

variable {c : Config} {rig : Rig}

/-- Nothing is left on, so what was switched on was switched off. -/
theorem asked_of_run (hboot : c.fastBoot = false) {obstacle : Option Error} {e : Device}
    {es : List Event} (hrun : attach c rig = ⟨answerTo obstacle, e, es⟩)
    (hobstacle : rig.obstacle? = obstacle)
    (htransactions : es.filter Event.isTransaction =
      if rig.board.refusesClock || rig.board.refusesSupplies then []
      else [(rig.bus.address c.device).identification])
    (hfile : e.rig.bus.file = rig.bus.file) (husage : e.rig.usage = rig.usage)
    (hoff : e.session.powerState = .off) : Asked c rig (attach c rig) := by
  have hlevels := (powerSafe_attach rig hboot).2
  constructor
  case result => rw [hrun, hobstacle]
  case granted_iff =>
      rw [hrun, answerTo_eq_ok_iff, ← hobstacle, Rig.obstacle?_eq_none_iff]
  case transactions => rw [hrun, htransactions]
  case clock_undone =>
      intro es fs hsplit
      rw [hsplit] at hlevels
      exact Levels.clockOff_mem (congrArg Levels.clock hlevels)
  case supplies_undone =>
      intro es fs hsplit
      rw [hsplit] at hlevels
      exact Levels.suppliesOff_mem (congrArg Levels.supplies hlevels)
  case file => rw [hrun, hfile]
  case usage => rw [hrun, husage]
  case off => rw [hrun, hoff]

theorem asked_attach (hboot : c.fastBoot = false) : Asked c rig (attach c rig) := by
  cases hclock : rig.board.refusesClock with
  | true =>
      have hup := run_powerOn_of_clock_refused (d := initial c rig) hclock
      have hrun : attach c rig = ⟨answerTo (some (.unavailable .clock)), _, _⟩ :=
        Action.run_bind_error hup _
      refine asked_of_run hboot hrun ?_ ?_ rfl rfl rfl
      · simp [Rig.obstacle?, hclock]
      · simp [hclock]
  | false =>
      cases hsupplies : rig.board.refusesSupplies with
      | true =>
          have hup := run_powerOn_of_supplies_refused (d := initial c rig) hboot hclock hsupplies
          have hrun : attach c rig = ⟨answerTo (some (.unavailable .supplies)), _, _⟩ :=
            Action.run_bind_error hup _
          refine asked_of_run hboot hrun ?_ ?_ rfl rfl rfl
          · simp [Rig.obstacle?, hclock, hsupplies]
          · simp [hsupplies]
      | false =>
          rcases Rig.coveringDelay_ready c.clockRate with ⟨ready, hready⟩
          have hup := run_powerOn_of_granted (d := initial c rig) hboot hclock hsupplies hready
          rcases run_bringUp_of_powered hup hboot (b := rig.bus.address c.device) rfl with
            ⟨board, fs, hfs, hrun⟩
          refine asked_of_run hboot hrun ?_ ?_ rfl rfl rfl
          · simp [Rig.obstacle?, hclock, hsupplies]
          · have hquestion : ((rig.bus.address c.device).identification :: fs).filter
                Event.isTransaction = [(rig.bus.address c.device).identification] := by
              rw [List.filter_cons_of_pos (Bus.isTransaction_identification _), hfs]
            rw [List.filter_append, hquestion]
            simp [hclock, hsupplies]

theorem entrusted_attach (hboot : c.fastBoot = true) (husage : rig.usage = .zero) :
    Entrusted rig (attach c rig) := by
  cases hclock : rig.board.refusesClock with
  | true =>
      have hup := run_powerOn_of_clock_refused (d := initial c rig) hclock
      have hrun : attach c rig = ⟨answerTo (some (.unavailable .clock)), _, _⟩ :=
        Action.run_bind_error hup _
      constructor
      case result => simp [hrun, hclock]
      case granted_iff => simp [hrun, hclock, answerTo]
      case transactions => simp [hrun]
      case usage =>
          rw [hrun, hclock]
          exact congrArg UsageCount.count husage
  | false =>
      have hup := run_powerOn_of_boot (d := initial c rig) hboot hclock
      have hrun : attach c rig = ⟨answerTo none, _, _⟩ :=
        run_bringUp_of_clocked hup hboot husage
      constructor
      case result => simp [hrun, hclock]
      case granted_iff => simp [hrun, hclock, answerTo]
      case transactions => simp [hrun, Event.isTransaction]
      case usage => simp [hrun, hclock]

end

/-- Attaching answers with the first obstacle and leaves no power on behind it. -/
theorem admission_of_attach (c : Config) {rig : Rig} (husage : rig.usage = .zero) :
    (c.fastBoot = false -> Asked c rig (attach c rig)) ∧
    (c.fastBoot = true -> Entrusted rig (attach c rig)) :=
  ⟨asked_attach, fun hboot => entrusted_attach hboot husage⟩

/--
A rig with another part in it, on which the clock and the supplies work, but neither
the rate nor the pins, and the first level on a line is refused.
-/
def stranger : Rig where
  bus := Bus.idle 0x36 ((RegisterFile.empty.set 0x0011 0x12).set 0x0012 0x34)
  board :=
    { Board.sound with
      refusesRate := true
      refusesPins := true
      refusedSettings := [1] }
  lines := Lines.wired
  usage := .zero

/-- The other part is named, and the power it had is gone. -/
theorem admission_of_stranger :
    (attach .standard stranger).result = .error (.reported (.wrongChip 0x1234)) ∧
    (attach .standard stranger).events.filter Event.isTransaction =
      [.read 0x36 Register.chipId [0x12, 0x34]] ∧
    (attach .standard stranger).state.rig.usage = .zero ∧
    (attach .booted stranger).result = .ok () ∧
    (attach .booted stranger).events.filter Event.isTransaction = [] ∧
    (attach .booted stranger).state.rig.usage.count = 1 := by
  have hasked := (@admission_of_attach .standard stranger rfl).1 rfl
  have hentrusted := (@admission_of_attach .booted stranger rfl).2 rfl
  exact ⟨hasked.result, hasked.transactions, hasked.usage, hentrusted.result,
    hentrusted.transactions, hentrusted.usage⟩

end Device
end ImageSensor
