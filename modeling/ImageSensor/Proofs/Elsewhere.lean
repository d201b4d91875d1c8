import ImageSensor.Proofs.Requests
import ImageSensor.Proofs.Transfers

/-!
# Changes elsewhere

Power, users and the switch of the stream are no business of the controls:
they leave alone the mode, the controls, the registers where controls are found
and the remembered orientation.  An assertion that depends on nothing else is
kept by them, whatever they answer.
-/

namespace ImageSensor

namespace Bus

/-- Only the one register may have been written. -/
def Spares (register : UInt16) (b : Bus) (_ : List Event) (b' : Bus) : Prop :=
  forall r, r ≠ register -> b'.file.stored r = b.file.stored r

theorem spares_writeByte (register : UInt16) (value : UInt8) :
    Action.Obeys (Spares register) (writeByte register value) := by
  intro b
  cases hfails : b.failsNext .write register with
  | true => simp [run_writeByte_of_failure hfails, Spares]
  | false =>
      rw [run_writeByte hfails]
      constructor
      · intro r hr
        exact RegisterFile.stored_set_of_ne b.file value hr
      · intro kind hover
        cases hover

end Bus

/-!
# Power without transactions
-/

@[simp]
theorem clean_driveEvents (l : Lines) (wire : Line) (high : Bool) (b : Board) :
    Clean (l.driveEvents wire high b) := by
  unfold Lines.driveEvents
  split <;> simp [Event.isFailure]

@[simp]
theorem clean_pinEvents (b : Board) (state : PinState) : Clean (b.pinEvents state) := by
  unfold Board.pinEvents
  split <;> simp [Event.isFailure]

namespace Device

theorem clean_powerOn {d : Device} (hboot : d.session.fastBoot = false) :
    Clean (powerOn.run d).events := by
  cases hclock : d.rig.board.refusesClock with
  | true =>
      rw [run_powerOn_of_clock_refused hclock]
      simp [Board.startEvents, Event.isFailure]
  | false =>
      cases hsupplies : d.rig.board.refusesSupplies with
      | true =>
          rw [run_powerOn_of_supplies_refused hboot hclock hsupplies]
          simp [Board.startEvents, Lines.refusalEvents, Event.isFailure]
      | false =>
          rcases Rig.coveringDelay_ready d.config.clockRate with ⟨ready, hready⟩
          rw [run_powerOn_of_granted hboot hclock hsupplies hready]
          simp [Board.startEvents, Lines.riseEvents, Event.isFailure]

theorem clean_moveUsage (call : UsageCall)
    (move : UsageCount -> Checked (Bool × UsageCount)) (rig : Rig) :
    Clean ((Rig.moveUsage call move).run rig).events := by
  cases hmove : move rig.usage <;> simp [Rig.moveUsage, hmove, Event.isFailure]

/-!
# Assertions that see nothing elsewhere
-/

/-- What changed is neither the mode nor the controls, nor where they are found. -/
structure Elsewhere (d d' : Device) : Prop where
  entry : d'.session.entry = d.session.entry
  controls : d'.controls = d.controls
  streaming : d'.session.streaming = d.session.streaming
  boot : d.session.fastBoot = false -> d'.session.fastBoot = false
  orientation : d'.session.orientation = d.session.orientation
  registers : forall r, r ≠ Register.streamControl ->
    d'.rig.bus.file.stored r = d.rig.bus.file.stored r

theorem Elsewhere.get {d d' : Device} (h : Elsewhere d d') {r : UInt16}
    (hr : r ≠ Register.streamControl) : d'.rig.bus.file.get r = d.rig.bus.file.get r :=
  congrArg (Option.getD · 0) (h.registers r hr)

theorem elsewhere_onRig {d : Device} {rig : Rig} (hbus : rig.bus.file = d.rig.bus.file) :
    Elsewhere d { d with rig := rig } := by
  refine ⟨rfl, rfl, rfl, fun hboot => hboot, rfl, ?_⟩
  intro r _
  show rig.bus.file.stored r = _
  rw [hbus]

/-- An assertion about a device without boot stage that sees nothing elsewhere. -/
structure Indifferent (I : Action.Assertion Device) : Prop where
  boot : forall {log d}, I log d -> d.session.fastBoot = false
  elsewhere : forall {log d d'} (es : List Event),
    I log d -> Elsewhere d d' -> I (log ++ es) d'

section

variable {I : Action.Assertion Device} {α : Type}

/-!
# Power and users
-/

theorem Indifferent.keeps_onRig (hI : Indifferent I) {x : Action Rig α}
    (hx : forall rig, (x.run rig).state.bus.file = rig.bus.file) :
    Action.Keeps I (onRig x) :=
  Action.Contract.of_always fun _ d hd => hI.elsewhere _ hd (elsewhere_onRig (hx d.rig))

theorem Indifferent.contract_changeSession (hI : Indifferent I) {f : Session -> Session}
    (hf : forall d : Device, Elsewhere d { d with session := f d.session }) :
    Action.Contract (changeSession f) I (fun _ => I) Action.never := by
  intro log d hd
  exact hI.elsewhere [] hd (hf d)

theorem file_moveUsage (call : UsageCall)
    (move : UsageCount -> Checked (Bool × UsageCount)) (rig : Rig) :
    ((Rig.moveUsage call move).run rig).state.bus.file = rig.bus.file := by
  cases hmove : move rig.usage <;> simp [Rig.moveUsage, hmove]

theorem Indifferent.keeps_powerOn (hI : Indifferent I) : Action.Keeps I powerOn := by
  intro log d hd
  rcases powerOn_cases (hI.boot hd) with ⟨board, es, ⟨resource, hrun, -⟩ | ⟨hrun, -⟩⟩
  · rw [hrun]
    exact hI.elsewhere es hd (elsewhere_onRig rfl)
  · rw [hrun]
    exact hI.elsewhere es hd ⟨rfl, rfl, rfl, fun hboot => hboot, rfl, fun _ _ => rfl⟩

theorem Indifferent.contract_powerOff (hI : Indifferent I) :
    Action.Contract powerOff I (fun _ => I) Action.never := by
  intro log d hd
  have hboot := hI.boot hd
  rcases powerOff_cases fun hb => nomatch hboot.symm.trans hb with ⟨es, hrun, -⟩
  rw [hrun]
  exact hI.elsewhere es hd ⟨rfl, rfl, rfl, fun _ => rfl, rfl, fun _ _ => rfl⟩

theorem Indifferent.keeps_acquire (hI : Indifferent I) : Action.Keeps I acquire := by
  apply Action.Contract.bind (hI.keeps_onRig (file_moveUsage _ _))
  intro first
  apply Action.Contract.when
  · intro _
    apply Action.Contract.onError hI.keeps_powerOn
    · intro _
      exact hI.keeps_onRig fun _ => rfl
    · intro _ _ _ hd
      exact hd
  · intro _ _ _ hd
    exact hd

theorem Indifferent.strict_acquire (hI : Indifferent I) :
    Action.Contract acquire (fun log d => I log d ∧ Clean log)
      (fun _ log d => I log d ∧ Clean log) (fun _ => I) := by
  have hget : Action.Contract (onRig Rig.get) (fun log d => I log d ∧ Clean log)
      (fun _ log d => I log d ∧ Clean log) (fun _ => I) := by
    have hstrict : Action.Strict Rig.get := Action.Strict.of_events (clean_moveUsage _ _)
    have hboth := (hI.keeps_onRig (file_moveUsage _ _)).and (hstrict.within _)
    exact hboth.orElse fun _ _ _ hd => hd.1
  have hpower : Action.Contract powerOn (fun log d => I log d ∧ Clean log)
      (fun _ log d => I log d ∧ Clean log) (fun _ => I) := by
    intro log d hd
    have hkept := hI.keeps_powerOn.always hd.1
    have hclean := clean_append.mpr ⟨hd.2, clean_powerOn (hI.boot hd.1)⟩
    cases hres : (powerOn.run d).result with
    | ok _ => exact ⟨hkept, hclean⟩
    | error e => exact hkept
  apply Action.Contract.bind hget
  intro first
  apply Action.Contract.when
  · intro _
    apply Action.Contract.onError hpower
    · intro _
      exact hI.keeps_onRig fun _ => rfl
    · intro _ _ _ hd
      exact hd
  · intro _ _ _ hd
    exact hd

theorem Indifferent.contract_release (hI : Indifferent I) :
    Action.Contract release I (fun _ => I) Action.never := by
  have hput : Action.Contract (onRig Rig.put) I (fun _ => I) Action.never := by
    intro log d hd
    exact hI.elsewhere _ hd (elsewhere_onRig rfl)
  apply Action.Contract.bind hput
  intro last
  apply Action.Contract.when
  · intro _
    exact hI.contract_powerOff
  · intro _ _ _ hd
    exact hd

/-- Of the disturbances only a load is about the registers. -/
theorem Indifferent.keeps_happen (hI : Indifferent I) {change : Scenario.Disturbance}
    (hload : forall registers, change ≠ .load registers) :
    Action.Keeps I (onRig change.happen) := by
  apply hI.keeps_onRig
  intro rig
  cases change with
  | load registers => exact (hload registers rfl).elim
  | fail faults board => rfl
  | heal => rfl
  | usage call =>
      cases call <;> simp [Scenario.Disturbance.happen, Rig.get, Rig.getIfInUse, Rig.put,
        Rig.putNoIdle, file_moveUsage]

theorem file_readPair (register : UInt16) (b : Bus) :
    ((Bus.readPair register).run b).state.file = b.file := by
  cases hfails : b.failsNext .read register with
  | true => rw [Bus.run_readPair_of_failure hfails]
  | false => rw [Bus.run_readPair hfails]

theorem Indifferent.keeps_bringUp (hI : Indifferent I) : Action.Keeps I bringUp := by
  have hidentify : Action.Keeps I identify := by
    apply (hI.keeps_onRig fun rig => file_readPair Register.chipId rig.bus).bind
    intro id
    split
    case isTrue => exact Action.Keeps.pure ()
    case isFalse => exact Action.Contract.report fun _ _ hd => hd
  have hoff : Action.Keeps I powerOff := hI.contract_powerOff.anyFailure
  apply hI.keeps_powerOn.bind
  intro _
  apply Action.Keeps.inspect
  intro session
  split
  case isTrue =>
      exact (hI.keeps_onRig (file_moveUsage _ _)).bind fun _ => Action.Keeps.pure ()
  case isFalse => exact (hidentify.onError hoff).bind fun _ => hoff

theorem Indifferent.keeps_setPower (hI : Indifferent I) (on : Bool) :
    Action.Keeps I (setPower on) := by
  have hhost : forall on, Action.Keeps I
      (changeSession fun s => { s with hostPower := on }) := by
    intro on
    exact (hI.contract_changeSession fun _ =>
      ⟨rfl, rfl, rfl, fun hboot => hboot, rfl, fun _ _ => rfl⟩).anyFailure
  exact keeps_setPower_of_users hI.keeps_acquire hI.contract_release.anyFailure hhost on

/-!
# The switch of the stream
-/

theorem elsewhere_switchStream (on : Bool) :
    Action.Obeys (fun d _ d' => Elsewhere d d') (switchStream on) := by
  intro d
  rcases Bus.spares_writeByte Register.streamControl
    (if on then Register.streaming else Register.standby) d.rig.bus with ⟨hspares, hover⟩
  exact ⟨⟨rfl, rfl, rfl, fun hboot => hboot, rfl, hspares⟩, hover⟩

theorem Indifferent.contract_switchStream (hI : Indifferent I) (on : Bool) :
    Action.Contract (switchStream on) I (fun _ => I) (Action.reported I) :=
  (elsewhere_switchStream on).contract fun _ _ es _ hd hchange =>
    hI.elsewhere es hd hchange

theorem Indifferent.keeps_switchStream (hI : Indifferent I) (on : Bool) :
    Action.Keeps I (switchStream on) := by
  apply (hI.contract_switchStream on).orElse
  intro f _ _ hd
  cases f with
  | reported e => exact hd
  | overflow kind => exact hd.elim

theorem Indifferent.contract_endStream (hI : Indifferent I) {J : Action.Assertion Device}
    (hmark : forall log d, I log d ->
      J log { d with session := { d.session with streaming := false } }) :
    Action.Contract endStream I (fun _ => J) (fun _ => J) := by
  have hleave : Action.Contract leaveStream I (fun _ => J) Action.never := by
    apply Action.Contract.bind hI.contract_release
    intro _
    exact Action.Contract.update hmark
  have hstop : Action.Contract stopStream I (fun _ => I) (Action.reported I) := by
    intro log d hd
    rw [run_stopStream (hI.boot hd)]
    exact hI.contract_switchStream false log d hd
  apply Action.Contract.ensuring hstop
  · intro _
    exact hleave.anyFailure
  · intro _
    exact hleave.anyFailure
  · intro _ _ _ hfalse
    exact hfalse.elim

/-- The format under negotiation is the host's own business. -/
theorem Indifferent.keeps_changeScratch (hI : Indifferent I) (format : FrameFormat) :
    Action.Keeps I (changeSession fun s => { s with scratchFormat := format }) :=
  (hI.contract_changeSession fun _ =>
    ⟨rfl, rfl, rfl, fun hboot => hboot, rfl, fun _ _ => rfl⟩).anyFailure

end
end Device
end ImageSensor
