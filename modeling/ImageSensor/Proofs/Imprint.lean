import ImageSensor.Proofs.Holding

/-!
# What a start puts into the registers

If all its transfers succeed, the start of a stream loads the register file
with writes that only the mode and the controls decide: those of the program,
those of the controls, and the switch of the stream.  A flip is written with
the other axis as it was read, but then the other axis is written as well.
-/

namespace ImageSensor

namespace RegisterFile

variable {f g : RegisterFile}

/-!
# Files that differ in some registers only
-/

/-- Other registers than the given hold the same bytes. -/
def EqOff (R : List UInt16) (f g : RegisterFile) : Prop :=
  forall r, r ∉ R -> f.stored r = g.stored r

theorem EqOff.refl (R : List UInt16) (f : RegisterFile) : EqOff R f f :=
  fun _ _ => rfl

theorem EqOff.trans {R : List UInt16} {h : RegisterFile} (hfg : EqOff R f g)
    (hgh : EqOff R g h) : EqOff R f h :=
  fun r hr => (hfg r hr).trans (hgh r hr)

theorem EqOff.mono {R S : List UInt16} (h : EqOff R f g) (hsub : R ⊆ S) : EqOff S f g :=
  fun r hr => h r fun hmem => hr (hsub hmem)

theorem EqOff.get {R : List UInt16} (h : EqOff R f g) {r : UInt16} (hr : r ∉ R) :
    f.get r = g.get r :=
  congrArg (Option.getD · 0) (h r hr)

theorem load_append (f : RegisterFile) (writes more : List (UInt16 × UInt8)) :
    f.load (writes ++ more) = (f.load writes).load more := by
  induction writes generalizing f with
  | nil => rfl
  | cons head rest ih => exact ih (f.set head.1 head.2)

theorem eqOff_load (f : RegisterFile) (writes : List (UInt16 × UInt8)) :
    EqOff (writes.map Prod.fst) (f.load writes) f :=
  fun _ hr => stored_load_of_not_mem hr

/-- The same writes change files in the same way. -/
theorem EqOff.load {R : List UInt16} (h : EqOff R f g) (writes : List (UInt16 × UInt8)) :
    EqOff R (f.load writes) (g.load writes) := by
  induction writes generalizing f g with
  | nil => exact h
  | cons head rest ih =>
      apply ih
      intro r hr
      by_cases hsame : r = head.1
      · simp [set, hsame]
      · rw [stored_set_of_ne _ _ hsame, stored_set_of_ne _ _ hsame, h r hr]

/-- A register that is written holds what was written, whatever was there before. -/
theorem stored_load_of_mem (f g : RegisterFile) {writes : List (UInt16 × UInt8)}
    {r : UInt16} (hr : r ∈ writes.map Prod.fst) :
    (f.load writes).stored r = (g.load writes).stored r := by
  induction writes generalizing f g with
  | nil => cases hr
  | cons head rest ih =>
      unfold RegisterFile.load
      by_cases hrest : r ∈ rest.map Prod.fst
      · exact ih _ _ hrest
      · have hhead : r = head.1 := (List.mem_cons.mp hr).resolve_right hrest
        rw [stored_load_of_not_mem hrest, stored_load_of_not_mem hrest]
        simp [set, hhead]

/-- Loading makes files equal exactly if they agree where nothing is loaded. -/
theorem load_eq_load_iff {writes : List (UInt16 × UInt8)} :
    f.load writes = g.load writes <-> EqOff (writes.map Prod.fst) f g := by
  constructor
  · intro heq r hr
    rw [← stored_load_of_not_mem (f := f) hr, heq, stored_load_of_not_mem hr]
  · intro h
    ext1
    funext r
    by_cases hr : r ∈ writes.map Prod.fst
    · exact stored_load_of_mem f g hr
    · exact h.load writes r hr

/-!
# The writes of controls
-/

/-- The orientation that the registers hold. -/
def orientation (f : RegisterFile) : Orientation :=
  ⟨f.get Register.mirror &&& 1 != 0, f.get Register.flip &&& 1 != 0⟩

/-- The file after a control was pushed. -/
def put (f : RegisterFile) : Control -> RegisterFile
  | .exposure lines => f.load (Register.exposureWrites lines)
  | .analogGain gain => f.load (Register.gainWrites (Gain.encode gain))
  | .horizontalFlip on =>
      f.load (Register.orientationWrites { f.orientation with mirror := on })
  | .verticalFlip on =>
      f.load (Register.orientationWrites { f.orientation with flip := on })
  | _ => f

/-- The file after several controls were pushed in turn. -/
def putAll (f : RegisterFile) (controls : List Control) : RegisterFile :=
  controls.foldl put f

theorem orientation_load (f : RegisterFile) (o : Orientation) :
    (f.load (Register.orientationWrites o)).orientation = o := by
  have hmirror : (f.load (Register.orientationWrites o)).get Register.mirror =
      o.mirror.toUInt8 := rfl
  have hflip : (f.load (Register.orientationWrites o)).get Register.flip =
      o.flip.toUInt8 := rfl
  unfold orientation
  rw [hmirror, hflip, Device.bit_toUInt8, Device.bit_toUInt8]

/-- Of two orientations written in a row the last stays. -/
theorem load_orientationWrites (f : RegisterFile) (o o' : Orientation) :
    (f.load (Register.orientationWrites o)).load (Register.orientationWrites o') =
      f.load (Register.orientationWrites o') := by
  rw [load_eq_load_iff]
  exact eqOff_load f (Register.orientationWrites o)

end RegisterFile

namespace ControlSet

/-- The writes that bring all controls into the registers. -/
def writes (c : ControlSet) : List (UInt16 × UInt8) :=
  Register.exposureWrites c.exposure.value ++
    Register.gainWrites (Gain.encode c.analogGain.value) ++
    Register.orientationWrites c.orientation

theorem eq_of_toUInt32_eq {on on' : Bool} (h : on.toUInt32 = on'.toUInt32) : on = on' := by
  revert h
  cases on <;> cases on' <;> decide

theorem writes_eq_of_values {c c' : ControlSet}
    (h : forall kind, c.value kind = c'.value kind) : c.writes = c'.writes := by
  have hexposure : c.exposure.value = c'.exposure.value := h .exposure
  have hgain : c.analogGain.value = c'.analogGain.value := h .analogGain
  have hmirror : c.orientation.mirror = c'.orientation.mirror :=
    eq_of_toUInt32_eq (h .horizontalFlip)
  have hflip : c.orientation.flip = c'.orientation.flip := eq_of_toUInt32_eq (h .verticalFlip)
  unfold writes Register.orientationWrites
  rw [hexposure, hgain, hmirror, hflip]

theorem putAll_snapshot (c : ControlSet) (f : RegisterFile) :
    f.putAll c.snapshot = f.load c.writes := by
  rw [writes, RegisterFile.load_append, RegisterFile.load_append]
  let g := (f.load (Register.exposureWrites c.exposure.value)).load
    (Register.gainWrites (Gain.encode c.analogGain.value))
  let h := g.load (Register.orientationWrites
    { g.orientation with mirror := c.orientation.mirror })
  show h.load (Register.orientationWrites
    { h.orientation with flip := c.orientation.flip }) = g.load _
  rw [RegisterFile.orientation_load, RegisterFile.load_orientationWrites]

end ControlSet

/-!
# The writes of a start
-/

namespace Program

/-- The writes of a program, up to its end. -/
def writes (p : Program) : List (UInt16 × UInt8) :=
  (p.body.filter fun step => decide (step.address ≠ pauseAddress)).map
    fun step => (step.address, step.value)

section

variable {step : Step}

theorem writes_cons_of_end (h : step.address = endAddress) (rest : Program) :
    writes (step :: rest) = [] := by
  simp [writes, body_cons_of_end h]

theorem writes_cons_of_pause (hend : step.address ≠ endAddress)
    (hpause : step.address = pauseAddress) (rest : Program) :
    writes (step :: rest) = writes rest := by
  simp [writes, body_cons hend, hpause]

theorem writes_cons_of_write (hend : step.address ≠ endAddress)
    (hpause : step.address ≠ pauseAddress) (rest : Program) :
    writes (step :: rest) = (step.address, step.value) :: writes rest := by
  simp [writes, body_cons hend, hpause]

end

/-- What holds of a file from write to write holds of a file in the course of a replay. -/
theorem contract_replay_of_steps (P : RegisterFile -> Action.Assertion Bus)
    {E : Failure -> Action.Assertion Bus}
    (hpause : forall f milliseconds,
      Action.Contract (Action.emit (.pauseMilliseconds milliseconds)) (P f) (fun _ => P f) E)
    (hwrite : forall f register value,
      Action.Contract (Bus.writeByte register value) (P f)
        (fun _ => P (f.set register value)) E)
    (p : Program) (f : RegisterFile) :
    Action.Contract (replay p) (P f) (fun _ => P (f.load p.writes)) E := by
  induction p using replay.induct generalizing f with
  | case1 => exact Action.Contract.pure fun _ _ hb => hb
  | case2 step rest hend =>
      rw [replay_cons_of_end hend, writes_cons_of_end hend]
      exact Action.Contract.pure fun _ _ hb => hb
  | case3 step rest hend hstep ih =>
      rw [replay_cons_of_pause hstep, writes_cons_of_pause hend hstep]
      exact Action.Contract.bind (hpause f _) fun _ => ih f
  | case4 step rest hend hstep ih =>
      rw [replay_cons_of_write hend hstep, writes_cons_of_write hend hstep]
      exact Action.Contract.bind (hwrite f _ _) fun _ => ih _

theorem contract_replay (p : Program) (f : RegisterFile) :
    Action.Contract (replay p) (Action.whileClean fun b => b.file = f)
      (fun _ => Action.whileClean fun b => b.file = f.load p.writes)
      (fun _ => Action.unclean) := by
  apply contract_replay_of_steps fun f => Action.whileClean fun b => b.file = f
  · intro f milliseconds log b hb hclean
    exact hb hclean.left
  · intro f register value
    exact Bus.contract_writeByte register value f

end Program

/-- The writes of a stream that starts in a mode with some controls. -/
def Mode.startWrites (m : Mode) (c : ControlSet) : List (UInt16 × UInt8) :=
  m.program.writes ++ c.writes ++ [(Register.streamControl, Register.streaming)]

namespace Device

variable {e : Entry} {c : ControlSet} {stream : Bool} {f g h : RegisterFile}

/-!
# The file under tuning

The switch of the stream is left open, since it may be written without a start.
-/

/-- In a linear mode, the file while the log is clean. -/
def FileIs (f : RegisterFile) (log : List Event) (d : Device) : Prop :=
  d.mode.isLinear = true ∧ (Clean log -> d.rig.bus.file.EqOff [Register.streamControl] f)

theorem FileIs.read {log es : List Event} {d : Device} {b : Bus} (hd : FileIs f log d)
    (hfile : Clean (log ++ es) -> b.file = d.rig.bus.file) :
    FileIs f (log ++ es) (d.withBus b) := by
  refine ⟨hd.1, ?_⟩
  intro hclean
  show b.file.EqOff _ f
  rw [hfile hclean]
  exact hd.2 hclean.left

theorem FileIs.load {log es : List Event} {d : Device} {b : Bus} (hd : FileIs f log d)
    {writes : List (UInt16 × UInt8)}
    (hfile : Clean (log ++ es) -> b.file = d.rig.bus.file.load writes) :
    FileIs (f.load writes) (log ++ es) (d.withBus b) := by
  refine ⟨hd.1, ?_⟩
  intro hclean
  show b.file.EqOff _ _
  rw [hfile hclean]
  exact (hd.2 hclean.left).load writes

theorem contract_writeRegisters_file (writes : List (UInt16 × UInt8)) :
    Action.Contract (onBus (Bus.writeEach writes)) (FileIs f)
      (fun _ => FileIs (f.load writes)) (fun _ => Action.unclean) :=
  contract_writeRegisters writes fun _ _ _ _ hd => hd.load

theorem contract_writeLinear_file (writes : List (UInt16 × UInt8)) :
    Action.Contract
      (Action.inspect Device.mode >>= fun mode =>
        Action.when mode.isLinear (onBus (Bus.writeEach writes)))
      (FileIs f) (fun _ => FileIs (f.load writes)) (fun _ => Action.unclean) := by
  apply Action.Contract.inspect
  intro mode
  apply Action.Contract.when
  · intro _
    exact (contract_writeRegisters_file writes).pre fun _ _ hd => hd.1
  · intro hmode log d hd
    rw [← hd.2, hd.1.1] at hmode
    cases hmode

/-- The axis that was not asked for is written as the registers had it. -/
theorem contract_turn_file (turn : Orientation -> Orientation) :
    Action.Contract (readOrientation >>= fun o => setOrientation (turn o).code) (FileIs f)
      (fun _ => FileIs (f.load (Register.orientationWrites (turn f.orientation))))
      (fun _ => Action.unclean) := by
  have hwrite : forall o, Action.Contract (setOrientation o.code) (FileIs f)
      (fun _ => FileIs (f.load (Register.orientationWrites o)))
      (fun _ => Action.unclean) := by
    intro o
    rw [setOrientation_code]
    apply Action.Contract.bind (contract_writeRegisters_file _)
    intro _
    exact Action.Contract.update fun _ _ hd => hd
  apply Action.Contract.bind (contract_readOrientation fun _ _ _ _ hd => hd.read)
  intro o log d hd
  by_cases hclean : Clean log
  · have hheld : o = f.orientation := by
      rw [hd.2 hclean]
      have hfile := hd.1.2 hclean
      unfold heldOrientation RegisterFile.orientation
      rw [hfile.get (r := Register.mirror) (by decide),
        hfile.get (r := Register.flip) (by decide)]
    subst hheld
    exact hwrite _ log d hd.1
  · -- what was read is not known, but nor is the file
    apply (((hwrite (turn o)).and (Action.contract_unclean _)).consequence
      (fun _ _ hd => hd) ?_ ?_) log d ⟨hd.1, hclean⟩
    · intro _ _ _ hend
      exact ⟨hend.1.1, fun h => (hend.2 h).elim⟩
    · intro _ _ _ hend
      exact hend.1

theorem contract_push_file (control : Control) :
    Action.Contract (push control) (FileIs f) (fun _ => FileIs (f.put control))
      (fun _ => Action.unclean) := by
  cases control with
  | exposure lines => exact contract_writeLinear_file _
  | analogGain gain => exact contract_writeLinear_file _
  | horizontalFlip on => exact contract_turn_file fun o => { o with mirror := on }
  | verticalFlip on => exact contract_turn_file fun o => { o with flip := on }
  | verticalBlank lines => exact Action.Contract.update fun _ _ hd => hd
  | horizontalBlank pixels => exact Action.Contract.pure fun _ _ hd => hd
  | testPattern pattern => exact Action.Contract.pure fun _ _ hd => hd

theorem contract_pushAll_file (controls : List Control) :
    Action.Contract (pushAll controls) (FileIs f) (fun _ => FileIs (f.putAll controls))
      (fun _ => Action.unclean) := by
  induction controls generalizing f with
  | nil => exact Action.Contract.pure fun _ _ hd => hd
  | cons control rest ih => exact Action.Contract.bind (contract_push_file control) fun _ => ih

theorem contract_replay_file (p : Program) :
    Action.Contract (onBus (Program.replay p)) (FileIs f)
      (fun _ => FileIs (f.load p.writes)) (fun _ => Action.unclean) := by
  apply contract_onBus (R := fun f _ g => g = f.load p.writes) p.contract_replay
  intro log es d b _ hd hfile
  exact hd.load hfile

/-!
# Starting a stream
-/

/-- A device that holds its mode and its controls, and the file while the log is clean. -/
structure Filed (e : Entry) (c : ControlSet) (stream : Bool) (f : RegisterFile)
    (log : List Event) (d : Device) : Prop extends Held e c stream nothing log d where
  file : Clean log -> d.rig.bus.file.EqOff [Register.streamControl] f

theorem indifferent_filed : Indifferent (Filed e c stream f) where
  boot := fun hd => hd.boot
  elsewhere := by
    intro log d d' es hd h
    refine ⟨indifferent_held.elsewhere es hd.toHeld h, ?_⟩
    intro hclean
    have hsame : d'.rig.bus.file.EqOff [Register.streamControl] d.rig.bus.file :=
      fun r hr => h.registers r fun heq => hr (List.mem_singleton.mpr heq)
    exact hsame.trans (hd.file hclean.left)

/-- Any file may be claimed after an error, since a transfer has failed. -/
theorem contract_filed (he : e.mode.isLinear = true) {x : Action Device Unit}
    (hx : Action.Obeys Tuned x)
    (hfile : Action.Contract x (FileIs f) (fun _ => FileIs g) (fun _ => Action.unclean)) :
    Action.Contract x (Filed e c stream f) (fun _ => Filed e c stream g)
      (Action.reported (Filed e c stream h)) := by
  apply ((contract_tuned_held hx).and hfile).consequence
  · intro log d hd
    refine ⟨hd.toHeld, ?_, hd.file⟩
    unfold mode
    rw [hd.entry]
    exact he
  · intro _ log d hd
    exact ⟨hd.1, hd.2.2⟩
  · intro _ _ _ hd
    exact Action.reported_of_unclean (fun _ _ hd hclean => ⟨hd, fun h => (hclean h).elim⟩) hd

theorem contract_loadMode_filed (he : e.mode.isLinear = true) :
    Action.Contract loadMode (Filed e c stream f)
      (fun _ => Filed e c stream ((f.load e.mode.program.writes).load c.writes))
      (Action.reported (Filed e c stream f)) := by
  apply Action.Contract.inspect_known (b := e.mode.program)
  · intro log d hd
    rw [mode, hd.entry]
  apply Action.Contract.bind
    (contract_filed he (tuned_onBus (Program.active_replay _)) (contract_replay_file _))
  intro _
  apply Action.Contract.bind
    (M := fun _ => Filed e c stream (f.load e.mode.program.writes))
  · apply contract_filed he (tuned_changeSession fun s => ⟨true, _, _, rfl⟩)
    exact Action.Contract.update fun _ _ hd => hd
  intro _
  apply Action.Contract.inspect_known (b := c.snapshot)
  · intro log d hd
    rw [hd.controls]
  rw [← ControlSet.putAll_snapshot]
  exact contract_filed he (tuned_pushAll _) (contract_pushAll_file _)

/-- A device that holds its mode and its controls, with a stream loaded over a file. -/
def Started (e : Entry) (c : ControlSet) (stream : Bool) (f : RegisterFile)
    (log : List Event) (d : Device) : Prop :=
  Held e c stream nothing log d ∧
    (Clean log -> d.rig.bus.file = f.load (e.mode.startWrites c))

theorem contract_switchStream_filed :
    Action.Contract (switchStream true)
      (Filed e c stream ((f.load e.mode.program.writes).load c.writes))
      (fun _ => Started e c stream f) (Action.reported (Filed e c stream f)) := by
  have hwrite : Action.Contract (switchStream true)
      (Filed e c stream ((f.load e.mode.program.writes).load c.writes))
      (fun _ log d => Clean log -> d.rig.bus.file = f.load (e.mode.startWrites c))
      (fun _ => Action.unclean) := by
    apply contract_onBus
      (R := fun f _ g => g = f.load [(Register.streamControl, Register.streaming)])
      (Bus.contract_writeByte Register.streamControl Register.streaming)
    intro log es d b _ hd hfile hclean
    show b.file = _
    rw [hfile hclean, Mode.startWrites, RegisterFile.load_append, RegisterFile.load_append,
      RegisterFile.load_eq_load_iff]
    exact hd.file hclean.left
  apply ((indifferent_held.contract_switchStream true).and hwrite).consequence
  · intro _ _ hd
    exact ⟨hd.toHeld, hd⟩
  · intro _ _ _ hd
    exact hd
  · intro _ _ _ hd
    exact Action.reported_of_unclean (fun _ _ hd hclean => ⟨hd, fun h => (hclean h).elim⟩) hd

theorem contract_startStream_filed (he : e.mode.isLinear = true) :
    Action.Contract startStream (Filed e c stream f) (fun _ => Started e c stream f)
      (Action.reported (Filed e c stream f)) := by
  apply Action.Contract.inspect
  intro session
  apply Action.Contract.bind _ fun _ => contract_switchStream_filed
  apply Action.Contract.when
  · intro _
    exact (contract_loadMode_filed he).pre fun _ _ hd => hd.1
  · intro hboot log d hd
    rw [← hd.2, hd.1.boot] at hboot
    cases hboot

/-- A stream that starts is loaded over the file; one that does not leaves the file. -/
theorem contract_beginStream_filed (he : e.mode.isLinear = true) :
    Action.Contract beginStream (Filed e c false f) (fun _ => Started e c true f)
      (fun _ => Filed e c false f) := by
  have hstands : forall log d, Filed e c false f log d -> d.HandoffStands :=
    fun _ _ hd hboot => nomatch hd.boot.symm.trans hboot
  apply contract_beginStream_of_stands hstands indifferent_filed.keeps_acquire
    (I := Started e c false f)
  · apply Action.Contract.onError (contract_startStream_filed he)
    · intro _
      exact indifferent_filed.contract_release.anyFailure
    · intro _ _ _ hfalse
      exact hfalse.elim
  · apply Action.Contract.update
    intro log d hd
    exact ⟨⟨hd.1.entry, hd.1.controls, hd.1.boot, rfl, fun _ _ hs => hs.elim⟩, hd.2⟩

end Device
end ImageSensor
