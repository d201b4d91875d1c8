import ImageSensor.Proofs.Residue

/-!
# Flawless surroundings

Where no transaction fails and no power is refused, a device on its own set-up
does what it is asked, and what it does follows from a few facts: its users,
the host's choices, the registers and the remembered orientation.  These facts
make up a portrait of the device, and each action takes one portrait to
another, whatever the power sequences did in between.
-/

namespace ImageSensor

variable {α : Type}

/-- No transaction fails and no power is refused. -/
structure Rig.Flawless (rig : Rig) : Prop where
  faults : rig.bus.faults = .none
  clock : rig.board.refusesClock = false
  supplies : rig.board.refusesSupplies = false

/-- What decides how a device goes on in flawless surroundings. -/
structure Portrait where
  users : Nat
  host : Bool
  stream : Bool
  entry : Entry
  controls : ControlSet
  file : RegisterFile
  orientation : Orientation

/-!
# The bus
-/

namespace Bus

variable {f : RegisterFile}

/-- A bus without faults that holds this file. -/
def Holds (f : RegisterFile) : Action.Assertion Bus :=
  fun _ b => b.faults = .none ∧ b.file = f

theorem failsNext_of_none {b : Bus} (h : b.faults = .none) (access : Access)
    (register : UInt16) : b.failsNext access register = false := by
  unfold failsNext
  rw [h, Faults.hit_none]

theorem flawless_writeByte (register : UInt16) (value : UInt8) :
    Action.Contract (writeByte register value) (Holds f)
      (fun _ => Holds (f.set register value)) Action.never := by
  intro log b hb
  rw [run_writeByte (failsNext_of_none hb.1 .write register)]
  exact ⟨hb.1, congrArg (RegisterFile.set · register value) hb.2⟩

theorem flawless_readByte (register : UInt16) :
    Action.Contract (readByte register) (Holds f)
      (fun value log b => value = f.get register ∧ Holds f log b) Action.never := by
  intro log b hb
  rw [run_readByte (failsNext_of_none hb.1 .read register)]
  exact ⟨congrArg (RegisterFile.get · register) hb.2, hb⟩

theorem flawless_readPair (register : UInt16) :
    Action.Contract (readPair register) (Holds f)
      (fun _ log b => True ∧ Holds f log b) Action.never := by
  intro log b hb
  rw [run_readPair (failsNext_of_none hb.1 .read register)]
  exact ⟨trivial, hb⟩

theorem flawless_writeEach (writes : List (UInt16 × UInt8)) :
    Action.Contract (writeEach writes) (Holds f)
      (fun _ => Holds (f.load writes)) Action.never := by
  induction writes generalizing f with
  | nil => exact Action.Contract.pure fun _ _ hb => hb
  | cons head rest ih =>
      apply Action.Contract.both (flawless_writeByte head.1 head.2) ih
      · intro _ _ _ hfalse
        exact hfalse.elim
      · intro _ _ _ hfalse
        exact hfalse

end Bus

theorem Program.flawless_replay (p : Program) {f : RegisterFile} :
    Action.Contract (replay p) (Bus.Holds f) (fun _ => Bus.Holds (f.load p.writes))
      Action.never := by
  apply contract_replay_of_steps (fun f => Bus.Holds f)
  · intro f milliseconds log b hb
    exact hb
  · intro f register value
    exact Bus.flawless_writeByte register value

namespace Device

/-- The portrait of a device. -/
def portrait (d : Device) : Portrait where
  users := d.rig.usage.count.toNat
  host := d.session.hostPower
  stream := d.session.streaming
  entry := d.session.entry
  controls := d.controls
  file := d.rig.bus.file
  orientation := d.session.orientation

/-- A device without boot stage in flawless surroundings, with this portrait. -/
structure Matches (p : Portrait) (_ : List Event) (d : Device) : Prop where
  portrait : d.portrait = p
  boot : d.session.fastBoot = false
  rig : d.rig.Flawless

section

variable {p : Portrait}

/-!
# Power and users
-/

theorem Matches.users {log : List Event} {d : Device} (hd : Matches p log d) :
    d.rig.usage.count.toNat = p.users :=
  congrArg Portrait.users hd.portrait

theorem Matches.hostPower {log : List Event} {d : Device} (hd : Matches p log d) :
    d.session.hostPower = p.host :=
  congrArg Portrait.host hd.portrait

theorem Matches.streaming {log : List Event} {d : Device} (hd : Matches p log d) :
    d.session.streaming = p.stream :=
  congrArg Portrait.stream hd.portrait

theorem Matches.entry {log : List Event} {d : Device} (hd : Matches p log d) :
    d.session.entry = p.entry :=
  congrArg Portrait.entry hd.portrait

theorem Matches.mode {log : List Event} {d : Device} (hd : Matches p log d) :
    d.mode = p.entry.mode :=
  congrArg Entry.mode hd.entry

theorem Matches.controls {log : List Event} {d : Device} (hd : Matches p log d) :
    d.controls = p.controls :=
  congrArg Portrait.controls hd.portrait

theorem Matches.withUsage {log log' : List Event} {d : Device} (hd : Matches p log d)
    (usage : UsageCount) :
    Matches { p with users := usage.count.toNat } log'
      { d with rig := { d.rig with usage := usage } } := by
  refine ⟨?_, hd.boot, hd.rig.faults, hd.rig.clock, hd.rig.supplies⟩
  rw [← hd.portrait]
  rfl

theorem flawless_startClock (hertz : UInt32) :
    Action.Contract (onRig (Rig.startClock hertz)) (Matches p) (fun _ => Matches p)
      Action.never := by
  intro log d hd
  rw [run_onRig, Rig.run_startClock, hd.rig.clock]
  refine ⟨hd.portrait, hd.boot, hd.rig.faults, ?_, ?_⟩
  · exact (Board.refusesClock_started _ _).trans hd.rig.clock
  · exact (Board.refusesSupplies_started _ _).trans hd.rig.supplies

theorem flawless_raiseRails :
    Action.Contract raiseRails (Matches p) (fun _ => Matches p) Action.never := by
  apply Action.Contract.inspect
  intro config log d hd
  rcases Rig.coveringDelay_ready config.clockRate with ⟨ready, hready⟩
  rw [run_onRig, Rig.run_raiseRails_of_granted hd.1.rig.supplies hready]
  exact ⟨hd.1.portrait, hd.1.boot, hd.1.rig.faults, hd.1.rig.clock, hd.1.rig.supplies⟩

theorem flawless_powerOn :
    Action.Contract powerOn (Matches p) (fun _ => Matches p) Action.never := by
  apply Action.Contract.inspect
  intro device
  apply Action.Contract.bind ((flawless_startClock _).pre fun _ _ hd => hd.1)
  intro _
  apply Action.Contract.bind (M := fun _ => Matches p)
  · apply Action.Contract.when
    · intro _
      exact flawless_raiseRails
    · intro _ _ _ hd
      exact hd
  · intro _
    exact Action.Contract.update fun _ _ hd => ⟨hd.portrait, hd.boot, hd.rig⟩

theorem flawless_powerOff :
    Action.Contract powerOff (Matches p) (fun _ => Matches p) Action.never := by
  intro log d hd
  rcases powerOff_cases fun hboot => nomatch hd.boot.symm.trans hboot with ⟨es, hrun, -⟩
  rw [hrun]
  exact ⟨hd.portrait, rfl, hd.rig.faults, hd.rig.clock, hd.rig.supplies⟩

theorem flawless_get (hroom : p.users + 1 < UInt32.size) :
    Action.Contract (onRig Rig.get) (Matches p)
      (fun _ => Matches { p with users := p.users + 1 }) Action.never := by
  intro log d hd
  have husers := hd.users
  rw [← husers] at hroom
  rcases Rig.get_answers hroom with ⟨first, hfirst⟩
  rcases Rig.run_get_cases d.rig with ⟨kind, hget⟩ | ⟨usage, hcount, hget⟩
  · rw [hget] at hfirst
    cases hfirst
  · rw [run_onRig, hget, ← husers, ← hcount]
    exact hd.withUsage usage

theorem flawless_put {n : Nat} (hp : p.users = n + 1) :
    Action.Contract (onRig Rig.put) (Matches p)
      (fun _ => Matches { p with users := n }) Action.never := by
  intro log d hd
  rcases Rig.run_put (hd.users.trans hp) with ⟨usage, hcount, hput⟩
  rw [run_onRig, hput, ← hcount]
  exact hd.withUsage usage

theorem flawless_getIfInUse (hroom : p.users + 1 < UInt32.size) :
    Action.Contract (onRig Rig.getIfInUse) (Matches p)
      (fun inUse log d =>
        if inUse then 0 < p.users ∧ Matches { p with users := p.users + 1 } log d
        else p.users = 0 ∧ Matches p log d) Action.never := by
  intro log d hd
  have husers := hd.users
  rw [← husers] at hroom ⊢
  rw [run_onRig]
  rcases Rig.run_getIfInUse_cases d.rig with
    ⟨hfull, -⟩ | ⟨hnone, hget⟩ | ⟨usage, hpos, hcount, hget⟩
  · exact absurd hroom (Nat.not_lt.mpr hfull)
  · rw [hget]
    exact ⟨hnone, hd.portrait, hd.boot, hd.rig⟩
  · rw [hget, ← hcount]
    exact ⟨hpos, hd.withUsage usage⟩

theorem flawless_acquire (hroom : p.users + 1 < UInt32.size) :
    Action.Contract acquire (Matches p)
      (fun _ => Matches { p with users := p.users + 1 }) Action.never := by
  apply Action.Contract.bind (flawless_get hroom)
  intro first
  apply Action.Contract.when
  · intro _
    apply Action.Contract.onError flawless_powerOn
    · intro _ _ _ hfalse
      exact hfalse.elim
    · intro _ _ _ hfalse
      exact hfalse
  · intro _ _ _ hd
    exact hd

theorem flawless_release {n : Nat} (hp : p.users = n + 1) :
    Action.Contract release (Matches p) (fun _ => Matches { p with users := n })
      Action.never := by
  apply Action.Contract.bind (flawless_put hp)
  intro last
  apply Action.Contract.when
  · intro _
    exact flawless_powerOff
  · intro _ _ _ hd
    exact hd

/-!
# Registers
-/

theorem flawless_onBus {x : Action Bus α} {g : RegisterFile} {c : α -> Prop}
    (hx : Action.Contract x (Bus.Holds p.file) (fun a log b => c a ∧ Bus.Holds g log b)
      Action.never) :
    Action.Contract (onBus x) (Matches p)
      (fun a log d => c a ∧ Matches { p with file := g } log d) Action.never := by
  intro log d hd
  have hportrait := hd.portrait
  subst hportrait
  have hend := hx log d.rig.bus ⟨hd.rig.faults, rfl⟩
  rw [run_onBus]
  cases hres : (x.run d.rig.bus).result with
  | ok a =>
      rw [hres] at hend
      rcases hend with ⟨ha, hfaults, hfile⟩
      refine ⟨ha, ?_, hd.boot, hfaults, hd.rig.clock, hd.rig.supplies⟩
      rw [← hfile]
      rfl
  | error e =>
      rw [hres] at hend
      exact hend

theorem flawless_load {x : Action Bus Unit} {g : RegisterFile}
    (hx : Action.Contract x (Bus.Holds p.file) (fun _ => Bus.Holds g) Action.never) :
    Action.Contract (onBus x) (Matches p) (fun _ => Matches { p with file := g })
      Action.never := by
  apply (flawless_onBus (c := fun _ => True) _).post
  · exact fun _ _ _ hd => hd.2
  · exact hx.post fun _ _ _ hb => ⟨trivial, hb⟩

theorem flawless_changeSession {f : Session -> Session} {g : Portrait -> Portrait}
    (hportrait : forall d : Device,
      portrait { d with session := f d.session } = g d.portrait)
    (hboot : forall s, (f s).fastBoot = s.fastBoot) :
    Action.Contract (changeSession f) (Matches p) (fun _ => Matches (g p))
      Action.never := by
  apply Action.Contract.update
  intro log d hd
  refine ⟨?_, (hboot d.session).trans hd.boot, hd.rig⟩
  rw [← hd.portrait]
  exact hportrait d

theorem flawless_readOrientation :
    Action.Contract readOrientation (Matches p)
      (fun o log d => o = p.file.orientation ∧ Matches p log d) Action.never := by
  apply Action.Contract.bind (flawless_onBus (Bus.flawless_readByte Register.mirror))
  intro mirror
  apply Action.Contract.assuming
  intro hmirror
  apply Action.Contract.bind (flawless_onBus (Bus.flawless_readByte Register.flip))
  intro flip
  apply Action.Contract.pure
  intro log d hd
  rw [hmirror, hd.1]
  exact ⟨rfl, hd.2⟩

theorem flawless_turn (turn : Orientation -> Orientation) :
    Action.Contract (readOrientation >>= fun o => setOrientation (turn o).code) (Matches p)
      (fun _ => Matches
        { p with
          file := p.file.load (Register.orientationWrites (turn p.file.orientation))
          orientation := turn p.file.orientation }) Action.never := by
  apply Action.Contract.bind flawless_readOrientation
  intro o
  apply Action.Contract.assuming
  intro ho
  subst ho
  rw [setOrientation_code]
  apply Action.Contract.bind (flawless_load (Bus.flawless_writeEach _))
  intro _
  exact flawless_changeSession (f := fun s => { s with orientation := _ })
    (g := fun q => { q with orientation := _ }) (fun _ => rfl) fun _ => rfl

end
end Device

/-!
# Controls in the registers
-/

namespace Portrait

/-- After a control was pushed. -/
def put (p : Portrait) (control : Control) : Portrait :=
  { p with
    file := p.file.put control
    orientation :=
      match control with
      | .horizontalFlip on => { p.file.orientation with mirror := on }
      | .verticalFlip on => { p.file.orientation with flip := on }
      | _ => p.orientation }

theorem put_flips (p : Portrait) (o : Orientation) :
    (p.put (.horizontalFlip o.mirror)).put (.verticalFlip o.flip) =
      { p with
        file := p.file.load (Register.orientationWrites o)
        orientation := o } := by
  simp only [put, RegisterFile.put, RegisterFile.orientation_load,
    RegisterFile.load_orientationWrites]

/-- After all controls were pushed. -/
theorem foldl_put_snapshot (p : Portrait) :
    p.controls.snapshot.foldl put p =
      { p with
        file := p.file.load p.controls.writes
        orientation := p.controls.orientation } := by
  have hvalues : (((p.put (.exposure p.controls.exposure.value)).put
        (.analogGain p.controls.analogGain.value)).put
        (.verticalBlank p.controls.verticalBlank.value)).put
        (.testPattern p.controls.testPattern) =
      { p with
        file := (p.file.load (Register.exposureWrites p.controls.exposure.value)).load
          (Register.gainWrites (Gain.encode p.controls.analogGain.value)) } := by
    simp only [put, RegisterFile.put]
  simp only [ControlSet.snapshot, List.foldl_cons, List.foldl_nil]
  rw [hvalues, put_flips, ControlSet.writes, RegisterFile.load_append,
    RegisterFile.load_append]

/-- After a stream was started, but for its user. -/
def started (p : Portrait) : Portrait :=
  { p with
    file := p.file.load (p.entry.mode.startWrites p.controls)
    orientation := p.controls.orientation }

/-- After a stream was started. -/
def start (p : Portrait) : Portrait :=
  { p.started with users := p.users + 1, stream := true }

end Portrait

namespace Device

section

variable {p : Portrait}

theorem flawless_writeLinear (hlinear : p.entry.mode.isLinear = true)
    (writes : List (UInt16 × UInt8)) :
    Action.Contract
      (Action.inspect Device.mode >>= fun mode =>
        Action.when mode.isLinear (onBus (Bus.writeEach writes)))
      (Matches p) (fun _ => Matches { p with file := p.file.load writes })
      Action.never := by
  apply Action.Contract.inspect
  intro mode
  apply Action.Contract.when
  · intro _
    exact (flawless_load (Bus.flawless_writeEach _)).pre fun _ _ hd => hd.1
  · intro hmode log d hd
    rw [← hd.2, hd.1.mode, hlinear] at hmode
    cases hmode

theorem flawless_push (hlinear : p.entry.mode.isLinear = true) (control : Control) :
    Action.Contract (push control) (Matches p) (fun _ => Matches (p.put control))
      Action.never := by
  cases control with
  | exposure lines => exact flawless_writeLinear hlinear _
  | analogGain gain => exact flawless_writeLinear hlinear _
  | horizontalBlank pixels => exact Action.Contract.pure fun _ _ hd => hd
  | verticalBlank lines =>
      exact flawless_changeSession
        (f := fun s => { s with frameLength := s.entry.mode.frameLength })
        (g := id) (fun _ => rfl) fun _ => rfl
  | testPattern pattern => exact Action.Contract.pure fun _ _ hd => hd
  | horizontalFlip on => exact flawless_turn fun o => { o with mirror := on }
  | verticalFlip on => exact flawless_turn fun o => { o with flip := on }

theorem flawless_pushAll (controls : List Control)
    (hlinear : p.entry.mode.isLinear = true) :
    Action.Contract (pushAll controls) (Matches p)
      (fun _ => Matches (controls.foldl Portrait.put p)) Action.never := by
  induction controls generalizing p with
  | nil => exact Action.Contract.pure fun _ _ hd => hd
  | cons control rest ih =>
      exact Action.Contract.bind (flawless_push hlinear control) fun _ => ih hlinear

/-!
# Streams
-/

theorem flawless_switchStream (on : Bool) :
    Action.Contract (switchStream on) (Matches p)
      (fun _ => Matches
        { p with
          file := p.file.set Register.streamControl
            (if on then Register.streaming else Register.standby) }) Action.never :=
  flawless_load (Bus.flawless_writeByte _ _)

theorem flawless_loadMode (hlinear : p.entry.mode.isLinear = true) :
    Action.Contract loadMode (Matches p)
      (fun _ => Matches
        { p with
          file := (p.file.load p.entry.mode.program.writes).load p.controls.writes
          orientation := p.controls.orientation }) Action.never := by
  apply Action.Contract.inspect_known (b := p.entry.mode.program)
  · intro log d hd
    rw [hd.mode]
  apply Action.Contract.bind (flawless_load (Program.flawless_replay _))
  intro _
  apply Action.Contract.bind
    (flawless_changeSession (f := fun s => { s with programmed := true }) (g := id)
      (fun _ => rfl) fun _ => rfl)
  intro _
  apply Action.Contract.inspect_known (b := p.controls.snapshot)
  · intro log d hd
    rw [hd.controls]
    rfl
  have hpush := flawless_pushAll
    (p := { p with file := p.file.load p.entry.mode.program.writes })
    p.controls.snapshot hlinear
  rw [Portrait.foldl_put_snapshot] at hpush
  exact hpush

theorem flawless_startStream (hlinear : p.entry.mode.isLinear = true) :
    Action.Contract startStream (Matches p) (fun _ => Matches p.started)
      Action.never := by
  apply Action.Contract.inspect
  intro session
  apply Action.Contract.bind
  · apply Action.Contract.when
    · intro _
      exact (flawless_loadMode hlinear).pre fun _ _ hd => hd.1
    · intro hboot log d hd
      rw [← hd.2, hd.1.boot] at hboot
      cases hboot
  intro _
  apply (flawless_switchStream true).post
  intro _ log d hd
  have hfile : p.started.file =
      ((p.file.load p.entry.mode.program.writes).load p.controls.writes).set
        Register.streamControl Register.streaming := by
    show p.file.load (p.entry.mode.startWrites p.controls) = _
    rw [Mode.startWrites, RegisterFile.load_append, RegisterFile.load_append]
    rfl
  refine ⟨?_, hd.boot, hd.rig⟩
  rw [hd.portrait]
  show { p with file := _, orientation := _ } = { p with file := p.started.file, orientation := _ }
  rw [hfile]
  rfl

theorem flawless_beginStream (hlinear : p.entry.mode.isLinear = true)
    (hroom : p.users + 1 < UInt32.size) :
    Action.Contract beginStream (Matches p) (fun _ => Matches p.start)
      Action.never := by
  apply contract_beginStream_of_stands (M := Matches { p with users := p.users + 1 })
    (I := Matches { p.started with users := p.users + 1 })
  · intro log d hd hboot
    exact nomatch hd.boot.symm.trans hboot
  · exact flawless_acquire hroom
  · apply Action.Contract.onError
      (flawless_startStream (p := { p with users := p.users + 1 }) hlinear)
    · intro _ _ _ hfalse
      exact hfalse.elim
    · intro _ _ _ hfalse
      exact hfalse
  · exact flawless_changeSession (f := fun s => { s with streaming := true })
      (g := fun q => { q with stream := true }) (fun _ => rfl) fun _ => rfl

theorem flawless_leaveStream {n : Nat} (hp : p.users = n + 1) :
    Action.Contract leaveStream (Matches p)
      (fun _ => Matches { p with users := n, stream := false }) Action.never := by
  apply Action.Contract.bind (flawless_release hp)
  intro _
  exact flawless_changeSession (f := fun s => { s with streaming := false })
    (g := fun q => { q with stream := false }) (fun _ => rfl) fun _ => rfl

theorem flawless_endStream {n : Nat} (hp : p.users = n + 1) :
    Action.Contract endStream (Matches p)
      (fun _ => Matches
        { p with
          users := n
          stream := false
          file := p.file.set Register.streamControl Register.standby }) Action.never := by
  have hstop : Action.Contract stopStream (Matches p)
      (fun _ => Matches
        { p with file := p.file.set Register.streamControl Register.standby })
      Action.never := by
    intro log d hd
    rw [run_stopStream hd.boot]
    exact flawless_switchStream false log d hd
  apply Action.Contract.ensuring hstop
  · intro _
    exact flawless_leaveStream
      (p := { p with file := p.file.set Register.streamControl Register.standby }) hp
  · intro _ _ _ hfalse
    exact hfalse.elim
  · intro _ _ _ hfalse
    exact hfalse

/-!
# The host's power
-/

theorem flawless_grantPower (hroom : p.users + 1 < UInt32.size) :
    Action.Contract grantPower (Matches p)
      (fun _ => Matches { p with users := p.users + 1, host := true }) Action.never := by
  rw [grantPower_eq]
  apply Action.Contract.bind (flawless_acquire hroom)
  intro _
  exact flawless_changeSession (f := fun s => { s with hostPower := true })
    (g := fun q => { q with host := true }) (fun _ => rfl) fun _ => rfl

theorem flawless_withdrawPower {n : Nat} (hp : p.users = n + 1) :
    Action.Contract withdrawPower (Matches p)
      (fun _ => Matches { p with users := n, host := false }) Action.never := by
  apply Action.Contract.bind (flawless_release hp)
  intro _
  exact flawless_changeSession (f := fun s => { s with hostPower := false })
    (g := fun q => { q with host := false }) (fun _ => rfl) fun _ => rfl

end
end Device

/-!
# Sane portraits

The host and the stream are the only users, the mode is one of the catalog,
and the controls fit it.
-/

structure Portrait.Sane (p : Portrait) : Prop where
  users : p.users = p.host.toNat + p.stream.toNat
  entry : p.entry ∈ Catalog.entries
  controls : p.controls.Fits p.entry.mode

theorem Portrait.Sane.room {p : Portrait} (hp : p.Sane) : p.users + 2 < UInt32.size := by
  have hhost := p.host.toNat_le
  have hstream := p.stream.toNat_le
  have hsize : UInt32.size = 4294967296 := rfl
  have husers := hp.users
  omega

theorem Portrait.Sane.linear {p : Portrait} (hp : p.Sane) :
    p.entry.mode.isLinear = true :=
  Catalog.isLinear hp.entry

theorem Portrait.Sane.start {p : Portrait} (hp : p.Sane) (hidle : p.stream = false) :
    p.start.Sane := by
  refine ⟨?_, hp.entry, hp.controls⟩
  show p.users + 1 = p.host.toNat + true.toNat
  rw [hp.users, hidle]
  rfl

namespace Device

/-- A device without boot stage in flawless surroundings, with a sane portrait. -/
def Healthy (log : List Event) (d : Device) : Prop :=
  exists p : Portrait, p.Sane ∧ Matches p log d

theorem Matches.healthy {p : Portrait} {log : List Event} {d : Device}
    (hd : Matches p log d) (hp : p.Sane) : Healthy log d :=
  ⟨p, hp, hd⟩

theorem keeps_healthy {x : Action Device α}
    (hx : forall p : Portrait, p.Sane ->
      Action.Contract x (Matches p) (fun _ => Healthy) fun _ => Healthy) :
    Action.Keeps Healthy x := by
  intro log d hd
  rcases hd with ⟨p, hp, hmatches⟩
  exact hx p hp log d hmatches

theorem healthy_of_flawless {x : Action Device α} {p q : Portrait} (hq : q.Sane)
    (hx : Action.Contract x (Matches p) (fun _ => Matches q) Action.never) :
    Action.Contract x (Matches p) (fun _ => Healthy) fun _ => Healthy :=
  (hx.post fun _ _ _ hd => hd.healthy hq).anyFailure

theorem healthy_setPower (on : Bool) : Action.Keeps Healthy (setPower on) := by
  apply keeps_healthy
  intro p hp
  have husers := hp.users
  apply contract_setPower_of_host (fun _ _ hd => hd.hostPower)
  · intro _ _ _ hd
    exact hd.healthy hp
  · intro hhost _
    have hgranted : Portrait.Sane { p with users := p.users + 1, host := true } := by
      refine ⟨?_, hp.entry, hp.controls⟩
      simp [husers, hhost]
      omega
    exact healthy_of_flawless hgranted (flawless_grantPower (Nat.lt_of_succ_lt hp.room))
  · intro hhost _
    have hlast : p.users = p.stream.toNat + 1 := by
      simp [husers, hhost]
      omega
    have hwithdrawn : Portrait.Sane { p with users := p.stream.toNat, host := false } :=
      ⟨by simp, hp.entry, hp.controls⟩
    exact healthy_of_flawless hwithdrawn (flawless_withdrawPower hlast)

theorem healthy_setStream (on : Bool) : Action.Keeps Healthy (setStream on) := by
  apply keeps_healthy
  intro p hp
  have husers := hp.users
  apply contract_setStream_of_streaming (fun _ _ hd => hd.streaming)
  · intro _ _ _ hd
    exact hd.healthy hp
  · intro hidle _
    exact healthy_of_flawless (hp.start hidle)
      (flawless_beginStream hp.linear (Nat.lt_of_succ_lt hp.room))
  · intro hstream _
    have hlast : p.users = p.host.toNat + 1 := by simp [husers, hstream]
    apply healthy_of_flawless _ (flawless_endStream hlast)
    exact ⟨by simp, hp.entry, hp.controls⟩

/-!
# Negotiation and commands
-/

theorem healthy_selectMode {entry : Entry} (hentry : entry ∈ Catalog.entries) :
    Action.Keeps Healthy (selectMode entry) := by
  apply keeps_healthy
  intro p hp
  apply Action.Contract.inspect_known fun _ _ hd => hd.controls
  rcases hp.controls.applyMode (Catalog.wellFormed hentry) with
    ⟨controls, moved, happly, hfits⟩
  rw [happly]
  intro log d hd
  refine ⟨{ p with entry := entry, controls := controls }, ⟨hp.users, hentry, hfits⟩, ?_⟩
  refine ⟨?_, hd.boot, hd.rig⟩
  rw [← hd.portrait]
  rfl

theorem negotiable_healthy : Negotiable Healthy where
  scratch := by
    intro format
    apply keeps_healthy
    intro p hp
    apply Action.Contract.update
    intro log d hd
    exact ⟨p, hp, hd.portrait, hd.boot, hd.rig⟩
  selectMode := fun hentry => (healthy_selectMode hentry).pre fun _ _ hd => hd.1

theorem healthy_switchStream (on : Bool) : Action.Keeps Healthy (switchStream on) := by
  apply keeps_healthy
  intro p hp
  apply healthy_of_flawless _ (flawless_switchStream on)
  exact ⟨hp.users, hp.entry, hp.controls⟩

end Device
end ImageSensor
