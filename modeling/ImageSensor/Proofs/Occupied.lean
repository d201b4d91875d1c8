import ImageSensor.Proofs.Requests

/-!
# A device in use

As long as somebody uses the device no power sequence runs: users come and go
by the count alone, and the levels and the session's account of them stay what
they are, whether or not the two agree.
-/

namespace ImageSensor

theorem Levels.ofLog_append_usage (log : List Event) (call : UsageCall)
    (answer : Option Bool) (count : UInt32) :
    ofLog (log ++ [.usage call answer count]) = ofLog log := by
  unfold ofLog
  rw [afterAll_append]
  rfl

theorem Levels.ofLog_append_busActivity {log es : List Event}
    (hes : forall e, e ∈ es -> e.isBusActivity = true) :
    ofLog (log ++ es) = ofLog log := by
  unfold ofLog
  rw [afterAll_append, afterAll_of_busActivity hes]

namespace Device

/-!
# Controls forget no program and replay none
-/

def Recalls (d : Device) (_ : List Event) (d' : Device) : Prop :=
  d'.session.programmed = d.session.programmed

theorem composes_recalls : Action.Composes Recalls where
  refl := fun _ => rfl
  trans := fun hes hfs => hfs.trans hes

theorem recalls_onBus {α : Type} {x : Action Bus α} (hx : Action.Obeys Bus.Active x) :
    Action.Obeys Recalls (onBus x) :=
  fun d => ⟨rfl, (hx d.rig.bus).2⟩

theorem recalls_changeSession {f : Session -> Session}
    (hf : forall s, (f s).programmed = s.programmed) :
    Action.Obeys Recalls (changeSession f) :=
  fun d => ⟨hf d.session, fun _ hover => nomatch hover⟩

theorem recalls_flip (f : Orientation -> Orientation) :
    Action.Obeys Recalls (readOrientation >>= fun o => setOrientation (f o).code) := by
  have hread : Action.Obeys Recalls readOrientation := by
    apply composes_recalls.bind (recalls_onBus (Bus.active_readByte _))
    intro mirror
    apply composes_recalls.bind (recalls_onBus (Bus.active_readByte _))
    intro flip
    exact composes_recalls.pure _
  apply composes_recalls.bind hread
  intro o
  apply composes_recalls.bind (recalls_onBus (Bus.active_writeEach _))
  intro _
  exact recalls_changeSession fun _ => rfl

theorem recalls_push (control : Control) : Action.Obeys Recalls (push control) := by
  have hwrites : forall writes, Action.Obeys Recalls
      (Action.inspect Device.mode >>= fun mode =>
        Action.when mode.isLinear (onBus (Bus.writeEach writes))) := by
    intro writes
    apply composes_recalls.bind (composes_recalls.inspect _)
    intro mode
    exact composes_recalls.when _ (recalls_onBus (Bus.active_writeEach writes))
  cases control with
  | exposure lines => exact hwrites _
  | analogGain gain => exact hwrites _
  | horizontalBlank pixels => exact composes_recalls.pure ()
  | verticalBlank lines => exact recalls_changeSession fun _ => rfl
  | testPattern pattern => exact composes_recalls.pure ()
  | horizontalFlip on => exact recalls_flip fun o => { o with mirror := on }
  | verticalFlip on => exact recalls_flip fun o => { o with flip := on }

theorem recalls_pushStored (request : Control) (stored : ControlSet × Bool) :
    Action.Obeys Recalls (pushStored request stored) := by
  rcases stored with ⟨controls, moved⟩
  cases moved with
  | false => exact recalls_push request
  | true => exact composes_recalls.both (recalls_push request) (recalls_push _)

/-!
# Users without a change of power
-/

/--
There are some users, the levels are these, and the session says so or not.
Under the boot stage's set-up no program was replayed.
-/
structure Occupied (l : Lines) (v : Levels) (active : Bool) (n : Nat) (h : Holders)
    (log : List Event) (d : Device) : Prop where
  users : d.rig.usage.count.toNat = n
  active : d.session.active = active
  holders : d.session.holders = h
  unprogrammed : h.boot = true -> d.session.programmed = false
  lines : d.rig.lines = l
  levels : Levels.ofLog log = v

section

variable {l : Lines} {v : Levels} {active : Bool} {n : Nat} {h : Holders}

theorem Occupied.moved {log : List Event} {d : Device}
    (hd : Occupied l v active n h log d) {usage : UsageCount} {m : Nat}
    (husage : usage.count.toNat = m) (call : UsageCall) (answer : Option Bool)
    (count : UInt32) :
    Occupied l v active m h (log ++ [.usage call answer count])
      { d with rig := { d.rig with usage := usage } } where
  users := husage
  active := hd.active
  holders := hd.holders
  unprogrammed := hd.unprogrammed
  lines := hd.lines
  levels := (Levels.ofLog_append_usage log call answer count).trans hd.levels

theorem occupied_get :
    Action.Contract (onRig Rig.get) (Occupied l v active n h)
      (fun first log d => first = decide (n = 0) ∧ Occupied l v active (n + 1) h log d)
      (fun _ => Occupied l v active n h) := by
  intro log d hd
  rw [run_onRig]
  rcases Rig.run_get_cases d.rig with ⟨kind, hget⟩ | ⟨usage, hcount, hget⟩
  · rw [hget]
    simpa using hd
  · rw [hd.users] at hcount hget
    rw [hget]
    exact ⟨rfl, hd.moved hcount _ _ _⟩

theorem occupied_put :
    Action.Contract (onRig Rig.put) (Occupied l v active (n + 1) h)
      (fun last log d => last = decide (n = 0) ∧ Occupied l v active n h log d)
      Action.never := by
  intro log d hd
  rcases Rig.run_put hd.users with ⟨usage, hcount, hput⟩
  rw [run_onRig, hput]
  exact ⟨rfl, hd.moved hcount _ _ _⟩

theorem occupied_acquire (hn : 0 < n) :
    Action.Contract acquire (Occupied l v active n h)
      (fun _ => Occupied l v active (n + 1) h) (fun _ => Occupied l v active n h) := by
  apply Action.Contract.bind occupied_get
  intro first
  apply Action.Contract.assuming
  intro hfirst
  rw [hfirst, decide_eq_false (Nat.ne_of_gt hn)]
  exact Action.Contract.pure fun _ _ hd => hd

theorem occupied_release (hn : 0 < n) :
    Action.Contract release (Occupied l v active (n + 1) h)
      (fun _ => Occupied l v active n h) Action.never := by
  apply Action.Contract.bind occupied_put
  intro last
  apply Action.Contract.assuming
  intro hlast
  rw [hlast, decide_eq_false (Nat.ne_of_gt hn)]
  exact Action.Contract.pure fun _ _ hd => hd

theorem Occupied.tuned {log es : List Event} {d d' : Device}
    (hd : Occupied l v active n h log d) (ht : Tuned d es d')
    (hprogrammed : h.boot = true -> d'.session.programmed = d.session.programmed) :
    Occupied l v active n h (log ++ es) d' := by
  rcases ht with ⟨⟨bus, programmed, frameLength, orientation, rfl⟩, -, hes⟩
  exact
    { users := hd.users
      active := hd.active
      holders := hd.holders
      unprogrammed := fun hboot => (hprogrammed hboot).trans (hd.unprogrammed hboot)
      lines := hd.lines
      levels := (Levels.ofLog_append_busActivity hes).trans hd.levels }

theorem occupied_tuned {α : Type} {x : Action Device α} (hx : Action.Obeys Tuned x)
    (hboot : h.boot = false) :
    Action.Contract x (Occupied l v active n h) (fun _ => Occupied l v active n h)
      (Action.reported (Occupied l v active n h)) :=
  hx.contract fun _ _ _ _ hd ht =>
    hd.tuned ht fun hboots => nomatch hboot.symm.trans hboots

/-!
# Requests
-/

theorem Occupied.changed {log : List Event} {d : Device} {h' : Holders}
    (hd : Occupied l v active n h log d) {s : Session} {controls : ControlSet}
    (hactive : s.active = d.session.active) (hholders : s.holders = h')
    (hprogrammed : h'.boot = true -> h.boot = true ∧
      (d.session.programmed = false -> s.programmed = false)) :
    Occupied l v active n h' log { d with session := s, controls := controls } where
  users := hd.users
  active := hactive.trans hd.active
  holders := hholders
  unprogrammed := fun hboot => (hprogrammed hboot).2 (hd.unprogrammed (hprogrammed hboot).1)
  lines := hd.lines
  levels := hd.levels

theorem tunable_occupied (hn : 0 < n) :
    Tunable (Occupied l v active n h) (Occupied l v active (n + 1) h) where
  changeControls := fun controls => Action.Contract.update fun _ _ hd =>
    hd.changed rfl hd.holders fun hboot => ⟨hboot, fun hprogrammed => hprogrammed⟩
  getIfInUse := by
    intro log d hd
    rw [run_onRig]
    rcases Rig.run_getIfInUse_cases d.rig with
      ⟨-, kind, hget⟩ | ⟨hzero, -⟩ | ⟨usage, -, hcount, hget⟩
    · rw [hget]
      simpa using hd
    · exact absurd (hd.users.symm.trans hzero) (Nat.ne_of_gt hn)
    · rw [hd.users] at hcount
      rw [hget]
      exact hd.moved hcount _ _ _
  pushStored := by
    intro request stored
    apply Action.Contract.of_always
    intro log d hd
    have htuned := (tuned_pushStored request stored d).1
    have hrecalls := (recalls_pushStored request stored d).1
    exact hd.tuned htuned fun _ => hrecalls
  release := (occupied_release hn).anyFailure

theorem negotiable_occupied : Negotiable (Occupied l v active n h) where
  scratch := fun _ => Action.Contract.update fun _ _ hd =>
    hd.changed rfl hd.holders fun hboot => ⟨hboot, fun hprogrammed => hprogrammed⟩
  selectMode := by
    intro entry _
    apply Action.Contract.inspect
    intro controls
    apply Action.Contract.bind (M := fun _ => Occupied l v active n h)
      (Action.Contract.compute (fun _ _ hd _ _ => hd.1.1) fun _ _ _ hd => hd.1.1)
    intro applied
    apply Action.Contract.bind (M := fun _ => Occupied l v active n h)
      (Action.Contract.update fun _ _ hd =>
        hd.changed rfl hd.holders fun hboot => ⟨hboot, fun hprogrammed => hprogrammed⟩)
    intro _
    apply Action.Contract.update
    intro _ d hd
    refine hd.changed rfl hd.holders fun hboot => ⟨hboot, ?_⟩
    intro hprogrammed
    simp [hprogrammed]

theorem occupied_switchStream (on : Bool) :
    Action.Keeps (Occupied l v active n h) (switchStream on) := by
  have hactive := Bus.active_write Register.streamControl 1
    (if on then Register.streaming else Register.standby).toUInt32
  exact Action.Contract.of_always fun _ d hd =>
    hd.tuned (tuned_onBus hactive d).1 fun _ => rfl

theorem occupied_grantPower (hn : 0 < n) :
    Action.Contract grantPower (Occupied l v active n h)
      (fun _ => Occupied l v active (n + 1) { h with host := true })
      (fun _ => Occupied l v active n h) := by
  rw [grantPower_eq]
  apply Action.Contract.bind (occupied_acquire hn)
  intro _
  apply Action.Contract.update
  intro log d hd
  have hholders := hd.holders
  subst hholders
  exact hd.changed rfl rfl fun hboot => ⟨hboot, fun hprogrammed => hprogrammed⟩

theorem occupied_dropHost :
    Action.Contract (changeSession fun s => { s with hostPower := false })
      (Occupied l v active n h)
      (fun _ => Occupied l v active n { h with host := false }) Action.never := by
  apply Action.Contract.update
  intro log d hd
  have hholders := hd.holders
  subst hholders
  exact hd.changed rfl rfl fun hboot => ⟨hboot, fun hprogrammed => hprogrammed⟩

theorem occupied_withdrawPower (hn : 0 < n) :
    Action.Contract withdrawPower (Occupied l v active (n + 1) h)
      (fun _ => Occupied l v active n { h with host := false }) Action.never := by
  apply Action.Contract.bind (occupied_release hn)
  intro _
  exact occupied_dropHost

theorem occupied_markStream (on : Bool) :
    Action.Contract (changeSession fun s => { s with streaming := on })
      (Occupied l v active n h)
      (fun _ => Occupied l v active n { h with stream := on }) Action.never := by
  apply Action.Contract.update
  intro log d hd
  have hholders := hd.holders
  subst hholders
  exact hd.changed rfl rfl fun hboot => ⟨hboot, fun hprogrammed => hprogrammed⟩

/-!
# Streams without a boot stage
-/

theorem Occupied.fastBoot {log : List Event} {d : Device}
    (hd : Occupied l v active n h log d) : d.session.fastBoot = h.boot :=
  congrArg Holders.boot hd.holders

theorem Occupied.streaming {log : List Event} {d : Device}
    (hd : Occupied l v active n h log d) : d.session.streaming = h.stream :=
  congrArg Holders.stream hd.holders

theorem Occupied.hostPower {log : List Event} {d : Device}
    (hd : Occupied l v active n h log d) : d.session.hostPower = h.host :=
  congrArg Holders.host hd.holders

theorem occupied_beginStream (hn : 0 < n) (hboot : h.boot = false) :
    Action.Contract beginStream (Occupied l v active n h)
      (fun _ => Occupied l v active (n + 1) { h with stream := true })
      (fun _ => Occupied l v active n h) := by
  have hstands : forall log d, Occupied l v active n h log d -> d.HandoffStands :=
    fun _ _ hd hfast => nomatch (hd.fastBoot.trans hboot).symm.trans hfast
  apply contract_beginStream_of_stands hstands (occupied_acquire hn)
    (I := Occupied l v active (n + 1) h)
  · apply Action.Contract.onError (occupied_tuned tuned_startStream hboot)
    · intro _
      exact (occupied_release hn).anyFailure
    · intro _ _ _ hfalse
      exact hfalse.elim
  · exact (occupied_markStream true).anyFailure

theorem occupied_stopStream (hboot : h.boot = false) :
    Action.Contract stopStream (Occupied l v active n h)
      (fun _ => Occupied l v active n h)
      (Action.reported (Occupied l v active n h)) := by
  intro log d hd
  rw [run_stopStream (hd.fastBoot.trans hboot)]
  exact occupied_tuned (tuned_switchStream false) hboot log d hd

end
end Device
end ImageSensor
