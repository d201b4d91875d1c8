import ImageSensor.Proofs.Transfers
import ImageSensor.Proofs.Tuning

/-!
# Controls in the registers

A control that has registers is shown by a sensor when they hold its value.  A
flip is shown when the remembered orientation says the same.  To push a control
makes the sensor show it, and takes away nothing else that was shown, as long
as all transfers succeed and the mode has a single exposure.
-/

namespace ImageSensor

namespace Control

/-- Where a control is found in the sensor. -/
def Kind.registers : Kind -> List UInt16
  | .exposure => [Register.exposureHigh, Register.exposureMiddle, Register.exposureLow]
  | .analogGain => [Register.gainCompound, Register.gainExtension, Register.gainCoarse]
  | .horizontalFlip => [Register.mirror]
  | .verticalFlip => [Register.flip]
  | _ => []

theorem Kind.registers_disjoint {k k' : Kind} (hne : k ≠ k') {r : UInt16}
    (hr : r ∈ k.registers) : r ∉ k'.registers := by
  have hall : (k.registers.all fun r => !k'.registers.contains r) = true := by
    cases k <;> cases k' <;> first | exact (hne rfl).elim | rfl
  have hnot := List.all_eq_true.mp hall r hr
  simpa using hnot

end Control

namespace Register

theorem exposureWrites_registers (lines : UInt32) :
    (exposureWrites lines).map Prod.fst = Control.Kind.exposure.registers := rfl

theorem gainWrites_registers (fields : Gain.Fields) :
    (gainWrites fields).map Prod.fst = Control.Kind.analogGain.registers := rfl

theorem orientationWrites_registers (o : Orientation) :
    (orientationWrites o).map Prod.fst =
      Control.Kind.verticalFlip.registers ++ Control.Kind.horizontalFlip.registers := rfl

end Register

namespace Device

/-- The sensor holds the value of a control. -/
def Shows (d : Device) : Control -> Prop
  | .exposure lines =>
      Control.Kind.exposure.registers.map d.rig.bus.file.get = Register.toBytes 3 lines
  | .analogGain gain =>
      d.rig.bus.file.get Register.gainCompound = (Gain.encode gain).compound ∧
      d.rig.bus.file.get Register.gainExtension = (Gain.encode gain).extension ∧
      d.rig.bus.file.get Register.gainCoarse = (Gain.encode gain).coarse
  | .horizontalFlip on =>
      d.rig.bus.file.get Register.mirror = on.toUInt8 ∧ d.session.orientation.mirror = on
  | .verticalFlip on =>
      d.rig.bus.file.get Register.flip = on.toUInt8 ∧ d.session.orientation.flip = on
  | _ => True

theorem Shows.of_registers {d d' : Device} {c : Control} (h : d.Shows c)
    (hregisters : forall r, r ∈ c.kind.registers ->
      d'.rig.bus.file.get r = d.rig.bus.file.get r)
    (horientation : d'.session.orientation = d.session.orientation) : d'.Shows c := by
  cases c with
  | exposure lines =>
      refine Eq.trans ?_ h
      exact List.map_congr_left hregisters
  | analogGain gain =>
      rcases h with ⟨hcompound, hextension, hcoarse⟩
      refine ⟨?_, ?_, ?_⟩
      · rw [hregisters _ (by simp [Control.kind, Control.Kind.registers]), hcompound]
      · rw [hregisters _ (by simp [Control.kind, Control.Kind.registers]), hextension]
      · rw [hregisters _ (by simp [Control.kind, Control.Kind.registers]), hcoarse]
  | horizontalFlip on =>
      rcases h with ⟨hfile, hmirror⟩
      constructor
      · rw [hregisters _ (by simp [Control.kind, Control.Kind.registers]), hfile]
      · rw [horientation, hmirror]
  | verticalFlip on =>
      rcases h with ⟨hfile, hflip⟩
      constructor
      · rw [hregisters _ (by simp [Control.kind, Control.Kind.registers]), hfile]
      · rw [horientation, hflip]
  | _ => trivial

/-!
# Work on the bus that succeeds
-/

/-- What is known of the bus while the log is clean is known of the device. -/
theorem contract_onBus {α : Type} {x : Action Bus α} {P : Action.Assertion Device}
    {Q : α -> Action.Assertion Device} {R : RegisterFile -> α -> RegisterFile -> Prop}
    (hx : forall f, Action.Contract x (Action.whileClean fun b => b.file = f)
      (fun a => Action.whileClean fun b => R f a b.file) (fun _ => Action.unclean))
    (h : forall log es d b a, P log d ->
      (Clean (log ++ es) -> R d.rig.bus.file a b.file) -> Q a (log ++ es) (d.withBus b)) :
    Action.Contract (onBus x) P Q (fun _ => Action.unclean) := by
  intro log d hd
  have hend := hx d.rig.bus.file log d.rig.bus fun _ => rfl
  rw [run_onBus]
  cases hres : (x.run d.rig.bus).result with
  | ok a =>
      rw [hres] at hend
      exact h log _ d _ a hd hend
  | error e =>
      rw [hres] at hend
      exact hend

theorem contract_writeRegisters {P Q : Action.Assertion Device}
    (writes : List (UInt16 × UInt8))
    (h : forall log es d b, P log d ->
      (Clean (log ++ es) -> b.file = d.rig.bus.file.load writes) ->
      Q (log ++ es) (d.withBus b)) :
    Action.Contract (onBus (Bus.writeEach writes)) P (fun _ => Q)
      (fun _ => Action.unclean) :=
  contract_onBus (R := fun f _ g => g = f.load writes) (Bus.contract_writeEach writes)
    fun log es d b _ => h log es d b

theorem contract_readRegister {P : Action.Assertion Device}
    {Q : UInt8 -> Action.Assertion Device} (register : UInt16)
    (h : forall log es d b value, P log d ->
      (Clean (log ++ es) ->
        b.file = d.rig.bus.file ∧ value = d.rig.bus.file.get register) ->
      Q value (log ++ es) (d.withBus b)) :
    Action.Contract (onBus (Bus.readByte register)) P Q (fun _ => Action.unclean) :=
  contract_onBus (R := fun f value g => g = f ∧ value = f.get register)
    (Bus.contract_readByte register) h

/-!
# Pushing a control

Which controls are shown is only known while the log is clean.
-/

/-- In a mode with a single exposure, some controls are shown. -/
def Showing (S : Control -> Prop) (log : List Event) (d : Device) : Prop :=
  d.mode.isLinear = true ∧ (Clean log -> forall c, S c -> d.Shows c)

/-- What is shown once a control was pushed. -/
def pushed (S : Control -> Prop) (c : Control) : Control -> Prop :=
  fun s => s = c ∨ (S s ∧ s.kind ≠ c.kind)

variable {S T : Control -> Prop}

theorem Showing.mono {log : List Event} {d : Device} (hd : Showing S log d)
    (h : forall s, T s -> S s) : Showing T log d :=
  ⟨hd.1, fun hclean s hs => hd.2 hclean s (h s hs)⟩

theorem Shows.of_load {d : Device} {b : Bus} {c : Control} {k : Control.Kind}
    {writes : List (UInt16 × UInt8)} (h : d.Shows c) (hkind : c.kind ≠ k)
    (hwrites : writes.map Prod.fst = k.registers)
    (hfile : b.file = d.rig.bus.file.load writes) : (d.withBus b).Shows c := by
  apply h.of_registers
  · intro r hr
    show b.file.get r = _
    rw [hfile]
    apply RegisterFile.get_load_of_not_mem
    rw [hwrites]
    exact Control.Kind.registers_disjoint hkind hr
  · rfl

theorem shows_exposure {d : Device} {b : Bus} {lines : UInt32}
    (hfile : b.file = d.rig.bus.file.load (Register.exposureWrites lines)) :
    (d.withBus b).Shows (.exposure lines) := by
  show Control.Kind.exposure.registers.map b.file.get = _
  rw [hfile]
  rfl

theorem shows_analogGain {d : Device} {b : Bus} {gain : UInt32}
    (hfile : b.file = d.rig.bus.file.load (Register.gainWrites (Gain.encode gain))) :
    (d.withBus b).Shows (.analogGain gain) := by
  show b.file.get _ = _ ∧ b.file.get _ = _ ∧ b.file.get _ = _
  rw [hfile]
  exact ⟨rfl, rfl, rfl⟩

theorem contract_pushWrites {c : Control} {writes : List (UInt16 × UInt8)}
    (hwrites : writes.map Prod.fst = c.kind.registers)
    (hshows : forall (d : Device) (b : Bus),
      b.file = d.rig.bus.file.load writes -> (d.withBus b).Shows c) :
    Action.Contract
      (Action.inspect Device.mode >>= fun mode =>
        Action.when mode.isLinear (onBus (Bus.writeEach writes)))
      (Showing S) (fun _ => Showing (pushed S c))
      (fun _ => Action.unclean) := by
  apply Action.Contract.inspect_knowing (c := fun mode => mode.isLinear = true)
    fun _ _ hd => hd.1
  intro mode hlinear
  rw [hlinear, Action.when_true]
  apply contract_writeRegisters
  intro log es d b hd hfile
  refine ⟨hd.1, ?_⟩
  intro hclean s hs
  rcases hs with rfl | ⟨hs, hkind⟩
  · exact hshows d b (hfile hclean)
  · exact (hd.2 hclean.left s hs).of_load hkind hwrites (hfile hclean)

/-!
# Turning the readout
-/

/-- The orientation that the registers hold. -/
def heldOrientation (d : Device) : Orientation :=
  ⟨d.rig.bus.file.get Register.mirror &&& 1 != 0,
    d.rig.bus.file.get Register.flip &&& 1 != 0⟩

theorem bit_toUInt8 (on : Bool) : (on.toUInt8 &&& 1 != 0) = on := by
  cases on <;> rfl

theorem Shows.heldMirror {d : Device} {on : Bool} (h : d.Shows (.horizontalFlip on)) :
    d.heldOrientation.mirror = on := by
  unfold heldOrientation
  rw [h.1]
  exact bit_toUInt8 on

theorem Shows.heldFlip {d : Device} {on : Bool} (h : d.Shows (.verticalFlip on)) :
    d.heldOrientation.flip = on := by
  unfold heldOrientation
  rw [h.1]
  exact bit_toUInt8 on

/-- Reading leaves the file alone, and with it whatever is asserted about that. -/
theorem contract_readOrientation {P : Action.Assertion Device}
    (hkeep : forall log es d b, P log d ->
      (Clean (log ++ es) -> b.file = d.rig.bus.file) -> P (log ++ es) (d.withBus b)) :
    Action.Contract readOrientation P
      (fun o log d => P log d ∧ (Clean log -> o = d.heldOrientation))
      (fun _ => Action.unclean) := by
  apply Action.Contract.bind (M := fun mirror log d => P log d ∧
    (Clean log -> mirror = d.rig.bus.file.get Register.mirror))
  · apply contract_readRegister
    intro log es d b mirror hd hread
    refine ⟨hkeep log es d b hd fun hclean => (hread hclean).1, ?_⟩
    intro hclean
    show mirror = b.file.get Register.mirror
    rw [(hread hclean).1, (hread hclean).2]
  intro mirror
  apply Action.Contract.bind (M := fun flip log d => P log d ∧
    (Clean log -> mirror = d.rig.bus.file.get Register.mirror ∧
      flip = d.rig.bus.file.get Register.flip))
  · apply contract_readRegister
    intro log es d b flip hd hread
    refine ⟨hkeep log es d b hd.1 fun hclean => (hread hclean).1, ?_⟩
    intro hclean
    show mirror = b.file.get Register.mirror ∧ flip = b.file.get Register.flip
    rw [(hread hclean).1]
    exact ⟨hd.2 hclean.left, (hread hclean).2⟩
  intro flip
  apply Action.Contract.pure
  intro log d hd
  refine ⟨hd.1, ?_⟩
  intro hclean
  rcases hd.2 hclean with ⟨hmirror, hflip⟩
  unfold heldOrientation
  rw [← hmirror, ← hflip]

theorem Showing.read {log es : List Event} {d : Device} {b : Bus} (hd : Showing S log d)
    (hfile : Clean (log ++ es) -> b.file = d.rig.bus.file) :
    Showing S (log ++ es) (d.withBus b) := by
  refine ⟨hd.1, ?_⟩
  intro hclean s hs
  apply (hd.2 hclean.left s hs).of_registers
  · intro r _
    show b.file.get r = _
    rw [hfile hclean]
  · rfl

/-- Both axes are shown as they were written. -/
theorem contract_setOrientation (o : Orientation)
    (hT : forall s, T s ->
      s = .horizontalFlip o.mirror ∨ s = .verticalFlip o.flip ∨
        (S s ∧ s.kind ≠ .horizontalFlip ∧ s.kind ≠ .verticalFlip)) :
    Action.Contract (setOrientation o.code) (Showing S)
      (fun _ => Showing T) (fun _ => Action.unclean) := by
  rw [setOrientation_code]
  apply Action.Contract.bind
    (M := fun _ log d => d.mode.isLinear = true ∧
      (Clean log ->
        d.rig.bus.file.get Register.mirror = o.mirror.toUInt8 ∧
        d.rig.bus.file.get Register.flip = o.flip.toUInt8 ∧
        forall s, S s -> s.kind ≠ .horizontalFlip -> s.kind ≠ .verticalFlip ->
          d.Shows s))
  · apply contract_writeRegisters
    intro log es d b hd hfile
    refine ⟨hd.1, ?_⟩
    intro hclean
    refine ⟨?_, ?_, ?_⟩
    · show b.file.get Register.mirror = _
      rw [hfile hclean]
      rfl
    · show b.file.get Register.flip = _
      rw [hfile hclean]
      rfl
    · intro s hs hmirror hflip
      apply (hd.2 hclean.left s hs).of_registers
      · intro r hr
        show b.file.get r = _
        rw [hfile hclean]
        apply RegisterFile.get_load_of_not_mem
        rw [Register.orientationWrites_registers, List.mem_append, not_or]
        exact ⟨Control.Kind.registers_disjoint hflip hr,
          Control.Kind.registers_disjoint hmirror hr⟩
      · rfl
  intro _
  apply Action.Contract.update
  intro log d hd
  refine ⟨hd.1, ?_⟩
  intro hclean s hs
  rcases hd.2 hclean with ⟨hmirror, hflip, hothers⟩
  rcases hT s hs with rfl | rfl | ⟨hs, hkind, hkind'⟩
  · exact ⟨hmirror, rfl⟩
  · exact ⟨hflip, rfl⟩
  · have hshown := hothers s hs hkind hkind'
    cases s with
    | horizontalFlip on => exact (hkind rfl).elim
    | verticalFlip on => exact (hkind' rfl).elim
    | exposure lines => exact hshown
    | analogGain gain => exact hshown
    | _ => trivial

/-- One axis is changed, and the other written back as the sensor had it. -/
theorem contract_turn (f : Orientation -> Orientation)
    (hT : forall o : Orientation,
      (forall on, S (.horizontalFlip on) -> o.mirror = on) ->
      (forall on, S (.verticalFlip on) -> o.flip = on) ->
      forall s, T s ->
        s = .horizontalFlip (f o).mirror ∨ s = .verticalFlip (f o).flip ∨
          (S s ∧ s.kind ≠ .horizontalFlip ∧ s.kind ≠ .verticalFlip)) :
    Action.Contract (readOrientation >>= fun o => setOrientation (f o).code)
      (Showing S) (fun _ => Showing T) (fun _ => Action.unclean) := by
  apply Action.Contract.bind (contract_readOrientation fun _ _ _ _ hd => hd.read)
  intro o log d hd
  by_cases hknown : Clean log
  · have hheld := hd.2 hknown
    have hshown := hd.1.2 hknown
    apply contract_setOrientation (f o) (hT o ?_ ?_) log d hd.1
    · intro on hon
      rw [hheld]
      exact (hshown _ hon).heldMirror
    · intro on hon
      rw [hheld]
      exact (hshown _ hon).heldFlip
  · have hwrite : Action.Contract (setOrientation (f o).code) (Showing S)
        (fun _ => Showing fun _ => False) (fun _ => Action.unclean) :=
      contract_setOrientation (f o) fun _ hfalse => hfalse.elim
    cases hres : ((setOrientation (f o).code).run d).result with
    | ok _ =>
        refine ⟨(hwrite.result hd.1 hres).1, ?_⟩
        intro hclean
        exact (hknown hclean.left).elim
    | error e => exact hwrite.failure hd.1 hres

theorem Showing.pushed_unheld {log : List Event} {d : Device} {c : Control}
    (hd : Showing S log d) (hc : forall d : Device, d.Shows c) :
    Showing (pushed S c) log d := by
  refine ⟨hd.1, ?_⟩
  intro hclean s hs
  rcases hs with rfl | ⟨hs, -⟩
  · exact hc d
  · exact hd.2 hclean s hs

/-- A control that is pushed is shown, and so is every other that was. -/
theorem contract_push (c : Control) :
    Action.Contract (push c) (Showing S) (fun _ => Showing (pushed S c))
      (fun _ => Action.unclean) := by
  cases c with
  | exposure lines =>
      exact contract_pushWrites (Register.exposureWrites_registers lines)
        fun _ _ => shows_exposure
  | analogGain gain =>
      exact contract_pushWrites (Register.gainWrites_registers (Gain.encode gain))
        fun _ _ => shows_analogGain
  | horizontalFlip on =>
      apply contract_turn
      intro o _ hflip s hs
      rcases hs with rfl | ⟨hs, hkind⟩
      · exact Or.inl rfl
      · cases s with
        | verticalFlip on =>
            rw [← hflip on hs]
            exact Or.inr (Or.inl rfl)
        | horizontalFlip on => exact (hkind rfl).elim
        | _ => exact Or.inr (Or.inr ⟨hs, hkind, (fun h => nomatch h)⟩)
  | verticalFlip on =>
      apply contract_turn
      intro o hmirror _ s hs
      rcases hs with rfl | ⟨hs, hkind⟩
      · exact Or.inr (Or.inl rfl)
      · cases s with
        | horizontalFlip on =>
            rw [← hmirror on hs]
            exact Or.inl rfl
        | verticalFlip on => exact (hkind rfl).elim
        | _ => exact Or.inr (Or.inr ⟨hs, (fun h => nomatch h), hkind⟩)
  | horizontalBlank pixels =>
      exact Action.Contract.pure fun _ _ hd => hd.pushed_unheld (fun _ => trivial)
  | testPattern pattern =>
      exact Action.Contract.pure fun _ _ hd => hd.pushed_unheld (fun _ => trivial)
  | verticalBlank lines =>
      apply Action.Contract.update
      intro log d hd
      have hpushed := hd.pushed_unheld (c := .verticalBlank lines) fun _ => trivial
      refine ⟨hpushed.1, ?_⟩
      intro hclean s hs
      exact (hpushed.2 hclean s hs).of_registers (fun _ _ => rfl) rfl

/-- Controls of different kinds are all shown once they were pushed in turn. -/
theorem contract_pushAll (controls : List Control)
    (hdistinct : (controls.map Control.kind).Nodup) :
    Action.Contract (pushAll controls) (Showing S)
      (fun _ => Showing fun s =>
        s ∈ controls ∨ (S s ∧ s.kind ∉ controls.map Control.kind))
      (fun _ => Action.unclean) := by
  induction controls generalizing S with
  | nil =>
      apply Action.Contract.pure
      intro log d hd
      apply hd.mono
      intro s hs
      rcases hs with hs | hs
      · cases hs
      · exact hs.1
  | cons c rest ih =>
      rw [List.map_cons, List.nodup_cons] at hdistinct
      apply Action.Contract.bind (contract_push c)
      intro _
      apply (ih hdistinct.2).post
      intro _ log d hd
      apply hd.mono
      intro s hs
      rcases hs with hs | ⟨hs, hkind⟩
      · rcases List.mem_cons.mp hs with rfl | hs
        · exact Or.inr ⟨Or.inl rfl, hdistinct.1⟩
        · exact Or.inl hs
      · rw [List.map_cons, List.mem_cons, not_or] at hkind
        exact Or.inr ⟨Or.inr ⟨hs, hkind.1⟩, hkind.2⟩

end Device
end ImageSensor
