import ImageSensor.Device.Stream
import ImageSensor.Proofs.Contract

/-!
# Transfers that succeed

A log is clean when no transaction of it failed.  As long as the log is clean
an action on the bus does what it should: a write is in the register file, and
a read returns what is there.  An action that fails has failed a transaction.
The other way round, what a stream is started with is strict: where one of its
transactions fails, there is no stream.
-/

namespace ImageSensor

/-- A transaction that failed. -/
def Event.isFailure : Event -> Bool
  | .write _ _ _ ok => !ok
  | .readFailure .. => true
  | _ => false

def Clean (log : List Event) : Prop :=
  forall e, e ∈ log -> e.isFailure = false

instance (log : List Event) : Decidable (Clean log) :=
  inferInstanceAs (Decidable (forall e, e ∈ log -> e.isFailure = false))

@[simp]
theorem clean_nil : Clean [] :=
  fun _ he => nomatch he

@[simp]
theorem clean_cons {e : Event} {log : List Event} :
    Clean (e :: log) <-> e.isFailure = false ∧ Clean log :=
  List.forall_mem_cons

@[simp]
theorem clean_append {log es : List Event} :
    Clean (log ++ es) <-> Clean log ∧ Clean es :=
  List.forall_mem_append

theorem Clean.left {log es : List Event} (h : Clean (log ++ es)) : Clean log :=
  (clean_append.mp h).1

theorem Clean.right {log es : List Event} (h : Clean (log ++ es)) : Clean es :=
  (clean_append.mp h).2

namespace Action

variable {σ τ α : Type}

/-- A condition that holds unless a transaction failed. -/
def whileClean (P : σ -> Prop) : Assertion σ :=
  fun log s => Clean log -> P s

/-- Some transaction failed. -/
def unclean : Assertion σ :=
  fun log _ => ¬ Clean log

theorem contract_unclean (x : Action σ α) :
    Contract x unclean (fun _ => unclean) (fun _ => unclean) :=
  Contract.of_always fun _ _ hs hclean => hs hclean.left

/-- Where an error needs a failed transaction, what a clean log needs is no matter. -/
theorem reported_of_unclean {I J : Assertion σ}
    (h : forall log s, I log s -> ¬ Clean log -> J log s) {f : Failure}
    {log : List Event} {s : σ} (hs : reported I f log s ∧ unclean log s) :
    reported J f log s := by
  cases f with
  | reported e => exact h log s hs.1 hs.2
  | overflow kind => exact hs.1

/-- The action has no result when one of its transactions failed. -/
abbrev Strict (x : Action σ α) : Prop :=
  Contract x (fun log _ => Clean log) (fun _ log _ => Clean log) (fun _ _ _ => True)

theorem Strict.of_events {x : Action σ α} (h : forall s, Clean (x.run s).events) :
    Strict x := by
  intro log s hlog
  have hend := clean_append.mpr ⟨hlog, h s⟩
  cases (x.run s).result with
  | ok a => exact hend
  | error e => trivial

theorem Strict.within {x : Action τ α} (hx : Strict x) (p : Part σ τ) :
    Strict (within p x) :=
  fun log s hlog => hx log (p.get s) hlog

theorem contract_true (x : Action σ α) {P : Assertion σ} :
    Contract x P (fun _ _ _ => True) (fun _ _ _ => True) := by
  intro log s _
  cases (x.run s).result <;> trivial

end Action

/-!
# Registers
-/

/-- Bytes that were taken from a word stand for its low bits. -/
theorem Register.toNat_ofBytes_toBytes (width : Nat) (value : UInt32) :
    (ofBytes (toBytes width value)).toNat = value.toNat % (1 <<< (8 * width)) := by
  induction width generalizing value with
  | zero => simp [toBytes, Nat.mod_one]
  | succ width ih =>
      have hshift : 1 <<< (8 * (width + 1)) = 256 * (1 <<< (8 * width)) := by
        rw [Nat.mul_succ, Nat.shiftLeft_add, Nat.shiftLeft_eq _ 8, Nat.mul_comm]
      have hsplit : value.toNat % (1 <<< (8 * (width + 1))) =
          value.toNat % 256 + 256 * (value.toNat / 256 % (1 <<< (8 * width))) := by
        rw [hshift, Nat.mod_mul]
      have hle := Nat.mod_le value.toNat (1 <<< (8 * (width + 1)))
      have hlt := value.toNat_lt
      rw [toBytes, ofBytes_append_singleton, UInt32.toNat_add, UInt32.toNat_mul, ih,
        UInt32.toNat_div, UInt8.toNat_toUInt32, UInt32.toNat_toUInt8, hsplit]
      rw [hsplit] at hle
      simp only [UInt32.reduceToNat, Nat.reducePow] at *
      omega

theorem Register.ofBytes_toBytes {width : Nat} {value : UInt32}
    (h : value.toNat < 1 <<< (8 * width)) : ofBytes (toBytes width value) = value := by
  apply UInt32.toNat_inj.mp
  rw [toNat_ofBytes_toBytes, Nat.mod_eq_of_lt h]

namespace RegisterFile

theorem stored_set_of_ne (f : RegisterFile) {a b : UInt16} (v : UInt8) (hne : b ≠ a) :
    (f.set a v).stored b = f.stored b :=
  if_neg hne

theorem stored_load_of_not_mem {f : RegisterFile} {writes : List (UInt16 × UInt8)}
    {register : UInt16} (h : register ∉ writes.map Prod.fst) :
    (f.load writes).stored register = f.stored register := by
  induction writes generalizing f with
  | nil => rfl
  | cons head rest ih =>
      rw [List.map_cons, List.mem_cons, not_or] at h
      unfold load
      rw [ih h.2, stored_set_of_ne f head.2 h.1]

theorem get_load_of_not_mem {f : RegisterFile} {writes : List (UInt16 × UInt8)}
    {register : UInt16} (h : register ∉ writes.map Prod.fst) :
    (f.load writes).get register = f.get register :=
  congrArg (Option.getD · 0) (stored_load_of_not_mem h)

end RegisterFile

namespace Bus

theorem contract_writeByte (register : UInt16) (value : UInt8) (f : RegisterFile) :
    Action.Contract (writeByte register value)
      (Action.whileClean fun b => b.file = f)
      (fun _ => Action.whileClean fun b => b.file = f.set register value)
      (fun _ => Action.unclean) := by
  intro log b hb
  cases hfails : b.failsNext .write register with
  | true =>
      rw [run_writeByte_of_failure hfails]
      intro hclean
      cases (clean_cons.mp hclean.right).1
  | false =>
      rw [run_writeByte hfails]
      intro hclean
      exact congrArg (RegisterFile.set · register value) (hb hclean.left)

theorem contract_readByte (register : UInt16) (f : RegisterFile) :
    Action.Contract (readByte register) (Action.whileClean fun b => b.file = f)
      (fun value => Action.whileClean fun b => b.file = f ∧ value = f.get register)
      (fun _ => Action.unclean) := by
  intro log b hb
  cases hfails : b.failsNext .read register with
  | true =>
      rw [run_readByte_of_failure hfails]
      intro hclean
      cases (clean_cons.mp hclean.right).1
  | false =>
      rw [run_readByte hfails]
      intro hclean
      have hfile := hb hclean.left
      exact ⟨hfile, congrArg (RegisterFile.get · register) hfile⟩

theorem contract_writeEach (writes : List (UInt16 × UInt8)) (f : RegisterFile) :
    Action.Contract (writeEach writes) (Action.whileClean fun b => b.file = f)
      (fun _ => Action.whileClean fun b => b.file = f.load writes)
      (fun _ => Action.unclean) := by
  induction writes generalizing f with
  | nil => exact Action.Contract.pure fun _ _ hb => hb
  | cons head rest ih =>
      rcases head with ⟨register, value⟩
      apply Action.Contract.both (contract_writeByte register value f)
      · exact ih (f.set register value)
      · intro _
        exact Action.contract_unclean _
      · intro _ _ _ hb
        exact hb

theorem strict_writeByte (register : UInt16) (value : UInt8) :
    Action.Strict (writeByte register value) := by
  intro log b hlog
  cases hfails : b.failsNext .write register with
  | true =>
      rw [run_writeByte_of_failure hfails]
      trivial
  | false =>
      rw [run_writeByte hfails]
      exact clean_append.mpr ⟨hlog, clean_cons.mpr ⟨rfl, clean_nil⟩⟩

theorem strict_readByte (register : UInt16) : Action.Strict (readByte register) := by
  intro log b hlog
  cases hfails : b.failsNext .read register with
  | true =>
      rw [run_readByte_of_failure hfails]
      trivial
  | false =>
      rw [run_readByte hfails]
      exact clean_append.mpr ⟨hlog, clean_cons.mpr ⟨rfl, clean_nil⟩⟩

theorem strict_writeEach (writes : List (UInt16 × UInt8)) :
    Action.Strict (writeEach writes) := by
  induction writes with
  | nil => exact Action.Contract.pure fun _ _ hlog => hlog
  | cons head rest ih =>
      apply Action.Contract.both (strict_writeByte head.1 head.2) ih
      · intro _
        exact Action.contract_true _
      · intro _ _ _ _
        trivial

end Bus

theorem Program.strict_replay (p : Program) : Action.Strict (replay p) := by
  induction p using replay.induct with
  | case1 => exact Action.Contract.pure fun _ _ hlog => hlog
  | case2 step rest hend =>
      rw [replay_cons_of_end hend]
      exact Action.Contract.pure fun _ _ hlog => hlog
  | case3 step rest hend hpause ih =>
      rw [replay_cons_of_pause hpause]
      apply Action.Contract.bind (Action.Strict.of_events _) fun _ => ih
      intro _
      exact clean_cons.mpr ⟨rfl, clean_nil⟩
  | case4 step rest hend hpause ih =>
      rw [replay_cons_of_write hend hpause]
      exact Action.Contract.bind (Bus.strict_writeByte _ _) fun _ => ih

/-!
# Starting a stream

Whatever a stream is started with has reached the sensor, or there is no stream.
-/

namespace Device

variable {α : Type}

theorem strict_onBus {x : Action Bus α} (hx : Action.Strict x) :
    Action.Strict (onBus x) :=
  (hx.within _).within _

theorem strict_changeSession (f : Session -> Session) :
    Action.Strict (changeSession f) :=
  Action.Strict.of_events fun _ => clean_nil

theorem strict_writeWhenLinear (writes : List (UInt16 × UInt8)) :
    Action.Strict (Action.inspect Device.mode >>= fun mode =>
      Action.when mode.isLinear (onBus (Bus.writeEach writes))) := by
  apply Action.Contract.bind (Action.Contract.look fun _ _ hlog => hlog)
  intro mode
  apply Action.Contract.when
  · intro _
    exact strict_onBus (Bus.strict_writeEach writes)
  · intro _ _ _ hlog
    exact hlog

theorem strict_turn (f : Orientation -> Orientation) :
    Action.Strict (readOrientation >>= fun o => setOrientation (f o).code) := by
  have hread : Action.Strict readOrientation := by
    apply Action.Contract.bind (strict_onBus (Bus.strict_readByte _))
    intro mirror
    apply Action.Contract.bind (strict_onBus (Bus.strict_readByte _))
    intro flip
    exact Action.Contract.pure fun _ _ hlog => hlog
  apply Action.Contract.bind hread
  intro o
  apply Action.Contract.bind (strict_onBus (Bus.strict_writeEach _))
  intro _
  exact strict_changeSession _

theorem strict_push (control : Control) : Action.Strict (push control) := by
  cases control with
  | exposure lines => exact strict_writeWhenLinear _
  | analogGain gain => exact strict_writeWhenLinear _
  | verticalBlank lines => exact Action.Strict.of_events fun _ => clean_nil
  | horizontalFlip on => exact strict_turn fun o => { o with mirror := on }
  | verticalFlip on => exact strict_turn fun o => { o with flip := on }
  | horizontalBlank pixels => exact Action.Contract.pure fun _ _ hlog => hlog
  | testPattern pattern => exact Action.Contract.pure fun _ _ hlog => hlog

theorem strict_pushAll (controls : List Control) :
    Action.Strict (pushAll controls) := by
  induction controls with
  | nil => exact Action.Contract.pure fun _ _ hlog => hlog
  | cons control rest ih => exact Action.Contract.bind (strict_push control) fun _ => ih

theorem strict_loadMode : Action.Strict loadMode := by
  apply Action.Contract.bind (Action.Contract.look fun _ _ hlog => hlog)
  intro program
  apply Action.Contract.bind (strict_onBus (Program.strict_replay program))
  intro _
  apply Action.Contract.bind (strict_changeSession _)
  intro _
  apply Action.Contract.bind (Action.Contract.look fun _ _ hlog => hlog)
  intro controls
  exact strict_pushAll controls

theorem strict_startStream : Action.Strict startStream := by
  apply Action.Contract.bind (Action.Contract.look fun _ _ hlog => hlog)
  intro session
  apply Action.Contract.bind (M := fun _ log _ => Clean log)
  · apply Action.Contract.when
    · intro _
      exact strict_loadMode
    · intro _ _ _ hlog
      exact hlog
  · intro _
    exact strict_onBus (Bus.strict_writeByte _ _)

end Device
end ImageSensor
