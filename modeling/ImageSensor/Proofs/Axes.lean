import ImageSensor.Proofs.ControlRequest

/-!
# The axes of the readout

A turn is a request for one axis.  It reads both axes from the sensor, changes
one and writes both, whatever becomes of the first write.  So a turn that fails
may have changed one axis of the sensor: it is refused as a whole, but what it
has written stays.
-/

namespace ImageSensor

/-!
# Axes
-/

/-- A direction in which the readout can be reversed. -/
inductive Axis where
  | horizontal
  | vertical
deriving DecidableEq

namespace Axis

def other : Axis -> Axis
  | .horizontal => .vertical
  | .vertical => .horizontal

/-- The register that holds the axis in its lowest bit. -/
def register : Axis -> UInt16
  | .horizontal => Register.mirror
  | .vertical => Register.flip

/-- Both axes, in the order in which they are written. -/
def both : List Axis :=
  [.vertical, .horizontal]

theorem mem_both (axis : Axis) : axis ∈ both := by
  cases axis <;> decide

theorem eq_or_eq_other (axis axis' : Axis) : axis' = axis ∨ axis' = axis.other := by
  cases axis <;> cases axis' <;> simp [other]

theorem other_ne (axis : Axis) : axis.other ≠ axis := by
  cases axis <;> decide

end Axis

/-- A request for one axis. -/
structure Turn where
  axis : Axis
  on : Bool
deriving DecidableEq

def Turn.request : Turn -> Control
  | ⟨.horizontal, on⟩ => .horizontalFlip on
  | ⟨.vertical, on⟩ => .verticalFlip on

namespace Orientation

/-- Whether the readout is reversed along an axis. -/
def along (o : Orientation) : Axis -> Bool
  | .horizontal => o.mirror
  | .vertical => o.flip

def turned (o : Orientation) : Turn -> Orientation
  | ⟨.horizontal, on⟩ => { o with mirror := on }
  | ⟨.vertical, on⟩ => { o with flip := on }

theorem ext_along {o o' : Orientation} (h : forall axis, o.along axis = o'.along axis) :
    o = o' :=
  Orientation.ext (h .horizontal) (h .vertical)

theorem along_turned (o : Orientation) (t : Turn) (axis : Axis) :
    (o.turned t).along axis = if axis = t.axis then t.on else o.along axis := by
  rcases t with ⟨turned, on⟩
  cases turned <;> cases axis <;> rfl

end Orientation

theorem RegisterFile.along_orientation (f : RegisterFile) (axis : Axis) :
    f.orientation.along axis = (f.get axis.register &&& 1 != 0) := by
  cases axis <;> rfl

namespace Axis

/-- Both writes passed. -/
def all (passed : Axis -> Bool) : Bool :=
  both.all passed

theorem all_eq_true {passed : Axis -> Bool} :
    all passed = true <-> forall axis, passed axis = true := by
  rw [all, List.all_eq_true]
  exact ⟨fun h axis => h axis axis.mem_both, fun h axis _ => h axis⟩

/-- The writes of an orientation that passed. -/
def writes (o : Orientation) (passed : Axis -> Bool) : List (UInt16 × UInt8) :=
  (both.filter passed).map fun axis => (axis.register, (o.along axis).toUInt8)

theorem writes_of_all (o : Orientation) {passed : Axis -> Bool} (h : all passed = true) :
    writes o passed = Register.orientationWrites o := by
  rw [all_eq_true] at h
  unfold writes
  rw [List.filter_eq_self.mpr fun axis _ => h axis]
  rfl

theorem register_mem_writes {o : Orientation} {passed : Axis -> Bool} {axis : Axis} :
    axis.register ∈ (writes o passed).map Prod.fst <-> passed axis = true := by
  unfold writes both
  cases hflip : passed .vertical <;> cases hmirror : passed .horizontal <;> cases axis <;>
    simp [hflip, hmirror, register, Register.flip, Register.mirror]

theorem get_load_writes (f : RegisterFile) (o : Orientation) (passed : Axis -> Bool)
    (axis : Axis) :
    (f.load (writes o passed)).get axis.register =
      if passed axis then (o.along axis).toUInt8 else f.get axis.register := by
  unfold writes both
  cases hflip : passed .vertical <;> cases hmirror : passed .horizontal <;> cases axis <;>
    simp only [List.filter_cons, List.filter_nil, hflip, hmirror] <;> rfl

end Axis

/-!
# What the log says was written
-/

/-- The byte that a single write put into a register. -/
def Event.stored? : Event -> Option (UInt16 × UInt8)
  | .write _ register [value] true => some (register, value)
  | _ => none

def written (log : List Event) : List (UInt16 × UInt8) :=
  log.filterMap Event.stored?

theorem written_append (log es : List Event) : written (log ++ es) = written log ++ written es :=
  List.filterMap_append

namespace Bus

/-- The registers changed as the log says, and nothing else of the bus did. -/
def Recorded (b : Bus) (es : List Event) (b' : Bus) : Prop :=
  exists n, b' = { b with attempts := n, file := b.file.load (written es) }

theorem composes_recorded : Action.Composes Recorded where
  refl := fun b => ⟨b.attempts, rfl⟩
  trans := by
    rintro b _ _ es fs ⟨n, rfl⟩ ⟨n', rfl⟩
    refine ⟨n', ?_⟩
    rw [written_append, RegisterFile.load_append]

theorem recorded_writeByte (register : UInt16) (value : UInt8) :
    Action.Obeys Recorded (writeByte register value) := by
  intro b
  cases hfails : b.failsNext .write register with
  | true =>
      rw [run_writeByte_of_failure hfails]
      exact ⟨⟨_, rfl⟩, fun _ hover => nomatch hover⟩
  | false =>
      rw [run_writeByte hfails]
      exact ⟨⟨_, rfl⟩, fun _ hover => nomatch hover⟩

theorem recorded_writeEach (writes : List (UInt16 × UInt8)) :
    Action.Obeys Recorded (writeEach writes) := by
  induction writes with
  | nil => exact composes_recorded.pure ()
  | cons head rest ih => exact composes_recorded.both (recorded_writeByte head.1 head.2) ih

/-- Each axis is written by one attempt, which passes or not. -/
theorem exists_passed (b : Bus) (o : Orientation) :
    exists passed : Axis -> Bool,
      ((writeEach (Register.orientationWrites o)).run b).events =
        Axis.both.map fun axis =>
          .write b.device axis.register [(o.along axis).toUInt8] (passed axis) := by
  rcases (attempts_writeEach (Register.orientationWrites o) b).events with
    ⟨answers, hlength, hes⟩
  rcases answers with _ | ⟨flipped, _ | ⟨mirrored, _ | _⟩⟩
  case cons.cons.nil => exact ⟨fun | .vertical => flipped | .horizontal => mirrored, hes⟩
  all_goals cases hlength

end Bus

theorem written_passed (device : UInt8) (o : Orientation) (passed : Axis -> Bool) :
    written (Axis.both.map fun axis =>
      .write device axis.register [(o.along axis).toUInt8] (passed axis)) =
        Axis.writes o passed := by
  unfold Axis.writes Axis.both written
  cases hflip : passed .vertical <;> cases hmirror : passed .horizontal <;>
    simp only [List.map_cons, List.map_nil, List.filter_cons, List.filter_nil, hflip, hmirror] <;>
    rfl

theorem clean_passed (device : UInt8) (o : Orientation) (passed : Axis -> Bool) :
    Clean (Axis.both.map fun axis =>
      .write device axis.register [(o.along axis).toUInt8] (passed axis)) <->
        Axis.all passed = true := by
  simp [Axis.both, Axis.all, Event.isFailure]

namespace Device

variable {d : Device} {t : Turn}

/-!
# Reading and writing both axes
-/

theorem run_read {register : UInt16} (h : d.rig.bus.failsNext .read register = false) :
    (onBus (Bus.readByte register)).run d =
      ⟨.ok (d.rig.bus.file.get register),
        d.withBus { d.rig.bus with attempts := d.rig.bus.attempts + 1 },
        [.read d.rig.bus.device register [d.rig.bus.file.get register]]⟩ := by
  rw [run_onBus, Bus.run_readByte h]

theorem run_read_of_failure {register : UInt16}
    (h : d.rig.bus.failsNext .read register = true) :
    (onBus (Bus.readByte register)).run d =
      ⟨.error (.reported (.transfer .read register)),
        d.withBus { d.rig.bus with attempts := d.rig.bus.attempts + 1 },
        [.readFailure d.rig.bus.device register 1]⟩ := by
  rw [run_onBus, Bus.run_readByte_of_failure h]

/-- Both axes are read, or the first read that fails is reported. -/
theorem run_readOrientation_cases (d : Device) :
    exists n es, written es = [] ∧
      ((Clean es ∧ readOrientation.run d =
          ⟨.ok d.rig.bus.file.orientation, d.withBus { d.rig.bus with attempts := n }, es⟩) ∨
        (¬ Clean es ∧ exists e, readOrientation.run d =
          ⟨.error (.reported e), d.withBus { d.rig.bus with attempts := n }, es⟩)) := by
  let next := d.withBus { d.rig.bus with attempts := d.rig.bus.attempts + 1 }
  unfold readOrientation
  cases hmirror : d.rig.bus.failsNext .read Register.mirror with
  | true =>
      rw [Action.run_bind_error (run_read_of_failure hmirror)]
      exact ⟨_, _, rfl, Or.inr ⟨by simp [Event.isFailure], _, rfl⟩⟩
  | false =>
      rw [Action.run_bind_ok (run_read hmirror)]
      cases hflip : next.rig.bus.failsNext .read Register.flip with
      | true =>
          rw [Action.run_bind_error (run_read_of_failure hflip)]
          exact ⟨_, _, rfl, Or.inr ⟨by simp [Event.isFailure], _, rfl⟩⟩
      | false =>
          rw [Action.run_bind_ok (run_read hflip)]
          exact ⟨_, _, rfl, Or.inl ⟨by simp [Event.isFailure], rfl⟩⟩

/-- An orientation was put into the sensor as far as its writes passed. -/
structure Steered (d : Device) (held : Orientation) (passed : Axis -> Bool)
    (o : Outcome Device Unit) : Prop where
  written : written o.events = Axis.writes held passed
  clean : Clean o.events <-> Axis.all passed = true
  result : o.result = .ok () <-> Axis.all passed = true
  state : exists n, o.state =
    { d with
      session :=
        { d.session with
          orientation := if Axis.all passed then held else d.session.orientation }
      rig :=
        { d.rig with
          bus :=
            { d.rig.bus with
              attempts := n
              file := d.rig.bus.file.load (Axis.writes held passed) } } }

section

variable {held : Orientation} {passed : Axis -> Bool} {o : Outcome Device Unit}

theorem Steered.get (h : Steered d held passed o) (axis : Axis) :
    o.state.rig.bus.file.get axis.register =
      if passed axis then (held.along axis).toUInt8 else d.rig.bus.file.get axis.register := by
  rcases h.state with ⟨n, hstate⟩
  rw [hstate]
  exact Axis.get_load_writes d.rig.bus.file held passed axis

theorem Steered.controls (h : Steered d held passed o) : o.state.controls = d.controls := by
  rcases h.state with ⟨n, hstate⟩
  rw [hstate]

theorem Steered.boot (h : Steered d held passed o) :
    o.state.session.fastBoot = d.session.fastBoot := by
  rcases h.state with ⟨n, hstate⟩
  rw [hstate]

theorem Steered.after {n : Nat} {es : List Event}
    (h : Steered (d.withBus { d.rig.bus with attempts := n }) held passed o)
    (hes : ImageSensor.written es = []) (hclean : Clean es) :
    Steered d held passed (o.after es) := by
  refine ⟨?_, ?_, h.result, h.state⟩
  · rw [Outcome.events_after, written_append, hes]
    exact h.written
  · rw [Outcome.events_after, clean_append]
    exact ⟨fun hboth => h.clean.mp hboth.2, fun hall => ⟨hclean, h.clean.mpr hall⟩⟩

end

theorem exists_steered_setOrientation (d : Device) (held : Orientation) :
    exists passed, Steered d held passed ((setOrientation held.code).run d) := by
  rcases Bus.exists_passed d.rig.bus held with ⟨passed, hes⟩
  rcases (Bus.recorded_writeEach (Register.orientationWrites held) d.rig.bus).1 with ⟨n, hbus⟩
  have hanswer := (Bus.attempts_writeEach (Register.orientationWrites held) d.rig.bus).answer
  have hwritten := written_passed d.rig.bus.device held passed
  have hclean := clean_passed d.rig.bus.device held passed
  have honBus := run_onBus (Bus.writeEach (Register.orientationWrites held)) d
  rw [← hes] at hwritten hclean
  rw [hbus, hwritten, hanswer] at honBus
  refine ⟨passed, ?_⟩
  rw [setOrientation_code]
  by_cases hall : Axis.all passed = true
  · rw [verdict_of_clean (hclean.mpr hall)] at honBus
    rw [Action.run_bind_ok honBus, run_changeSession]
    refine ⟨?_, ?_, ⟨fun _ => hall, fun _ => rfl⟩, n, ?_⟩
    · rw [Outcome.events_after, List.append_nil]
      exact hwritten
    · rw [Outcome.events_after, List.append_nil]
      exact hclean
    · rw [if_pos hall]
      rfl
  · have hfailed : firstFailure? _ ≠ none :=
      fun hnone => hall (hclean.mp (firstFailure?_eq_none_iff.mp hnone))
    rcases Option.ne_none_iff_exists'.mp hfailed with ⟨error, hfailed⟩
    rw [verdict, hfailed] at honBus
    rw [Action.run_bind_error honBus]
    refine ⟨hwritten, hclean, ⟨?_, fun h => (hall h).elim⟩, n, ?_⟩
    · intro hok
      cases hok
    · rw [if_neg hall]
      rfl

/-!
# Turns
-/

theorem push_turn (t : Turn) :
    push t.request = (readOrientation >>= fun o => setOrientation (o.turned t).code) := by
  rcases t with ⟨axis, on⟩
  cases axis <;> rfl

/-- A turn whose reads fail writes nothing. -/
theorem exists_steered_push (d : Device) (t : Turn) :
    exists passed,
      Steered d (d.rig.bus.file.orientation.turned t) passed ((push t.request).run d) := by
  rw [push_turn]
  rcases run_readOrientation_cases d with ⟨n, es, hes, ⟨hclean, hread⟩ | ⟨hclean, e, hread⟩⟩
  · rw [Action.run_bind_ok hread]
    rcases exists_steered_setOrientation (d.withBus { d.rig.bus with attempts := n })
      (d.rig.bus.file.orientation.turned t) with ⟨passed, hwrite⟩
    exact ⟨passed, hwrite.after hes hclean⟩
  · rw [Action.run_bind_error hread]
    refine ⟨fun _ => false, hes, ?_, ?_, n, rfl⟩
    · exact ⟨fun h => (hclean h).elim, fun hall => nomatch hall⟩
    · exact ⟨(fun hok => nomatch hok), fun hall => nomatch hall⟩

end Device

namespace ControlSet

def turned (c : ControlSet) (t : Turn) : ControlSet :=
  { c with orientation := c.orientation.turned t }

theorem accepts_turn (c : ControlSet) (t : Turn) : c.accepts t.request = true := by
  rcases t with ⟨axis, on⟩
  cases axis <;> rfl

theorem store_turn (c : ControlSet) (m : Mode) (t : Turn) :
    c.store t.request m = .ok (c.turned t, false) := by
  rcases t with ⟨axis, on⟩
  cases axis <;> rfl

end ControlSet

namespace Device

variable {d : Device}

/--
Under a user a turn is put into the sensor.  The control is turned only if both
axes were written.
-/
theorem exists_steered_applyControl (t : Turn) (hused : 0 < d.rig.usage.count.toNat)
    (hroom : d.Roomy) :
    exists passed,
      Steered
        { d with controls := if Axis.all passed then d.controls.turned t else d.controls }
        (d.rig.bus.file.orientation.turned t) passed ((applyControl t.request).run d) := by
  rcases run_applyControl_of_used (d.controls.accepts_turn t)
    (d.controls.store_turn d.mode t) hused hroom with ⟨usage, hrun⟩
  rcases exists_steered_push (d.withStored (d.controls.turned t, false) usage) t with
    ⟨passed, hpushed⟩
  change Steered _ _ _ ((pushStored t.request (d.controls.turned t, false)).run _) at hpushed
  generalize (pushStored t.request (d.controls.turned t, false)).run
    (d.withStored (d.controls.turned t, false) usage) = pushed at hrun hpushed
  refine ⟨passed, ?_⟩
  rw [hrun]
  refine ⟨?_, ?_, hpushed.result, ?_⟩
  · rw [← List.singleton_append, written_append, written_append, hpushed.written]
    exact List.append_nil _
  · rw [clean_cons, clean_append, hpushed.clean]
    simp [Event.isFailure]
  · rcases hpushed.state with ⟨n, hstate⟩
    refine ⟨n, ?_⟩
    have hcontrols : d.controls.orElse (d.controls.turned t) pushed.result =
        if Axis.all passed then d.controls.turned t else d.controls := by
      cases hres : pushed.result with
      | ok _ => rw [if_pos (hpushed.result.mp hres), ControlSet.orElse]
      | error e =>
          have hsome : Axis.all passed ≠ true := by
            intro hall
            cases hres.symm.trans (hpushed.result.mpr hall)
          rw [if_neg hsome, ControlSet.orElse]
    rw [hstate, hcontrols]
    rfl

end Device
end ImageSensor
