import ImageSensor.Proofs.Restraint
import ImageSensor.Proofs.RoundTrip
import ImageSensor.Proofs.Transcript

/-!
# A request for a control

What a single request for a control does, in closed form: refused at once, kept
for later, or put into the sensor under a user that is added and removed again.
The user is never the last one, so no power sequence runs; and where the sensor
cannot be written the device is as before, only that the bus was used.
-/

namespace ImageSensor

/-!
# Storing a control
-/

namespace ControlSet

variable {c c' : ControlSet} {m : Mode} {request : Control} {moved : Bool}

/-- What was accepted and stored is the value of the control. -/
theorem value_store (haccepts : c.accepts request = true)
    (hstore : c.store request m = .ok (c', moved)) : c'.value request.kind = request.value := by
  cases request with
  | horizontalBlank pixels => cases haccepts
  | verticalBlank lines =>
      rcases limitExposure_cases hstore with ⟨exposure, rfl, -⟩
      rfl
  | _ =>
      cases hstore
      rfl

/-- The controls after a try to put others into the sensor. -/
def orElse (before stored : ControlSet) : Except Failure Unit -> ControlSet
  | .ok _ => stored
  | .error _ => before

/-- Only a frame blanking moves the exposure. -/
theorem verticalBlank_of_moved (hstore : c.store request m = .ok (c', true)) :
    exists lines, request = .verticalBlank lines := by
  cases request with
  | verticalBlank lines => exact ⟨lines, rfl⟩
  | _ => cases hstore

end ControlSet

/-- A call to the board or a level on a line. -/
def Event.isBoardCall : Event -> Bool
  | .clockRate .. => true
  | .clockOn _ => true
  | .clockOff => true
  | .suppliesOn _ => true
  | .suppliesOff => true
  | .pins .. => true
  | .line .. => true
  | _ => false

theorem Event.isBoardCall_of_busActivity {e : Event} (h : e.isBusActivity = true) :
    e.isBoardCall = false := by
  cases e <;> first | rfl | cases h

/-!
# The registers of a plan
-/

def Transfer.register : Transfer -> UInt16
  | .write register _ => register
  | .read register _ => register

namespace Burst

variable {writes : List (UInt16 × UInt8)}

theorem register_of_mem_ofWrites {t : Transfer} (ht : t ∈ ofWrites writes) :
    t.register ∈ writes.map Prod.fst := by
  rcases List.mem_map.mp ht with ⟨w, hw, rfl⟩
  exact List.mem_map_of_mem hw

theorem exists_write_of_mem {register : UInt16} (h : register ∈ writes.map Prod.fst) :
    exists value, .write register value ∈ ofWrites writes := by
  rcases List.mem_map.mp h with ⟨w, hw, rfl⟩
  exact ⟨w.2, List.mem_map.mpr ⟨w, hw, rfl⟩⟩

end Burst

namespace RegisterFile

variable {f : RegisterFile} {control : Control}

theorem register_of_mem_plan {t : Transfer} (ht : t ∈ (f.plan control).flatten) :
    t.register ∈ control.registers := by
  have hturn : forall turn, t ∈ (f.turnPlan turn).flatten ->
      t.register ∈ [Register.mirror, Register.flip] := by
    intro turn ht
    simp only [turnPlan, List.flatten_cons, List.flatten_nil, List.append_nil, List.mem_append,
      List.mem_singleton] at ht
    rcases ht with rfl | rfl | ht
    · exact List.mem_cons_self
    · exact List.mem_cons_of_mem _ List.mem_cons_self
    · have hwritten := Burst.register_of_mem_ofWrites ht
      rw [Register.orientationWrites_registers] at hwritten
      exact List.mem_append.mpr (List.mem_append.mp hwritten).symm
  cases control with
  | exposure lines => exact Burst.register_of_mem_ofWrites (by simpa [plan] using ht)
  | analogGain gain => exact Burst.register_of_mem_ofWrites (by simpa [plan] using ht)
  | horizontalFlip on => exact hturn (fun o => { o with mirror := on }) ht
  | verticalFlip on => exact hturn (fun o => { o with flip := on }) ht
  | _ => cases ht

/-- Every register of a control is written by its plan. -/
theorem exists_write_of_mem_registers {register : UInt16} (h : register ∈ control.registers) :
    exists value, .write register value ∈ (f.plan control).flatten := by
  have hturn : forall turn, register ∈ [Register.mirror, Register.flip] ->
      exists value, .write register value ∈ (f.turnPlan turn).flatten := by
    intro turn h
    have hwritten : register ∈
        (Register.orientationWrites (turn f.orientation)).map Prod.fst := by
      rw [Register.orientationWrites_registers]
      exact List.mem_append.mpr (List.mem_append.mp h).symm
    rcases Burst.exists_write_of_mem hwritten with ⟨value, hvalue⟩
    exact ⟨value, by simp [turnPlan, hvalue]⟩
  cases control with
  | exposure lines =>
      have hwritten : register ∈ (Register.exposureWrites lines).map Prod.fst := h
      rcases Burst.exists_write_of_mem hwritten with ⟨value, hvalue⟩
      exact ⟨value, by simpa [plan] using hvalue⟩
  | analogGain gain =>
      have hwritten : register ∈ (Register.gainWrites (Gain.encode gain)).map Prod.fst := h
      rcases Burst.exists_write_of_mem hwritten with ⟨value, hvalue⟩
      exact ⟨value, by simpa [plan] using hvalue⟩
  | horizontalFlip on => exact hturn (fun o => { o with mirror := on }) h
  | verticalFlip on => exact hturn (fun o => { o with flip := on }) h
  | _ => cases h

/-- The plan of a control that was stored, with the exposure if that had to move. -/
def storedPlan (f : RegisterFile) (request : Control) : ControlSet × Bool -> List Burst
  | (_, false) => f.plan request
  | (controls, true) => f.plan request ++ f.plan (.exposure controls.exposure.value)

section

variable {c : ControlSet} {m : Mode} {request : Control} {stored : ControlSet × Bool}

theorem register_of_mem_storedPlan (hstore : c.store request m = .ok stored) {t : Transfer}
    (ht : t ∈ (f.storedPlan request stored).flatten) :
    t.register ∈ c.registers m request := by
  rcases stored with ⟨controls, moved⟩
  cases moved with
  | false => exact c.subset_registers m request (register_of_mem_plan ht)
  | true =>
      rw [storedPlan, List.flatten_append, List.mem_append] at ht
      rcases ht with ht | ht
      · exact c.subset_registers m request (register_of_mem_plan ht)
      · exact ControlSet.exposure_subset_registers hstore (register_of_mem_plan ht)

theorem exists_write_of_mem_storedPlan (hstore : c.store request m = .ok stored)
    {register : UInt16} (h : register ∈ c.registers m request) :
    exists value, .write register value ∈ (f.storedPlan request stored).flatten := by
  rcases stored with ⟨controls, moved⟩
  cases moved with
  | false =>
      apply exists_write_of_mem_registers
      cases request with
      | verticalBlank lines =>
          simp only [ControlSet.registers, hstore] at h
          cases h
      | _ => exact h
  | true =>
      rcases ControlSet.verticalBlank_of_moved hstore with ⟨lines, rfl⟩
      simp only [ControlSet.registers, hstore] at h
      have hexposure : register ∈ (Control.exposure controls.exposure.value).registers := h
      exact exists_write_of_mem_registers (f := f) hexposure

end

end RegisterFile

namespace Device

variable {device : UInt8} {plan : List Burst} {f : RegisterFile} {c : ControlSet}
  {m : Mode} {request : Control} {stored : ControlSet × Bool}

/-!
# Putting a stored control into the sensor
-/

theorem contract_pushStored_onPlan (hstore : c.store request m = .ok stored) :
    Action.Contract (pushStored request stored) (OnPlan device plan f)
      (fun _ log _ => log.filter Event.isTransaction =
        completed device (plan ++ f.storedPlan request stored))
      (BreaksOff device (plan ++ f.storedPlan request stored)) := by
  rcases stored with ⟨controls, moved⟩
  cases moved with
  | false =>
      apply (contract_push_onPlan request).post
      intro _ _ _ hd
      exact hd.2.transactions
  | true =>
      rcases ControlSet.verticalBlank_of_moved hstore with ⟨lines, rfl⟩
      apply Action.Contract.both_of_ok (M := OnPlan device plan f)
      · exact Action.Contract.update fun _ _ hd => hd
      · apply (contract_push_onPlan (.exposure controls.exposure.value)).post
        intro _ _ _ hd
        exact hd.2.transactions

/-- The session is this one, and its frame length that of its mode. -/
def Rests (s : Session) : Action.Assertion Device :=
  fun _ d => d.session = s ∧ s.frameLength = s.entry.mode.frameLength

section

variable {s : Session}

theorem rests_onBus {α : Type} (x : Action Bus α) : Action.Keeps (Rests s) (onBus x) :=
  Action.Contract.of_always fun _ _ hd => hd

theorem rests_writeLinear (writes : List (UInt16 × UInt8)) :
    Action.Keeps (Rests s) (Action.inspect Device.mode >>= fun mode =>
      Action.when mode.isLinear (onBus (Bus.writeEach writes))) :=
  Action.Keeps.inspect fun _ => (rests_onBus _).when _

theorem contract_turn_rests (turn : Orientation -> Orientation) :
    Action.Contract (readOrientation >>= fun o => setOrientation (turn o).code) (Rests s)
      (fun _ _ _ => True) (fun _ => Rests s) := by
  have hread : Action.Keeps (Rests s) readOrientation := by
    apply (rests_onBus _).bind
    intro mirror
    apply (rests_onBus _).bind
    intro flip
    exact Action.Keeps.pure _
  apply Action.Contract.bind hread
  intro o
  apply Action.Contract.bind (rests_onBus _)
  intro _
  exact Action.Contract.update fun _ _ _ => trivial

/-- A control that cannot be put into the sensor leaves the session alone. -/
theorem contract_push_rests (control : Control) :
    Action.Contract (push control) (Rests s) (fun _ _ _ => True) (fun _ => Rests s) := by
  cases control with
  | exposure lines => exact (rests_writeLinear _).post fun _ _ _ _ => trivial
  | analogGain gain => exact (rests_writeLinear _).post fun _ _ _ _ => trivial
  | horizontalFlip on => exact contract_turn_rests fun o => { o with mirror := on }
  | verticalFlip on => exact contract_turn_rests fun o => { o with flip := on }
  | verticalBlank lines => exact Action.Contract.update fun _ _ _ => trivial
  | horizontalBlank pixels => exact Action.Contract.pure fun _ _ _ => trivial
  | testPattern pattern => exact Action.Contract.pure fun _ _ _ => trivial

theorem contract_pushStored_rests (hstore : c.store request m = .ok stored) :
    Action.Contract (pushStored request stored) (Rests s) (fun _ _ _ => True)
      (fun _ => Rests s) := by
  rcases stored with ⟨controls, moved⟩
  cases moved with
  | false => exact contract_push_rests request
  | true =>
      rcases ControlSet.verticalBlank_of_moved hstore with ⟨lines, rfl⟩
      apply Action.Contract.both_of_ok (M := Rests s) _ (contract_push_rests _)
      apply Action.Contract.update
      rintro log d ⟨rfl, hframe⟩
      refine ⟨?_, hframe⟩
      show { d.session with frameLength := d.session.entry.mode.frameLength } = d.session
      rw [← hframe]

end

/-!
# The run of a request
-/

section

variable {d : Device}

theorem run_applyControl_of_refused (hrefused : d.controls.accepts request = false) :
    (applyControl request).run d = ⟨.error (.reported .invalidArgument), d, []⟩ := by
  simp [applyControl, Action.run_bind, hrefused, Outcome.after]

/-- A control that is accepted is stored first. -/
theorem run_applyControl_of_accepted (haccepts : d.controls.accepts request = true)
    (hstore : d.controls.store request d.mode = .ok stored) :
    (applyControl request).run d =
      (onRig Rig.getIfInUse >>= fun inUse =>
        Action.when inUse (deliver d.controls request stored)).run
          { d with controls := stored.1 } := by
  simp [applyControl, Action.run_bind, haccepts, hstore, Outcome.after]

/-- Without a user the stored control waits. -/
theorem run_applyControl_of_idle (haccepts : d.controls.accepts request = true)
    (hstore : d.controls.store request d.mode = .ok stored)
    (hidle : d.rig.usage.count.toNat = 0) :
    (applyControl request).run d =
      ⟨.ok (), { d with controls := stored.1 },
        [.usage .getIfInUse (some false) d.rig.usage.count]⟩ := by
  rw [run_applyControl_of_accepted haccepts hstore]
  rcases Rig.run_getIfInUse_cases d.rig with ⟨hfull, -⟩ | ⟨-, hget⟩ | ⟨usage, hused, -⟩
  · rw [hidle] at hfull
    exact absurd hfull (by decide)
  · rw [Action.run_bind_of_ok (a := false) (by rw [run_onRig, hget]), run_onRig, hget]
    simp [Outcome.after]
  · exact absurd hidle (Nat.ne_of_gt hused)

/-- A user that is not the last one leaves the power as it is. -/
theorem run_release_of_others {n : Nat} (hn : 0 < n)
    (hcount : d.rig.usage.count.toNat = n + 1) :
    exists usage : UsageCount, usage.count.toNat = n ∧
      release.run d =
        ⟨.ok (), { d with rig := { d.rig with usage := usage } },
          [.usage .put (some false) usage.count]⟩ := by
  rcases Rig.run_put hcount with ⟨usage, husage, hput⟩
  have hmore : decide (n = 0) = false := decide_eq_false (Nat.ne_of_gt hn)
  rw [hmore] at hput
  refine ⟨usage, husage, ?_⟩
  unfold release
  rw [Action.run_bind_of_ok (a := false) (by rw [run_onRig, hput]), run_onRig, hput]
  simp [Outcome.after]

/-- The device with a control stored and a user added, as the control is put in. -/
def withStored (d : Device) (stored : ControlSet × Bool) (usage : UsageCount) : Device :=
  { d with controls := stored.1, rig := { d.rig with usage := usage } }

/-- What is put in by a further user is put in or taken back, and that user goes again. -/
theorem run_deliver_of_used (request : Control) (stored : ControlSet × Bool)
    {usage : UsageCount} (hused : 0 < d.rig.usage.count.toNat)
    (hcount : usage.count.toNat = d.rig.usage.count.toNat + 1) :
    let pushed := (pushStored request stored).run (d.withStored stored usage)
    (deliver d.controls request stored).run (d.withStored stored usage) =
      ⟨pushed.result,
        { pushed.state with
          controls := d.controls.orElse stored.1 pushed.result
          rig := { pushed.state.rig with usage := d.rig.usage } },
        pushed.events ++ [.usage .put (some false) d.rig.usage.count]⟩ := by
  rcases hpush : (pushStored request stored).run (d.withStored stored usage) with
    ⟨result, mid, es⟩
  have htuned := tuned_pushStored request stored (d.withStored stored usage)
  rw [hpush] at htuned
  rcases htuned with ⟨⟨⟨bus, programmed, frameLength, orientation, hmid⟩, -, -⟩, hresult⟩
  change mid = _ at hmid
  subst hmid
  rcases run_release_of_others (d := (d.withStored stored usage).tuned bus programmed
    frameLength orientation) hused hcount with ⟨left, hleft, hrelease⟩
  have hback : left = d.rig.usage := UsageCount.eq_of_toNat hleft
  subst hback
  have hensured := Action.run_ensuring hpush hresult hrelease
  cases result with
  | ok _ => exact Action.run_onError_of_ok hensured (changeControls d.controls)
  | error e =>
      cases e with
      | overflow kind => exact (hresult kind rfl).elim
      | reported e =>
          show _ = Outcome.mk _ _ (es ++ _)
          rw [← List.append_nil (es ++ _)]
          exact Action.run_onError_of_reported hensured rfl

/--
Under a user the control is put into the sensor by a further user, and what that
answers is the answer; the controls are restored if it is an error.
-/
theorem run_applyControl_of_used (haccepts : d.controls.accepts request = true)
    (hstore : d.controls.store request d.mode = .ok stored)
    (hused : 0 < d.rig.usage.count.toNat) (hroom : d.rig.usage.count.toNat + 1 < UInt32.size) :
    exists usage : UsageCount,
      let pushed := (pushStored request stored).run (d.withStored stored usage)
      (applyControl request).run d =
        ⟨pushed.result,
          { pushed.state with
            controls := d.controls.orElse stored.1 pushed.result
            rig := { pushed.state.rig with usage := d.rig.usage } },
          .usage .getIfInUse (some true) usage.count ::
            (pushed.events ++ [.usage .put (some false) d.rig.usage.count])⟩ := by
  rcases Rig.run_getIfInUse_cases d.rig with ⟨hfull, -⟩ | ⟨hidle, -⟩ | ⟨usage, -, hcount, hget⟩
  · exact absurd hroom (Nat.not_lt.mpr hfull)
  · exact absurd hidle (Nat.ne_of_gt hused)
  refine ⟨usage, ?_⟩
  rw [run_applyControl_of_accepted haccepts hstore,
    Action.run_bind_of_ok (a := true) (by rw [run_onRig, hget]), run_onRig, hget,
    Action.when_true]
  show ((deliver d.controls request stored).run (d.withStored stored usage)).after _ = _
  rw [run_deliver_of_used request stored hused hcount]
  rfl

/-!
# What becomes of a request
-/

/-- The controls fit the mode, and the frame has the length of the mode. -/
structure Fitted (d : Device) : Prop where
  wellFormed : d.mode.WellFormed
  linear : d.mode.isLinear = true
  controls : d.controls.Fits d.mode
  frameLength : d.session.frameLength = d.mode.frameLength

/-- The request failed, and the device is as before. -/
structure Declined (d : Device) (error : Error) (o : Outcome Device Unit) : Prop where
  controls : o.state.controls = d.controls
  session : o.state.session = d.session
  usage : o.state.rig.usage = d.rig.usage
  error : (error = .invalidArgument ∧ o.events = []) ∨ firstFailure? o.events = some error

/-- The request was granted; under a user it is in the sensor. -/
structure Granted (d : Device) (request : Control) (o : Outcome Device Unit) : Prop where
  value : o.state.controls.value request.kind = request.value
  written : 0 < d.rig.usage.count.toNat -> Clean o.events ∧
    forall register, register ∈ d.controls.registers d.mode request ->
      exists value, .write d.rig.bus.device register [value] true ∈ o.events
  transactions : 0 < d.rig.usage.count.toNat -> exists stored,
    d.controls.store request d.mode = .ok stored ∧
      o.events.filter Event.isTransaction =
        completed d.rig.bus.device (d.rig.bus.file.storedPlan request stored)

/-- The request was answered, without a call to the board and in its own registers. -/
structure Handled (d : Device) (request : Control) (o : Outcome Device Unit) : Prop where
  answered : o.Answered
  declined : forall error, o.result = .error (.reported error) -> d.Declined error o
  granted : o.result = .ok () -> d.Granted request o
  quiet : forall e, e ∈ o.events -> e.isBoardCall = false
  contained : forall device register bytes ok, .write device register bytes ok ∈ o.events ->
    register ∈ d.controls.registers d.mode request

theorem quiet_of_busActivity {es : List Event} {count count' : UInt32}
    (hes : forall e, e ∈ es -> e.isBusActivity = true) {e : Event}
    (he : e ∈ .usage .getIfInUse (some true) count ::
      (es ++ [.usage .put (some false) count'])) : e.isBoardCall = false := by
  rcases List.mem_cons.mp he with rfl | he
  · rfl
  · rcases List.mem_append.mp he with he | he
    · exact Event.isBoardCall_of_busActivity (hes e he)
    · rw [List.mem_singleton.mp he]
      rfl

theorem handled_of_refused (hrefused : d.controls.accepts request = false) :
    d.Handled request ((applyControl request).run d) := by
  rw [run_applyControl_of_refused hrefused]
  constructor
  · intro kind hover
    cases hover
  · intro error herror
    cases herror
    exact ⟨rfl, rfl, rfl, Or.inl ⟨rfl, rfl⟩⟩
  · intro hok
    cases hok
  · intro e he
    cases he
  · intro device register bytes ok he
    cases he

theorem handled_of_idle (haccepts : d.controls.accepts request = true)
    (hstore : d.controls.store request d.mode = .ok stored)
    (hidle : d.rig.usage.count.toNat = 0) :
    d.Handled request ((applyControl request).run d) := by
  rw [run_applyControl_of_idle haccepts hstore hidle]
  have hused : ¬ 0 < d.rig.usage.count.toNat := by
    rw [hidle]
    exact Nat.lt_irrefl 0
  constructor
  · intro kind hover
    cases hover
  · intro error herror
    cases herror
  · intro _
    exact ⟨ControlSet.value_store haccepts hstore, fun h => (hused h).elim,
      fun h => (hused h).elim⟩
  · intro e he
    rw [List.mem_singleton.mp he]
    rfl
  · intro device register bytes ok he
    cases List.mem_singleton.mp he

/-- What putting a stored control into the sensor records and answers. -/
theorem pushed_cases (hd : d.Fitted) (hstore : d.controls.store request d.mode = .ok stored)
    (usage : UsageCount) :
    let pushed := (pushStored request stored).run (d.withStored stored usage)
    (pushed.result = .ok () ∧
      pushed.events.filter Event.isTransaction =
        completed d.rig.bus.device (d.rig.bus.file.storedPlan request stored)) ∨
    exists error, pushed.result = .error (.reported error) ∧
      pushed.state.session = d.session ∧
      BrokenOff d.rig.bus.device (d.rig.bus.file.storedPlan request stored) error
        (pushed.events.filter Event.isTransaction) := by
  intro pushed
  have hplan : OnPlan d.rig.bus.device [] d.rig.bus.file [] (d.withStored stored usage) :=
    ⟨hd.linear, rfl, rfl, rfl⟩
  have hrests : Rests d.session [] (d.withStored stored usage) := ⟨rfl, hd.frameLength⟩
  cases hres : pushed.result with
  | ok _ =>
      have hend := (contract_pushStored_onPlan hstore).result hplan hres
      exact Or.inl ⟨rfl, by simpa using hend⟩
  | error failure =>
      rcases (contract_pushStored_onPlan hstore).failure hplan hres with ⟨error, rfl, hbroken⟩
      have hsession := (contract_pushStored_rests hstore).failure hrests hres
      exact Or.inr ⟨error, rfl, hsession.1, by simpa using hbroken⟩

/-- The transactions of a plan that was completed are the writes of the request. -/
theorem written_of_completed (hstore : c.store request m = .ok stored) {log : List Event}
    (hlog : log.filter Event.isTransaction = completed device (f.storedPlan request stored)) :
    Clean log ∧ forall register, register ∈ c.registers m request ->
      exists value, .write device register [value] true ∈ log := by
  constructor
  · rw [← clean_filter_iff, hlog]
    exact clean_completed _ _
  · intro register hregister
    rcases RegisterFile.exists_write_of_mem_storedPlan (f := f) hstore hregister with
      ⟨value, hwrite⟩
    have hmem : .write device register [value] true ∈
        completed device (f.storedPlan request stored) := mem_completed.mpr ⟨_, hwrite, rfl⟩
    rw [← hlog] at hmem
    exact ⟨value, (List.mem_filter.mp hmem).1⟩

/-- Completed or not, a plan writes no other registers than those of the request. -/
theorem register_of_write (hstore : c.store request m = .ok stored) {log : List Event}
    (hlog : log.filter Event.isTransaction = completed device (f.storedPlan request stored) ∨
      exists error, BrokenOff device (f.storedPlan request stored) error
        (log.filter Event.isTransaction))
    {device' : UInt8} {register : UInt16} {bytes : List UInt8} {ok : Bool}
    (he : .write device' register bytes ok ∈ log) : register ∈ c.registers m request := by
  have hmem : .write device' register bytes ok ∈ log.filter Event.isTransaction :=
    List.mem_filter.mpr ⟨he, rfl⟩
  have hplanned : exists t ok', t ∈ (f.storedPlan request stored).flatten ∧
      .write device' register bytes ok = t.event device ok' := by
    rcases hlog with hcompleted | ⟨error, hbroken⟩
    · rw [hcompleted] at hmem
      rcases mem_completed.mp hmem with ⟨t, ht, heq⟩
      exact ⟨t, true, ht, heq.symm⟩
    · exact hbroken.mem hmem
  rcases hplanned with ⟨t, ok', ht, heq⟩
  have hregister := RegisterFile.register_of_mem_storedPlan hstore ht
  cases t with
  | write register' value =>
      cases heq
      exact hregister
  | read register' value => cases ok' <;> cases heq

theorem handled_of_completed (haccepts : d.controls.accepts request = true)
    (hstore : d.controls.store request d.mode = .ok stored) {e : Device} {es : List Event}
    (hcontrols : e.controls = stored.1) (hquiet : forall e, e ∈ es -> e.isBoardCall = false)
    (hcompleted : es.filter Event.isTransaction =
      completed d.rig.bus.device (d.rig.bus.file.storedPlan request stored)) :
    d.Handled request ⟨.ok (), e, es⟩ := by
  constructor
  · intro kind hover
    cases hover
  · intro error herror
    cases herror
  · intro _
    refine ⟨?_, fun _ => written_of_completed hstore hcompleted,
      fun _ => ⟨stored, hstore, hcompleted⟩⟩
    show e.controls.value request.kind = request.value
    rw [hcontrols]
    exact ControlSet.value_store haccepts hstore
  · exact hquiet
  · intro device register bytes ok he
    exact register_of_write hstore (Or.inl hcompleted) he

theorem handled_of_brokenOff (hstore : d.controls.store request d.mode = .ok stored)
    {error : Error} {e : Device} {es : List Event} (hcontrols : e.controls = d.controls)
    (hsession : e.session = d.session) (husage : e.rig.usage = d.rig.usage)
    (hquiet : forall e, e ∈ es -> e.isBoardCall = false)
    (hbroken : BrokenOff d.rig.bus.device (d.rig.bus.file.storedPlan request stored) error
      (es.filter Event.isTransaction)) :
    d.Handled request ⟨.error (.reported error), e, es⟩ := by
  constructor
  · intro kind hover
    cases hover
  · intro first hfirst
    cases hfirst
    refine ⟨hcontrols, hsession, husage, Or.inr ?_⟩
    rw [← firstFailure?_filter]
    exact hbroken.firstFailure
  · intro hok
    cases hok
  · exact hquiet
  · intro device register bytes ok he
    exact register_of_write hstore (Or.inr ⟨error, hbroken⟩) he

theorem handled_of_used (hd : d.Fitted) (haccepts : d.controls.accepts request = true)
    (hstore : d.controls.store request d.mode = .ok stored)
    (hused : 0 < d.rig.usage.count.toNat) (hroom : d.Roomy) :
    d.Handled request ((applyControl request).run d) := by
  rcases run_applyControl_of_used haccepts hstore hused hroom with ⟨usage, hrun⟩
  have hactivity := (tuned_pushStored request stored (d.withStored stored usage)).1.activity
  have hcases := pushed_cases hd hstore usage
  generalize (pushStored request stored).run (d.withStored stored usage) = pushed
    at hrun hcases hactivity
  -- the calls on the count are no transactions
  have htransactions : (.usage .getIfInUse (some true) usage.count ::
      (pushed.events ++ [.usage .put (some false) d.rig.usage.count])).filter
        Event.isTransaction = pushed.events.filter Event.isTransaction := by
    simp [Event.isTransaction]
  rw [hrun]
  rcases hcases with ⟨hok, hcompleted⟩ | ⟨error, herror, hsession, hbroken⟩
  · rw [← htransactions] at hcompleted
    rw [hok]
    exact handled_of_completed haccepts hstore rfl (fun _ => quiet_of_busActivity hactivity)
      hcompleted
  · rw [← htransactions] at hbroken
    rw [herror]
    exact handled_of_brokenOff hstore rfl hsession rfl (fun _ => quiet_of_busActivity hactivity)
      hbroken

theorem handled (hd : d.Fitted) (hroom : d.Roomy) (request : Control) :
    d.Handled request ((applyControl request).run d) := by
  cases haccepts : d.controls.accepts request with
  | false => exact handled_of_refused haccepts
  | true =>
      rcases hd.controls.store hd.wellFormed haccepts with ⟨controls, moved, hstore, -⟩
      rcases Nat.eq_zero_or_pos d.rig.usage.count.toNat with hidle | hused
      · exact handled_of_idle haccepts hstore hidle
      · exact handled_of_used hd haccepts hstore hused hroom

theorem run_applyControl_of_full (haccepts : d.controls.accepts request = true)
    (hstore : d.controls.store request d.mode = .ok stored) (hfull : ¬ d.Roomy) :
    exists kind, ((applyControl request).run d).result = .error (.overflow kind) := by
  rcases Rig.run_getIfInUse_cases d.rig with ⟨-, kind, hget⟩ | ⟨hidle, -⟩ | ⟨usage, -, hcount, -⟩
  · refine ⟨kind, ?_⟩
    rw [run_applyControl_of_accepted haccepts hstore,
      Action.run_bind_of_error (e := .overflow kind) (by rw [run_onRig, hget])]
  · exact (hfull (by unfold Roomy; rw [hidle]; decide)).elim
  · exact (hfull (by unfold Roomy; rw [← hcount]; exact usage.count.toNat_lt_size)).elim

/-- A request is invalid exactly if it is not accepted, whatever the surroundings do. -/
theorem invalidArgument_iff (hd : d.Fitted) :
    ((applyControl request).run d).result = .error (.reported .invalidArgument) <->
      d.controls.accepts request = false := by
  constructor
  · intro hinvalid
    rw [Bool.eq_false_iff]
    intro haccepts
    rcases hd.controls.store hd.wellFormed haccepts with ⟨controls, moved, hstore, -⟩
    by_cases hroom : d.Roomy
    · rcases Nat.eq_zero_or_pos d.rig.usage.count.toNat with hidle | hused
      · rw [run_applyControl_of_idle haccepts hstore hidle] at hinvalid
        cases hinvalid
      · rcases run_applyControl_of_used haccepts hstore hused hroom with ⟨usage, hrun⟩
        rw [hrun] at hinvalid
        rcases pushed_cases hd hstore usage with ⟨hok, -⟩ | ⟨error, herror, -, hbroken⟩
        · cases hok.symm.trans hinvalid
        · rcases firstFailure?_transfer hbroken.firstFailure with ⟨access, register, rfl⟩
          cases herror.symm.trans hinvalid
    · rcases run_applyControl_of_full haccepts hstore hroom with ⟨kind, hover⟩
      cases hover.symm.trans hinvalid
  · intro hrefused
    rw [run_applyControl_of_refused hrefused]

end

end Device
end ImageSensor
