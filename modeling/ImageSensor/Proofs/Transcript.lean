import ImageSensor.Proofs.Imprint

/-!
# Transcripts

What a program, a control or a start has to transfer is a plan: a list of bursts.
The transfers of a burst are all attempted, whichever of them fail; after a burst
in which one failed nothing more of the plan is attempted, and the first transfer
that failed is the error that is reported.
-/

namespace ImageSensor

/-- A transaction that concerns one register, with the byte it carries. -/
inductive Transfer where
  | write (register : UInt16) (value : UInt8)
  | read (register : UInt16) (value : UInt8)
deriving DecidableEq

/-- Transfers that are all attempted. -/
abbrev Burst : Type :=
  List Transfer

namespace Transfer

/-- How a transfer is recorded, if it succeeds or not. -/
def event (device : UInt8) : Transfer -> Bool -> Event
  | .write register value, ok => .write device register [value] ok
  | .read register value, true => .read device register [value]
  | .read register _, false => .readFailure device register 1

theorem isTransaction_event (device : UInt8) (t : Transfer) (ok : Bool) :
    (t.event device ok).isTransaction = true := by
  cases t <;> cases ok <;> rfl

end Transfer

/-- The error that a failed transaction stands for. -/
def Event.failure? : Event -> Option Error
  | .write _ register _ false => some (.transfer .write register)
  | .readFailure _ register _ => some (.transfer .read register)
  | _ => none

theorem Event.failure?_eq_none_iff {e : Event} : e.failure? = none <-> e.isFailure = false := by
  cases e with
  | write device register bytes ok => cases ok <;> simp [failure?, isFailure]
  | _ => simp [failure?, isFailure]

theorem Event.failure?_transfer {e : Event} {error : Error} (h : e.failure? = some error) :
    exists access register, error = .transfer access register := by
  cases e with
  | write device register bytes ok =>
      cases ok with
      | true => cases h
      | false =>
          cases h
          exact ⟨_, _, rfl⟩
  | readFailure device register width =>
      cases h
      exact ⟨_, _, rfl⟩
  | _ => cases h

/-- The error of the first transaction that failed. -/
def firstFailure? (log : List Event) : Option Error :=
  log.findSome? Event.failure?

theorem firstFailure?_append (log more : List Event) :
    firstFailure? (log ++ more) = (firstFailure? log).or (firstFailure? more) :=
  List.findSome?_append

theorem firstFailure?_eq_none_iff {log : List Event} :
    firstFailure? log = none <-> Clean log := by
  unfold firstFailure? Clean
  rw [List.findSome?_eq_none_iff]
  exact forall₂_congr fun _ _ => Event.failure?_eq_none_iff

theorem firstFailure?_transfer {log : List Event} {error : Error}
    (h : firstFailure? log = some error) :
    exists access register, error = .transfer access register := by
  rcases List.exists_of_findSome?_eq_some h with ⟨e, -, he⟩
  exact Event.failure?_transfer he

/-- Only transactions fail in this sense. -/
theorem firstFailure?_filter (log : List Event) :
    firstFailure? (log.filter Event.isTransaction) = firstFailure? log := by
  induction log with
  | nil => rfl
  | cons e rest ih =>
      unfold firstFailure? at ih ⊢
      rw [List.filter_cons]
      cases htransaction : e.isTransaction with
      | true => simp [List.findSome?_cons, ih]
      | false =>
          have hnone : e.failure? = none := by
            cases e <;> first | rfl | cases htransaction
          simp [ih, hnone]

theorem clean_filter_iff {log : List Event} :
    Clean (log.filter Event.isTransaction) <-> Clean log := by
  rw [← firstFailure?_eq_none_iff, firstFailure?_filter, firstFailure?_eq_none_iff]

/-!
# Plans
-/

/-- The record of a plan without a failure. -/
def completed (device : UInt8) (plan : List Burst) : List Event :=
  plan.flatten.map fun t => t.event device true

/-- The record of a burst, given which of its transfers succeeded. -/
def attempted (device : UInt8) (burst : Burst) (answers : List Bool) : List Event :=
  List.zipWith (Transfer.event device) burst answers

/--
The plan was followed up to a burst in which a transfer failed; that burst was
attempted to its end, and its first failure is the error.
-/
def BrokenOff (device : UInt8) (plan : List Burst) (error : Error) (log : List Event) : Prop :=
  exists done burst rest answers,
    plan = done ++ burst :: rest ∧ answers.length = burst.length ∧
    log = completed device done ++ attempted device burst answers ∧
    firstFailure? log = some error

theorem completed_append (device : UInt8) (plan more : List Burst) :
    completed device (plan ++ more) = completed device plan ++ completed device more := by
  simp [completed]

theorem clean_completed (device : UInt8) (plan : List Burst) :
    Clean (completed device plan) := by
  intro e he
  rcases List.mem_map.mp he with ⟨t, -, rfl⟩
  cases t <;> rfl

theorem firstFailure?_completed (device : UInt8) (plan : List Burst) :
    firstFailure? (completed device plan) = none :=
  firstFailure?_eq_none_iff.mpr (clean_completed device plan)

theorem BrokenOff.mono {device : UInt8} {plan : List Burst} {error : Error} {log : List Event}
    (h : BrokenOff device plan error log) (more : List Burst) :
    BrokenOff device (plan ++ more) error log := by
  rcases h with ⟨done, burst, rest, answers, rfl, hanswers, hlog, herror⟩
  exact ⟨done, burst, rest ++ more, answers, by simp, hanswers, hlog, herror⟩

/-!
# The plans of programs and controls
-/

namespace Burst

def ofWrites (writes : List (UInt16 × UInt8)) : Burst :=
  writes.map fun w => .write w.1 w.2

end Burst

namespace Program

/-- Each write of a program is a burst of its own. -/
def plan (p : Program) : List Burst :=
  p.writes.map fun w => [.write w.1 w.2]

end Program

namespace RegisterFile

/-- The plan of a turn: both axes are read one by one, then both are written. -/
def turnPlan (f : RegisterFile) (turn : Orientation -> Orientation) : List Burst :=
  [ [.read Register.mirror (f.get Register.mirror)],
    [.read Register.flip (f.get Register.flip)],
    Burst.ofWrites (Register.orientationWrites (turn f.orientation)) ]

/-- The plan of a control that is put over these registers. -/
def plan (f : RegisterFile) : Control -> List Burst
  | .exposure lines => [Burst.ofWrites (Register.exposureWrites lines)]
  | .analogGain gain => [Burst.ofWrites (Register.gainWrites (Gain.encode gain))]
  | .horizontalFlip on => f.turnPlan fun o => { o with mirror := on }
  | .verticalFlip on => f.turnPlan fun o => { o with flip := on }
  | .horizontalBlank _ => []
  | .verticalBlank _ => []
  | .testPattern _ => []

/-- The plan of several controls that are put over these registers in turn. -/
def planAll (f : RegisterFile) : List Control -> List Burst
  | [] => []
  | control :: rest => f.plan control ++ (f.put control).planAll rest

end RegisterFile

/-- The plan of a start: the program, all controls, then the switch of the stream. -/
def Mode.startPlan (m : Mode) (c : ControlSet) (f : RegisterFile) : List Burst :=
  m.program.plan ++ (f.load m.program.writes).planAll c.snapshot ++
    [[.write Register.streamControl Register.streaming]]

/-!
# Following a plan on the bus
-/

/-- What is answered after these transactions: the first failure, if there is one. -/
def verdict (log : List Event) : Except Failure Unit :=
  match firstFailure? log with
  | none => .ok ()
  | some error => .error (.reported error)

theorem verdict_of_clean {log : List Event} (h : Clean log) : verdict log = .ok () := by
  rw [verdict, firstFailure?_eq_none_iff.mpr h]

theorem verdict_append_of_clean {log more : List Event} (h : Clean log) :
    verdict (log ++ more) = verdict more := by
  rw [verdict, firstFailure?_append, firstFailure?_eq_none_iff.mpr h]
  rfl

theorem verdict_append_of_failure {log more : List Event} {error : Error}
    (h : firstFailure? log = some error) :
    verdict (log ++ more) = .error (.reported error) := by
  rw [verdict, firstFailure?_append, h]
  rfl

theorem mem_attempted {device : UInt8} {burst : Burst} {answers : List Bool} {e : Event}
    (he : e ∈ attempted device burst answers) :
    exists t ok, t ∈ burst ∧ e = t.event device ok := by
  unfold attempted at he
  rw [← List.map_uncurry_zip_eq_zipWith] at he
  rcases List.mem_map.mp he with ⟨⟨t, ok⟩, hmem, rfl⟩
  exact ⟨t, ok, (List.of_mem_zip hmem).1, rfl⟩

theorem mem_completed {device : UInt8} {plan : List Burst} {e : Event} :
    e ∈ completed device plan <-> exists t, t ∈ plan.flatten ∧ t.event device true = e :=
  List.mem_map

theorem BrokenOff.firstFailure {device : UInt8} {plan : List Burst} {error : Error}
    {log : List Event} (h : BrokenOff device plan error log) : firstFailure? log = some error := by
  rcases h with ⟨done, burst, rest, answers, -, -, -, herror⟩
  exact herror

theorem BrokenOff.mem {device : UInt8} {plan : List Burst} {error : Error} {log : List Event}
    (h : BrokenOff device plan error log) {e : Event} (he : e ∈ log) :
    exists t ok, t ∈ plan.flatten ∧ e = t.event device ok := by
  rcases h with ⟨done, burst, rest, answers, rfl, -, rfl, -⟩
  rw [List.flatten_append, List.flatten_cons]
  rcases List.mem_append.mp he with he | he
  · rcases mem_completed.mp he with ⟨t, ht, rfl⟩
    exact ⟨t, true, List.mem_append_left _ ht, rfl⟩
  · rcases mem_attempted he with ⟨t, ok, ht, rfl⟩
    exact ⟨t, ok, List.mem_append_right _ (List.mem_append_left _ ht), rfl⟩

theorem filter_attempted (device : UInt8) (burst : Burst) (answers : List Bool) :
    (attempted device burst answers).filter Event.isTransaction =
      attempted device burst answers := by
  apply List.filter_eq_self.mpr
  intro e he
  rcases mem_attempted he with ⟨t, ok, -, rfl⟩
  exact t.isTransaction_event device ok

theorem attempted_of_clean {device : UInt8} {burst : Burst} {answers : List Bool}
    (hlength : answers.length = burst.length) (h : Clean (attempted device burst answers)) :
    attempted device burst answers = completed device [burst] := by
  induction burst generalizing answers with
  | nil => rfl
  | cons t rest ih =>
      cases answers with
      | nil => cases hlength
      | cons ok answers =>
          rcases clean_cons.mp h with ⟨hhead, hrest⟩
          have hok : ok = true := by
            cases t <;> cases ok <;> first | rfl | cases hhead
          subst hok
          have hstep : attempted device rest answers = completed device [rest] :=
            ih (Nat.succ.inj hlength) hrest
          simp only [completed, List.flatten_cons, List.flatten_nil, List.append_nil] at hstep ⊢
          simp only [attempted, List.zipWith_cons_cons, List.map_cons] at hstep ⊢
          rw [hstep]

section

variable {σ α : Type} {device : UInt8} {plan : List Burst} {f g : RegisterFile}

/-- The action broke off the plan, and reports why. -/
def BreaksOff (device : UInt8) (plan : List Burst) (failure : Failure) : Action.Assertion σ :=
  fun log _ => exists error, failure = .reported error ∧
    BrokenOff device plan error (log.filter Event.isTransaction)

theorem BreaksOff.mono {failure : Failure} {log : List Event} {s : σ}
    (h : BreaksOff device plan failure log s) (more : List Burst) :
    BreaksOff device (plan ++ more) failure log s := by
  rcases h with ⟨error, hfailure, hbroken⟩
  exact ⟨error, hfailure, hbroken.mono more⟩

namespace Bus

/-- The plan was followed so far, which left these registers. -/
structure OnPlan (device : UInt8) (plan : List Burst) (f : RegisterFile) (log : List Event)
    (b : Bus) : Prop where
  address : b.device = device
  file : b.file = f
  transactions : log.filter Event.isTransaction = completed device plan

/-- The outcome of a burst, which leaves these registers if all of it succeeds. -/
structure Attempts (b : Bus) (burst : Burst) (f : RegisterFile) (o : Outcome Bus Unit) :
    Prop where
  address : o.state.device = b.device
  events : exists answers : List Bool, answers.length = burst.length ∧
    o.events = attempted b.device burst answers
  answer : o.result = verdict o.events
  file : Clean o.events -> o.state.file = f

theorem attempts_writeByte (register : UInt16) (value : UInt8) (b : Bus) :
    Attempts b [.write register value] (b.file.set register value)
      ((writeByte register value).run b) := by
  cases hfails : b.failsNext .write register with
  | true =>
      rw [run_writeByte_of_failure hfails]
      refine ⟨rfl, ⟨[false], rfl, rfl⟩, rfl, ?_⟩
      intro hclean
      cases (clean_cons.mp hclean).1
  | false =>
      rw [run_writeByte hfails]
      exact ⟨rfl, ⟨[true], rfl, rfl⟩, rfl, fun _ => rfl⟩

theorem Attempts.not_overflow {b : Bus} {burst : Burst} {o : Outcome Bus Unit}
    (h : Attempts b burst f o) (kind : Overflow) : o.result ≠ .error (.overflow kind) := by
  rw [h.answer, verdict]
  split <;> exact fun hover => nomatch hover

/-- Two bursts of which the second is attempted in any case are one. -/
theorem Attempts.both {x y : Action Bus Unit} {b : Bus} {first second : Burst}
    {h : RegisterFile} (hx : Attempts b first f (x.run b))
    (hy : Attempts (x.run b).state second g (y.run (x.run b).state))
    (hfile : (x.run b).state.file = f -> g = h) :
    Attempts b (first ++ second) h ((Action.both x y).run b) := by
  rcases hrun : x.run b with ⟨result, mid, es⟩
  rw [hrun] at hx hy hfile
  rcases hx.events with ⟨answers, hlength, hes⟩
  rcases hy.events with ⟨answers', hlength', hes'⟩
  have haddress : (y.run mid).state.device = b.device := hy.address.trans hx.address
  have hevents : exists answers : List Bool, answers.length = (first ++ second).length ∧
      es ++ (y.run mid).events = attempted b.device (first ++ second) answers := by
    refine ⟨answers ++ answers', ?_, ?_⟩
    · rw [List.length_append, List.length_append, hlength, hlength']
    · rw [hes', hx.address]
      change es = _ at hes
      rw [hes]
      exact (List.zipWith_append hlength.symm).symm
  have hanswer : result = verdict es := hx.answer
  cases hfailed : firstFailure? es with
  | none =>
      have hclean := firstFailure?_eq_none_iff.mp hfailed
      rw [hanswer, verdict_of_clean hclean] at hrun
      rw [Action.run_both_of_ok hrun y]
      refine ⟨haddress, hevents, ?_, ?_⟩
      · exact hy.answer.trans (verdict_append_of_clean hclean).symm
      · intro hall
        rw [← hfile (hx.file hclean)]
        exact hy.file (clean_append.mp hall).2
  | some error =>
      have hreported : verdict es = .error (.reported error) := by
        rw [verdict, hfailed]
      rw [hanswer, hreported] at hrun
      rw [Action.run_both_of_reported hrun hy.not_overflow]
      refine ⟨haddress, hevents, (verdict_append_of_failure hfailed).symm, ?_⟩
      intro hall
      have hnone := firstFailure?_eq_none_iff.mpr (clean_append.mp hall).1
      cases hfailed.symm.trans hnone

theorem attempts_writeEach (writes : List (UInt16 × UInt8)) (b : Bus) :
    Attempts b (Burst.ofWrites writes) (b.file.load writes) ((writeEach writes).run b) := by
  induction writes generalizing b with
  | nil => exact ⟨rfl, ⟨[], rfl, rfl⟩, rfl, fun _ => rfl⟩
  | cons head rest ih =>
      apply (attempts_writeByte head.1 head.2 b).both (ih _)
      intro hfile
      rw [hfile]
      rfl

/-- An action that attempts one burst follows the plan by that burst. -/
theorem contract_of_attempts {x : Action Bus Unit} {burst : Burst}
    (hx : forall b : Bus, b.file = f -> Attempts b burst g (x.run b)) :
    Action.Contract x (OnPlan device plan f)
      (fun _ => OnPlan device (plan ++ [burst]) g) (BreaksOff device (plan ++ [burst])) := by
  intro log b hb
  have hend := hx b hb.file
  rcases hend.events with ⟨answers, hlength, hes⟩
  rw [hb.address] at hes
  have hfiltered : (log ++ (x.run b).events).filter Event.isTransaction =
      completed device plan ++ attempted device burst answers := by
    rw [List.filter_append, hb.transactions, hes, filter_attempted]
  rw [hend.answer]
  cases hfailed : firstFailure? (x.run b).events with
  | none =>
      have hclean := firstFailure?_eq_none_iff.mp hfailed
      rw [verdict_of_clean hclean]
      refine ⟨hend.address.trans hb.address, hend.file hclean, ?_⟩
      rw [hes] at hclean
      rw [hfiltered, completed_append, attempted_of_clean hlength hclean]
  | some error =>
      have hreported : verdict (x.run b).events = .error (.reported error) := by
        rw [verdict, hfailed]
      rw [hreported]
      refine ⟨error, rfl, plan, burst, [], answers, rfl, hlength, hfiltered, ?_⟩
      rw [hfiltered, firstFailure?_append, firstFailure?_completed, ← hes, hfailed]
      rfl

theorem contract_writeEach_onPlan (writes : List (UInt16 × UInt8)) :
    Action.Contract (writeEach writes) (OnPlan device plan f)
      (fun _ => OnPlan device (plan ++ [Burst.ofWrites writes]) (f.load writes))
      (BreaksOff device (plan ++ [Burst.ofWrites writes])) := by
  apply contract_of_attempts
  rintro b rfl
  exact attempts_writeEach writes b

theorem contract_writeByte_onPlan (register : UInt16) (value : UInt8) :
    Action.Contract (writeByte register value) (OnPlan device plan f)
      (fun _ => OnPlan device (plan ++ [[.write register value]]) (f.set register value))
      (BreaksOff device (plan ++ [[.write register value]])) := by
  apply contract_of_attempts
  rintro b rfl
  exact attempts_writeByte register value b

theorem contract_readByte_onPlan (register : UInt16) :
    Action.Contract (readByte register) (OnPlan device plan f)
      (fun value log b => value = f.get register ∧
        OnPlan device (plan ++ [[.read register (f.get register)]]) f log b)
      (BreaksOff device (plan ++ [[.read register (f.get register)]])) := by
  intro log b hb
  cases hfails : b.failsNext .read register with
  | true =>
      rw [run_readByte_of_failure hfails]
      refine ⟨_, rfl, plan, _, [], [false], rfl, rfl, ?_, ?_⟩
      · rw [List.filter_append, hb.transactions, ← hb.address]
        rfl
      · rw [List.filter_append, hb.transactions, firstFailure?_append, firstFailure?_completed]
        rfl
  | false =>
      rw [run_readByte hfails]
      refine ⟨congrArg (RegisterFile.get · register) hb.file, hb.address, hb.file, ?_⟩
      rw [List.filter_append, hb.transactions, completed_append, ← hb.address, ← hb.file]
      rfl

theorem onPlan_pause (milliseconds : UInt32) :
    Action.Keeps (OnPlan device plan f) (Action.emit (.pauseMilliseconds milliseconds)) := by
  intro log b hb
  refine ⟨hb.address, hb.file, ?_⟩
  rw [List.filter_append, hb.transactions]
  exact List.append_nil _

end Bus

theorem Program.contract_replay_onPlan (p : Program) :
    Action.Contract (replay p) (Bus.OnPlan device plan f)
      (fun _ => Bus.OnPlan device (plan ++ p.plan) (f.load p.writes))
      (BreaksOff device (plan ++ p.plan)) := by
  induction p using replay.induct generalizing plan f with
  | case1 =>
      apply Action.Contract.pure
      intro log b hb
      simpa [Program.plan, writes, body, RegisterFile.load] using hb
  | case2 step rest hend =>
      rw [replay_cons_of_end hend, Program.plan, writes_cons_of_end hend, List.map_nil,
        List.append_nil]
      exact Action.Contract.pure fun _ _ hb => hb
  | case3 step rest hend hpause ih =>
      rw [replay_cons_of_pause hpause, Program.plan, writes_cons_of_pause hend hpause]
      exact Action.Contract.bind (Bus.onPlan_pause _).anyFailure fun _ => ih
  | case4 step rest hend hpause ih =>
      rw [replay_cons_of_write hend hpause, Program.plan, writes_cons_of_write hend hpause,
        List.map_cons, List.append_cons]
      apply Action.Contract.bind
      · apply (Bus.contract_writeByte_onPlan _ _).orElse
        intro _ _ _ hbroken
        exact hbroken.mono _
      · intro _
        exact ih

/-!
# Following a plan on the device
-/

namespace Device

/-- In a linear mode, the plan was followed so far. -/
def OnPlan (device : UInt8) (plan : List Burst) (f : RegisterFile) (log : List Event)
    (d : Device) : Prop :=
  d.mode.isLinear = true ∧ Bus.OnPlan device plan f log d.rig.bus

theorem contract_onBus_linear {x : Action Bus α} {P : Action.Assertion Bus}
    {Q : α -> Action.Assertion Bus} {E : Failure -> Action.Assertion Bus}
    (hx : Action.Contract x P Q E) :
    Action.Contract (onBus x) (fun log d => d.mode.isLinear = true ∧ P log d.rig.bus)
      (fun a log d => d.mode.isLinear = true ∧ Q a log d.rig.bus)
      (fun failure log d => E failure log d.rig.bus) := by
  intro log d hd
  have hend := hx log d.rig.bus hd.2
  rw [run_onBus]
  cases hres : (x.run d.rig.bus).result with
  | ok a =>
      rw [hres] at hend
      exact ⟨hd.1, hend⟩
  | error e =>
      rw [hres] at hend
      exact hend

theorem contract_writeLinear_onPlan (writes : List (UInt16 × UInt8)) :
    Action.Contract
      (Action.inspect Device.mode >>= fun mode =>
        Action.when mode.isLinear (onBus (Bus.writeEach writes)))
      (OnPlan device plan f)
      (fun _ => OnPlan device (plan ++ [Burst.ofWrites writes]) (f.load writes))
      (BreaksOff device (plan ++ [Burst.ofWrites writes])) := by
  apply Action.Contract.inspect_knowing (c := fun mode => mode.isLinear = true)
    fun _ _ hd => hd.1
  intro mode hlinear
  rw [hlinear, Action.when_true]
  exact contract_onBus_linear (Bus.contract_writeEach_onPlan writes)

theorem contract_readOrientation_onPlan :
    Action.Contract readOrientation (OnPlan device plan f)
      (fun o log d => o = f.orientation ∧
        OnPlan device (plan ++ [[.read Register.mirror (f.get Register.mirror)]] ++
          [[.read Register.flip (f.get Register.flip)]]) f log d)
      (BreaksOff device (plan ++ [[.read Register.mirror (f.get Register.mirror)]] ++
        [[.read Register.flip (f.get Register.flip)]])) := by
  apply Action.Contract.bind
  · apply (contract_onBus_linear (Bus.contract_readByte_onPlan Register.mirror)).orElse
    intro _ _ _ hbroken
    exact hbroken.mono _
  intro mirror
  apply Action.Contract.bind (M := fun flip log d => mirror = f.get Register.mirror ∧
    flip = f.get Register.flip ∧
      OnPlan device (plan ++ [[.read Register.mirror (f.get Register.mirror)]] ++
        [[.read Register.flip (f.get Register.flip)]]) f log d)
  · apply Action.Contract.knowing (fun _ _ hd => hd.2.1)
    intro hmirror
    apply (contract_onBus_linear (Bus.contract_readByte_onPlan Register.flip)).consequence
    · intro log d hd
      exact ⟨hd.1, hd.2.2⟩
    · intro flip log d hd
      exact ⟨hmirror, hd.2.1, hd.1, hd.2.2⟩
    · intro _ _ _ hbroken
      exact hbroken
  intro flip
  apply Action.Contract.pure
  rintro log d ⟨rfl, rfl, hd⟩
  exact ⟨rfl, hd⟩

theorem contract_turn_onPlan (turn : Orientation -> Orientation) :
    Action.Contract (readOrientation >>= fun o => setOrientation (turn o).code)
      (OnPlan device plan f)
      (fun _ => OnPlan device (plan ++ f.turnPlan turn)
        (f.load (Register.orientationWrites (turn f.orientation))))
      (BreaksOff device (plan ++ f.turnPlan turn)) := by
  have hplan : plan ++ f.turnPlan turn =
      plan ++ [[.read Register.mirror (f.get Register.mirror)]] ++
        [[.read Register.flip (f.get Register.flip)]] ++
          [Burst.ofWrites (Register.orientationWrites (turn f.orientation))] := by
    simp [RegisterFile.turnPlan]
  rw [hplan]
  apply Action.Contract.bind
  · apply contract_readOrientation_onPlan.orElse
    intro _ _ _ hbroken
    exact hbroken.mono _
  intro o
  apply Action.Contract.assuming
  rintro rfl
  rw [setOrientation_code]
  apply Action.Contract.bind (contract_onBus_linear (Bus.contract_writeEach_onPlan _))
  intro _
  exact Action.Contract.update fun _ _ hd => hd

/-- A control that is put into the sensor is put there as planned. -/
theorem contract_push_onPlan (control : Control) :
    Action.Contract (push control) (OnPlan device plan f)
      (fun _ => OnPlan device (plan ++ f.plan control) (f.put control))
      (BreaksOff device (plan ++ f.plan control)) := by
  have hnone : plan ++ [] = plan := List.append_nil plan
  cases control with
  | exposure lines => exact contract_writeLinear_onPlan _
  | analogGain gain => exact contract_writeLinear_onPlan _
  | horizontalFlip on => exact contract_turn_onPlan fun o => { o with mirror := on }
  | verticalFlip on => exact contract_turn_onPlan fun o => { o with flip := on }
  | verticalBlank lines =>
      rw [RegisterFile.plan, hnone]
      exact Action.Contract.update fun _ _ hd => hd
  | horizontalBlank pixels =>
      rw [RegisterFile.plan, hnone]
      exact Action.Contract.pure fun _ _ hd => hd
  | testPattern pattern =>
      rw [RegisterFile.plan, hnone]
      exact Action.Contract.pure fun _ _ hd => hd

theorem contract_pushAll_onPlan (controls : List Control) :
    Action.Contract (pushAll controls) (OnPlan device plan f)
      (fun _ => OnPlan device (plan ++ f.planAll controls) (f.putAll controls))
      (BreaksOff device (plan ++ f.planAll controls)) := by
  induction controls generalizing plan f with
  | nil =>
      rw [RegisterFile.planAll, List.append_nil]
      exact Action.Contract.pure fun _ _ hd => hd
  | cons control rest ih =>
      rw [RegisterFile.planAll, ← List.append_assoc]
      apply Action.Contract.bind
      · apply (contract_push_onPlan control).orElse
        intro _ _ _ hbroken
        exact hbroken.mono _
      · intro _
        exact ih

theorem contract_replay_onPlan (p : Program) :
    Action.Contract (onBus (Program.replay p)) (OnPlan device plan f)
      (fun _ => OnPlan device (plan ++ p.plan) (f.load p.writes))
      (BreaksOff device (plan ++ p.plan)) :=
  contract_onBus_linear p.contract_replay_onPlan

theorem contract_switchStream_onPlan :
    Action.Contract (switchStream true) (OnPlan device plan f)
      (fun _ => OnPlan device
        (plan ++ [[.write Register.streamControl Register.streaming]])
        (f.set Register.streamControl Register.streaming))
      (BreaksOff device (plan ++ [[.write Register.streamControl Register.streaming]])) :=
  contract_onBus_linear (Bus.contract_writeByte_onPlan _ _)

/-- What the plan of a start depends on beside the registers. -/
def Sets (m : Mode) (c : ControlSet) : Action.Assertion Device :=
  fun _ d => d.session.fastBoot = false ∧ d.mode = m ∧ d.controls = c

theorem sets_of_tuned {m : Mode} {c : ControlSet} {x : Action Device α}
    (hx : Action.Obeys Tuned x) : Action.Keeps (Sets m c) x :=
  keeps_tuned hx fun _ _ _ _ _ hd => hd

theorem contract_loadMode_onPlan (m : Mode) (c : ControlSet) :
    Action.Contract loadMode
      (fun log d => Sets m c log d ∧ OnPlan device plan f log d)
      (fun _ => OnPlan device
        (plan ++ (m.program.plan ++ (f.load m.program.writes).planAll c.snapshot))
        ((f.load m.program.writes).putAll c.snapshot))
      (BreaksOff device
        (plan ++ (m.program.plan ++ (f.load m.program.writes).planAll c.snapshot))) := by
  rw [← List.append_assoc]
  apply Action.Contract.inspect_known (b := m.program)
  · intro log d hd
    rw [hd.1.2.1]
  have hreplay : Action.Contract (onBus (Program.replay m.program))
      (fun log d => Sets m c log d ∧ OnPlan device plan f log d)
      (fun _ log d => Sets m c log d ∧
        OnPlan device (plan ++ m.program.plan) (f.load m.program.writes) log d)
      (fun failure log d => Sets m c log d ∧
        BreaksOff device (plan ++ m.program.plan) failure log d) :=
    (sets_of_tuned (tuned_onBus (Program.active_replay m.program))).and
      (contract_replay_onPlan m.program)
  apply Action.Contract.bind (hreplay.orElse fun _ _ _ hbroken => hbroken.2.mono _)
  intro _
  apply Action.Contract.bind (M := fun _ log d => Sets m c log d ∧
    OnPlan device (plan ++ m.program.plan) (f.load m.program.writes) log d)
  · exact Action.Contract.update fun _ _ hd => hd
  intro _
  apply Action.Contract.inspect_known (b := c.snapshot)
  · intro log d hd
    rw [hd.1.2.2]
  · exact (contract_pushAll_onPlan c.snapshot).pre fun _ _ hd => hd.2

/-- A start without a boot stage has the plan that mode and controls give it. -/
theorem contract_startStream_onPlan (m : Mode) (c : ControlSet) :
    Action.Contract startStream
      (fun log d => Sets m c log d ∧ OnPlan device plan f log d)
      (fun _ log _ => log.filter Event.isTransaction =
        completed device (plan ++ m.startPlan c f))
      (BreaksOff device (plan ++ m.startPlan c f)) := by
  rw [Mode.startPlan, ← List.append_assoc]
  apply Action.Contract.inspect_knowing (c := fun session => session.fastBoot = false)
    fun _ _ hd => hd.1.1
  intro session hboot
  rw [hboot]
  apply Action.Contract.bind
  · apply (contract_loadMode_onPlan m c).orElse
    intro _ _ _ hbroken
    exact hbroken.mono _
  · intro _
    apply contract_switchStream_onPlan.post
    intro _ _ _ hd
    exact hd.2.transactions

end Device
end

end ImageSensor
