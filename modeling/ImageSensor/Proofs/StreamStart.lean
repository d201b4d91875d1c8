import ImageSensor.Proofs.Headroom
import ImageSensor.Proofs.Surrender

/-!
# The start of a stream

Without a boot stage, a stream is started by a user and by the plan of its mode and
controls.  The start succeeds exactly if nothing it attempts fails; where something
does, the plan is broken off there.  The sensor is never switched on with a part of
the plan only, since the switch is the plan's last transfer.
-/

namespace ImageSensor

/-!
# Supplies
-/

/-- The clock or the supplies were refused. -/
def Event.isRefusal : Event -> Bool
  | .clockOn ok => !ok
  | .suppliesOn ok => !ok
  | _ => false

/-- Neither clock nor supplies were refused. -/
def Supplied (log : List Event) : Prop :=
  forall e, e ∈ log -> e.isRefusal = false

@[simp]
theorem supplied_nil : Supplied [] :=
  fun _ he => nomatch he

@[simp]
theorem supplied_cons {e : Event} {log : List Event} :
    Supplied (e :: log) <-> e.isRefusal = false ∧ Supplied log :=
  List.forall_mem_cons

@[simp]
theorem supplied_append {log es : List Event} :
    Supplied (log ++ es) <-> Supplied log ∧ Supplied es :=
  List.forall_mem_append

@[simp]
theorem supplied_driveEvents (l : Lines) (wire : Line) (high : Bool) (b : Board) :
    Supplied (l.driveEvents wire high b) := by
  unfold Lines.driveEvents
  split <;> simp [Event.isRefusal]

@[simp]
theorem supplied_pinEvents (b : Board) (state : PinState) : Supplied (b.pinEvents state) := by
  unfold Board.pinEvents
  split <;> simp [Event.isRefusal]

theorem Event.isRefusal_of_busActivity {e : Event} (h : e.isBusActivity = true) :
    e.isRefusal = false := by
  cases e <;> first | rfl | cases h

/-- Whatever was attempted succeeded. -/
def Smooth (log : List Event) : Prop :=
  Clean log ∧ Supplied log

/-!
# The plan of a start
-/

namespace RegisterFile

theorem register_of_mem_planAll {f : RegisterFile} {controls : List Control} {t : Transfer}
    (ht : t ∈ (f.planAll controls).flatten) :
    exists control, control ∈ controls ∧ t.register ∈ control.registers := by
  induction controls generalizing f with
  | nil => cases ht
  | cons control rest ih =>
      rw [planAll, List.flatten_append, List.mem_append] at ht
      rcases ht with ht | ht
      · exact ⟨control, List.mem_cons_self, register_of_mem_plan ht⟩
      · rcases ih ht with ⟨other, hother, hregister⟩
        exact ⟨other, List.mem_cons_of_mem _ hother, hregister⟩

end RegisterFile

/-- The part of a start before the stream is switched on. -/
def Mode.loadPlan (m : Mode) (c : ControlSet) (f : RegisterFile) : List Burst :=
  m.program.plan ++ (f.load m.program.writes).planAll c.snapshot

theorem Catalog.streamControl_not_mem_writes {entry : Entry} (h : entry ∈ entries) :
    Register.streamControl ∉ entry.mode.program.writes.map Prod.fst := by
  revert entry
  decide

theorem Control.streamControl_not_mem (control : Control) :
    Register.streamControl ∉ control.registers := by
  cases control <;> simp only [registers] <;> decide

/-- Nothing before the switch writes the register of the switch. -/
theorem Catalog.switch_not_mem_loadPlan {entry : Entry} (h : entry ∈ entries) (c : ControlSet)
    (f : RegisterFile) (value : UInt8) :
    .write Register.streamControl value ∉ (entry.mode.loadPlan c f).flatten := by
  intro hmem
  rw [Mode.loadPlan, List.flatten_append, List.mem_append] at hmem
  rcases hmem with hprogram | hcontrols
  · rcases List.mem_flatten.mp hprogram with ⟨burst, hburst, ht⟩
    rcases List.mem_map.mp hburst with ⟨w, hw, rfl⟩
    rcases Transfer.write.inj (List.mem_singleton.mp ht) with ⟨hregister, -⟩
    apply streamControl_not_mem_writes h
    rw [hregister]
    exact List.mem_map_of_mem hw
  · rcases RegisterFile.register_of_mem_planAll hcontrols with ⟨control, -, hregister⟩
    exact control.streamControl_not_mem hregister

section

variable {device : UInt8} {plan : List Burst} {register : UInt16} {value : UInt8}
  {error : Error} {log : List Event}

theorem Transfer.eq_write_of_event {device' : UInt8} {t : Transfer} {bytes : List UInt8}
    {ok ok' : Bool} (h : .write device' register bytes ok = t.event device ok') :
    exists value, t = .write register value := by
  cases t with
  | write register' value =>
      cases h
      exact ⟨value, rfl⟩
  | read register' value => cases ok' <;> cases h

/--
Where the last transfer of a plan writes a register that nothing else writes, it is
attempted only after all of the rest succeeded.
-/
theorem BrokenOff.clean_before_last
    (h : BrokenOff device (plan ++ [[.write register value]]) error log)
    (honly : forall value, .write register value ∉ plan.flatten)
    {before after : List Event} {device' : UInt8} {bytes : List UInt8} {ok : Bool}
    (hlog : log = before ++ .write device' register bytes ok :: after) : Clean before := by
  have hwrite : .write device' register bytes ok ∈ log := by
    rw [hlog]
    exact List.mem_append_right _ List.mem_cons_self
  rcases h with ⟨done, burst, rest, answers, hplan, hlength, hevents, herror⟩
  rcases List.eq_nil_or_concat rest with hrest | ⟨front, last, hrest⟩
  · subst hrest
    rcases List.append_inj' hplan rfl with ⟨rfl, hburst⟩
    cases hburst
    rcases List.length_eq_one_iff.mp hlength with ⟨answer, rfl⟩
    rw [hevents] at hlog
    rcases List.eq_nil_or_concat after with hafter | ⟨middle, final, hafter⟩
    · subst hafter
      rw [← (List.append_inj' hlog rfl).1]
      exact clean_completed device plan
    · -- the write would be one of the plan before the last transfer
      rw [hafter, List.concat_eq_append, ← List.cons_append, ← List.append_assoc] at hlog
      have hearlier := (List.append_inj' hlog rfl).1
      have hmem : .write device' register bytes ok ∈ completed device plan := by
        rw [hearlier]
        exact List.mem_append_right _ List.mem_cons_self
      rcases mem_completed.mp hmem with ⟨t, ht, hevent⟩
      rcases Transfer.eq_write_of_event hevent.symm with ⟨value, rfl⟩
      exact (honly value ht).elim
  · subst hrest
    rw [List.concat_eq_append, ← List.cons_append, ← List.append_assoc] at hplan
    have hbroken : BrokenOff device plan error log :=
      ⟨done, burst, front, answers, (List.append_inj' hplan rfl).1, hlength, hevents, herror⟩
    rcases hbroken.mem hwrite with ⟨t, ok', ht, hevent⟩
    rcases Transfer.eq_write_of_event hevent with ⟨value, rfl⟩
    exact (honly value ht).elim

end

namespace Device

variable {α : Type}

/-!
# Adding the user of the stream
-/

section

variable {m : Mode} {c : ControlSet} {b : Bus}

/-- Nothing was refused and nothing transferred yet. -/
structure Fresh (m : Mode) (c : ControlSet) (b : Bus) (log : List Event) (d : Device) :
    Prop where
  sets : Sets m c log d
  bus : d.rig.bus = b
  transactions : log.filter Event.isTransaction = []
  supplied : Supplied log

/-- Clock or supplies were refused before anything was transferred. -/
def Refused (failure : Failure) : Action.Assertion Device :=
  fun log _ => (exists resource, failure = .reported (.unavailable resource)) ∧
    log.filter Event.isTransaction = [] ∧ ¬ Supplied log

theorem transacted_powerOn {transactions : List Event} :
    Action.Keeps (Transacted transactions) powerOn := by
  have hclock : forall hertz,
      Action.Keeps (Transacted transactions) (onRig (Rig.startClock hertz)) := by
    intro hertz
    apply transacted_onRig
    intro rig
    simp [Rig.run_startClock]
  have hrails : forall hertz,
      Action.Keeps (Transacted transactions) (onRig (Rig.raiseRails hertz)) := by
    intro hertz
    apply transacted_onRig
    intro rig
    cases hsupplies : rig.board.refusesSupplies with
    | true =>
        rw [Rig.run_raiseRails_of_refused hertz hsupplies]
        exact rig.lines.filter_refusalEvents _
    | false =>
        rcases Rig.coveringDelay_ready hertz with ⟨ready, hready⟩
        rw [Rig.run_raiseRails_of_granted hsupplies hready]
        exact rig.lines.filter_riseEvents ready _
  exact powerless_transacted.keeps_powerOn hclock hrails

theorem supplied_powerOn_iff {d : Device} (hboot : d.session.fastBoot = false) :
    Supplied (powerOn.run d).events <-> (powerOn.run d).result = .ok () := by
  cases hclock : d.rig.board.refusesClock with
  | true =>
      rw [run_powerOn_of_clock_refused hclock]
      simp [Board.startEvents, hclock, Event.isRefusal]
  | false =>
      cases hsupplies : d.rig.board.refusesSupplies with
      | true =>
          rw [run_powerOn_of_supplies_refused hboot hclock hsupplies]
          simp [Lines.refusalEvents, Event.isRefusal]
      | false =>
          rcases Rig.coveringDelay_ready d.config.clockRate with ⟨ready, hready⟩
          rw [run_powerOn_of_granted hboot hclock hsupplies hready]
          simp [Board.startEvents, Lines.riseEvents, hclock, Event.isRefusal]

theorem fresh_get :
    Action.Contract (onRig Rig.get) (fun log d => Fresh m c b log d ∧ d.Roomy)
      (fun _ => Fresh m c b) Action.never := by
  rintro log d ⟨hd, hroom⟩
  rw [run_onRig]
  rcases Rig.run_get_cases d.rig with ⟨kind, hget⟩ | ⟨usage, -, hget⟩
  · rcases Rig.get_answers hroom with ⟨first, hanswer⟩
    rw [hget] at hanswer
    cases hanswer
  · rw [hget]
    refine ⟨hd.sets, hd.bus, ?_, ?_⟩
    · rw [List.filter_append, hd.transactions]
      rfl
    · exact supplied_append.mpr ⟨hd.supplied, supplied_cons.mpr ⟨rfl, supplied_nil⟩⟩

theorem fresh_powerOn :
    Action.Contract powerOn (Fresh m c b) (fun _ => Fresh m c b) Refused := by
  intro log d hd
  have hboot : d.session.fastBoot = false := hd.sets.1
  have htransactions := transacted_powerOn.always (s := d) hd.transactions
  have hsupplied := supplied_powerOn_iff hboot
  rcases powerOn_cases hboot with ⟨board, es, ⟨resource, hrun, -⟩ | ⟨hrun, -⟩⟩
  · rw [hrun] at htransactions hsupplied ⊢
    refine ⟨⟨resource, rfl⟩, htransactions, ?_⟩
    intro hall
    cases hsupplied.mp (supplied_append.mp hall).2
  · rw [hrun] at htransactions hsupplied ⊢
    exact ⟨hd.sets, hd.bus, htransactions, supplied_append.mpr ⟨hd.supplied, hsupplied.mpr rfl⟩⟩

theorem fresh_acquire :
    Action.Contract acquire (fun log d => Fresh m c b log d ∧ d.Roomy)
      (fun _ => Fresh m c b) Refused := by
  apply Action.Contract.bind fresh_get.anyFailure
  intro first
  apply Action.Contract.when
  · intro _
    apply Action.Contract.onError fresh_powerOn
    · intro e log d hd
      rcases hd with ⟨hresource, htransactions, hrefused⟩
      refine ⟨hresource, ?_, ?_⟩
      · rw [List.filter_append, htransactions]
        rfl
      · exact fun hall => hrefused (supplied_append.mp hall).1
    · intro _ _ _ hd
      exact hd
  · intro _ _ _ hd
    exact hd

/-!
# Following the plan
-/

theorem supplied_onRig {x : Action Rig α} (hx : forall rig, Supplied (x.run rig).events) :
    Action.Keeps (fun log _ => Supplied log) (onRig x) :=
  Action.Contract.of_always fun _ d hlog => supplied_append.mpr ⟨hlog, hx d.rig⟩

theorem supplied_tuned {x : Action Device α} (hx : Action.Obeys Tuned x) :
    Action.Keeps (fun log _ => Supplied log) x := by
  apply hx.keeps
  intro log d es e hlog ht
  exact supplied_append.mpr
    ⟨hlog, fun e he => Event.isRefusal_of_busActivity (ht.activity e he)⟩

/-- Taking power away is never refused. -/
theorem supplied_release : Action.Keeps (fun log _ => Supplied log) release := by
  have hpowerless : Powerless (fun log _ => Supplied log) := fun _ _ _ _ hlog => hlog
  have hoff : Action.Keeps (fun log _ => Supplied log) powerOff := by
    apply hpowerless.keeps_powerOff
    · exact supplied_onRig fun _ => supplied_cons.mpr ⟨rfl, supplied_nil⟩
    · apply supplied_onRig
      intro rig
      rw [Rig.run_lowerRails]
      simp [Lines.fallEvents, Event.isRefusal]
  apply Action.Keeps.bind
  · exact supplied_onRig fun _ => supplied_cons.mpr ⟨rfl, supplied_nil⟩
  intro last
  exact hoff.when last

/-- All of the plan was transferred. -/
def Through (device : UInt8) (plan : List Burst) : Action.Assertion Device :=
  fun log _ => log.filter Event.isTransaction = completed device plan ∧ Supplied log

/-- Where a start failed: at its supplies, or within its plan. -/
def Stuck (device : UInt8) (plan : List Burst) (failure : Failure) : Action.Assertion Device :=
  fun log d => Refused failure log d ∨
    (BreaksOff device plan failure log d ∧ Supplied log)

theorem fresh_startStream (hm : m.isLinear = true) :
    Action.Contract startStream (Fresh m c b)
      (fun _ => Through b.device (m.startPlan c b.file))
      (fun failure log d => Own log d ∧
        BreaksOff b.device (m.startPlan c b.file) failure log d ∧ Supplied log) := by
  have hplan : Action.Contract startStream
      (fun log d => Sets m c log d ∧ OnPlan b.device [] b.file log d)
      (fun _ log _ => log.filter Event.isTransaction =
        completed b.device ([] ++ m.startPlan c b.file))
      (BreaksOff b.device ([] ++ m.startPlan c b.file)) := contract_startStream_onPlan m c
  apply (own_startStream.and (hplan.and (supplied_tuned tuned_startStream))).consequence
  · rintro log d ⟨hsets, rfl, htransactions, hsupplied⟩
    exact ⟨hsets.1, ⟨hsets, hsets.2.1 ▸ hm, rfl, rfl, htransactions⟩, hsupplied⟩
  · intro _ log d hd
    exact hd.2
  · rintro failure log d ⟨hown, ⟨error, rfl, hbroken⟩, hsupplied⟩
    exact ⟨hown, ⟨error, rfl, hbroken⟩, hsupplied⟩

/-- The user of a stream that did not start is removed without any transfer. -/
theorem contract_release_broken {device : UInt8} {plan : List Burst} (failure : Failure) :
    Action.Contract release
      (fun log d => Own log d ∧ BreaksOff device plan failure log d ∧ Supplied log)
      (fun _ => Stuck device plan failure) Action.never := by
  rintro log d ⟨hown, ⟨error, rfl, hbroken⟩, hsupplied⟩
  have hend := own_release log d hown
  have htransactions : Transacted _ (log ++ (release.run d).events) _ :=
    transacted_release.always (s := d) rfl
  have hsupplied := supplied_release.always (s := d) hsupplied
  cases hres : (release.run d).result with
  | error failure =>
      rw [hres] at hend
      exact hend
  | ok _ =>
      refine Or.inr ⟨⟨error, rfl, ?_⟩, hsupplied⟩
      rw [htransactions]
      exact hbroken

theorem fresh_beginStream (hm : m.isLinear = true) :
    Action.Contract beginStream (fun log d => Fresh m c b log d ∧ d.Roomy)
      (fun _ => Through b.device (m.startPlan c b.file))
      (Stuck b.device (m.startPlan c b.file)) := by
  apply contract_beginStream_of_stands (M := Fresh m c b)
    (I := Through b.device (m.startPlan c b.file))
  · intro log d hd
    have hown : Own log d := hd.1.sets.1
    exact hown.handoffStands
  · exact fresh_acquire.orElse fun _ _ _ hd => Or.inl hd
  · apply Action.Contract.onError (fresh_startStream hm)
    · intro e
      exact (contract_release_broken (.reported e)).anyFailure
    · intro kind _ _ hd
      rcases hd.2.1 with ⟨error, hfailure, -⟩
      cases hfailure
  · exact Action.Contract.update fun _ _ hd => hd

end

/-!
# What becomes of a start
-/

/--
The start succeeded if all it attempted did, and then its plan was followed to the
end.  Otherwise it failed with the first failure, and the switch was not reached
unless it is itself what failed.
-/
structure AllOrNothing (d : Device) (o : Outcome Device Unit) : Prop where
  answered : o.Answered
  ok_iff : o.result = .ok () <-> Smooth o.events
  complete : o.result = .ok () ->
    o.events.filter Event.isTransaction =
      completed d.rig.bus.device (d.mode.startPlan d.controls d.rig.bus.file)
  incomplete : forall error, o.result = .error (.reported error) ->
    ((exists resource, error = .unavailable resource) ∧
      o.events.filter Event.isTransaction = []) ∨
    BrokenOff d.rig.bus.device (d.mode.startPlan d.controls d.rig.bus.file) error
      (o.events.filter Event.isTransaction)
  switch : forall before device bytes ok after,
    o.events = before ++ .write device Register.streamControl bytes ok :: after ->
      Smooth before
  first : forall error, firstFailure? o.events = some error ->
    o.result = .error (.reported error)

section

variable {device : UInt8} {plan : List Burst} {log : List Event} {d : Device}

theorem Through.smooth (h : Through device plan log d) : Smooth log := by
  refine ⟨?_, h.2⟩
  rw [← clean_filter_iff, h.1]
  exact clean_completed device plan

theorem Refused.clean {failure : Failure} (h : Refused failure log d) : Clean log := by
  rw [← clean_filter_iff, h.2.1]
  exact clean_nil

theorem Stuck.not_smooth {failure : Failure} (h : Stuck device plan failure log d) :
    ¬ Smooth log := by
  rintro ⟨hclean, hsupplied⟩
  rcases h with hrefused | ⟨⟨error, -, hbroken⟩, -⟩
  · exact hrefused.2.2 hsupplied
  · have hfirst := hbroken.firstFailure
    rw [firstFailure?_filter, firstFailure?_eq_none_iff.mpr hclean] at hfirst
    cases hfirst

theorem Stuck.reported {failure : Failure} (h : Stuck device plan failure log d) :
    exists error, failure = .reported error := by
  rcases h with ⟨⟨resource, hfailure⟩, -⟩ | ⟨⟨error, hfailure, -⟩, -⟩
  · exact ⟨_, hfailure⟩
  · exact ⟨_, hfailure⟩

/-- A failure on the bus is the failure of the start. -/
theorem Stuck.first {failure : Failure} (h : Stuck device plan failure log d)
    {error : Error} (herror : firstFailure? log = some error) : failure = .reported error := by
  rcases h with hrefused | ⟨⟨error', rfl, hbroken⟩, -⟩
  · rw [firstFailure?_eq_none_iff.mpr hrefused.clean] at herror
    cases herror
  · have hfirst := hbroken.firstFailure
    rw [firstFailure?_filter, herror] at hfirst
    rw [Option.some.inj hfirst]

/-- A start that gets stuck has not reached its switch, or it is stuck there. -/
theorem Stuck.switch {failure : Failure}
    (h : Stuck device (plan ++ [[.write Register.streamControl Register.streaming]]) failure
      log d)
    (honly : forall value, .write Register.streamControl value ∉ plan.flatten)
    {before after : List Event} {device' : UInt8} {bytes : List UInt8} {ok : Bool}
    (hlog : log = before ++ .write device' Register.streamControl bytes ok :: after) :
    Smooth before := by
  have hfilter : log.filter Event.isTransaction = before.filter Event.isTransaction ++
      .write device' Register.streamControl bytes ok :: after.filter Event.isTransaction := by
    rw [hlog, List.filter_append]
    rfl
  rcases h with hrefused | ⟨⟨error, -, hbroken⟩, hsupplied⟩
  · rw [hrefused.2.1] at hfilter
    exact absurd hfilter.symm (List.append_ne_nil_of_right_ne_nil _ (List.cons_ne_nil _ _))
  · constructor
    · exact clean_filter_iff.mp (hbroken.clean_before_last honly hfilter)
    · rw [hlog] at hsupplied
      exact (supplied_append.mp hsupplied).1

end

section

variable {d e : Device} {es : List Event}

theorem allOrNothing_of_through
    (h : Through d.rig.bus.device (d.mode.startPlan d.controls d.rig.bus.file) es e) :
    d.AllOrNothing ⟨.ok (), e, es⟩ := by
  have hsmooth : Smooth es := h.smooth
  constructor
  · intro kind hover
    cases hover
  · exact ⟨fun _ => hsmooth, fun _ => rfl⟩
  · exact fun _ => h.1
  · intro error herror
    cases herror
  · intro before device bytes ok after hes
    change es = _ at hes
    rw [hes] at hsmooth
    exact ⟨(clean_append.mp hsmooth.1).1, (supplied_append.mp hsmooth.2).1⟩
  · intro error herror
    change firstFailure? es = _ at herror
    rw [firstFailure?_eq_none_iff.mpr hsmooth.1] at herror
    cases herror

theorem allOrNothing_of_stuck (hentry : d.session.entry ∈ Catalog.entries) {failure : Failure}
    (h : Stuck d.rig.bus.device (d.mode.startPlan d.controls d.rig.bus.file) failure es e) :
    d.AllOrNothing ⟨.error failure, e, es⟩ := by
  rcases h.reported with ⟨error, rfl⟩
  constructor
  · intro kind hover
    cases hover
  · exact ⟨fun hok => (nomatch hok), fun hsmooth => (h.not_smooth hsmooth).elim⟩
  · intro hok
    cases hok
  · intro error herror
    cases herror
    rcases h with ⟨⟨resource, hfailure⟩, htransactions, -⟩ | ⟨⟨first, hfailure, hbroken⟩, -⟩
    · cases hfailure
      exact Or.inl ⟨⟨resource, rfl⟩, htransactions⟩
    · cases hfailure
      exact Or.inr hbroken
  · intro before device bytes ok after hes
    have honly := Catalog.switch_not_mem_loadPlan hentry d.controls d.rig.bus.file
    exact Stuck.switch h honly hes
  · intro error herror
    exact congrArg Except.error (h.first herror)

theorem allOrNothing (hown : d.session.fastBoot = false)
    (hidle : d.session.streaming = false) (hentry : d.session.entry ∈ Catalog.entries)
    (hroom : d.Roomy) : d.AllOrNothing ((setStream true).run d) := by
  rw [run_setStream_on hidle]
  have hfresh : Fresh d.mode d.controls d.rig.bus [] d :=
    ⟨⟨hown, rfl, rfl⟩, rfl, rfl, supplied_nil⟩
  have hend := fresh_beginStream (Catalog.isLinear hentry) [] d ⟨hfresh, hroom⟩
  generalize beginStream.run d = o at hend
  rcases o with ⟨result, e, es⟩
  cases result with
  | ok _ => exact allOrNothing_of_through hend
  | error failure => exact allOrNothing_of_stuck hentry hend

end
end Device

open Scenario

/--
Wherever requests lead a device without a boot stage, and whatever fails then: a
stream is started as a whole or not at all.
-/
theorem allOrNothing_of_run {c : Config} {rig : Rig} (hboot : c.fastBoot = false)
    (husage : rig.usage = .zero) {history : List Moment} {d : Device}
    (hrun : Run (fun _ step => step.Exclusive) (Device.attach c rig).state history d)
    (hidle : d.session.streaming = false) (bus : Bus) (board : Board) :
    (d.amid bus board).AllOrNothing ((Device.setStream true).run (d.amid bus board)) := by
  have hinitial : Device.Unbooted [] (Device.initial c rig) := hboot
  have hattached : Device.Unbooted ([] ++ _) (Device.attach c rig).state :=
    Device.indifferent_unbooted.keeps_bringUp.always hinitial
  have hunbooted := hrun.kept_allowed (I := Device.Unbooted) hattached
    fun h => Step.unbooted_perform (Step.Exclusive.isFinal h)
  have hcounted : Device.Counted [] (d.amid bus board) := hrun.counted (fun h => h) husage
  have hstep := hrun.inStep fun h => h.catalogued
  exact Device.allOrNothing hunbooted hidle hstep.entry (Device.roomy_of_counted hcounted)

/-- The program is loaded, and of the first control only the second write fails. -/
theorem allOrNothing_of_broken_exposure :
    exists history d,
      Run (fun _ step => step.Exclusive) (Device.attach .standard .sound).state history d ∧
      d.session.streaming = false ∧ d.mode.program.writes.length = 81 ∧
      (let faulty := d.rig.bus.plan { Faults.none with single := [82] }
       let o := (Device.setStream true).run (d.amid faulty d.rig.board)
       o.result = .error (.reported (.transfer .write Register.exposureMiddle)) ∧
         (o.events.filter Event.isTransaction).drop 81 =
           [ .write 0x36 Register.exposureHigh [0] true,
             .write 0x36 Register.exposureMiddle [3] false,
             .write 0x36 Register.exposureLow [232] true ] ∧
         (d.amid faulty d.rig.board).AllOrNothing o) := by
  have hrun : Run (fun _ step => step.Exclusive) (Device.attach .standard .sound).state _ _ :=
    Run.start
      |>.next (.operation (.applyControl (.exposure 1000))) trivial
      |>.next (.operation (.setStream true)) trivial
      |>.next (.operation (.applyControl (.verticalFlip true))) trivial
      |>.next (.operation (.setStream false)) trivial
  exact ⟨_, _, hrun, rfl, rfl, rfl, rfl, allOrNothing_of_run rfl rfl hrun rfl _ _⟩

end ImageSensor
