import ImageSensor.Proofs.Flawless

/-!
# Requests before and after a start

A control that is asked for while nobody uses the device is only stored, and
reaches the sensor when a stream starts; one that is asked for later is put
into the sensor at once.  In flawless surroundings it makes no difference: to
ask and then start a stream is to start it and then ask.
-/

namespace ImageSensor

/-!
# Writes that replace others
-/

namespace RegisterFile

/-- Registers that were written earlier are written anew, as if only then. -/
theorem load_replaced (f : RegisterFile) {before old new after : List (UInt16 × UInt8)}
    (hsame : old.map Prod.fst = new.map Prod.fst)
    (hdistinct : (new.map Prod.fst ++ after.map Prod.fst).Nodup) :
    (f.load (before ++ old ++ after)).load new = f.load (before ++ new ++ after) := by
  have hapart : forall r, r ∈ new.map Prod.fst -> r ∉ after.map Prod.fst :=
    fun r hnew hafter => (List.nodup_append.mp hdistinct).2.2 r hnew r hafter rfl
  simp only [load_append]
  ext1
  funext r
  by_cases hnew : r ∈ new.map Prod.fst
  · rw [stored_load_of_not_mem (hapart r hnew)]
    exact stored_load_of_mem _ _ hnew
  · rw [stored_load_of_not_mem hnew]
    by_cases hafter : r ∈ after.map Prod.fst
    · exact stored_load_of_mem _ _ hafter
    · rw [stored_load_of_not_mem hafter, stored_load_of_not_mem hafter,
        stored_load_of_not_mem hnew, stored_load_of_not_mem (hsame ▸ hnew)]

variable (f : RegisterFile) (m : Mode) (c c' : ControlSet)

theorem load_exposure (hgain : c'.analogGain.value = c.analogGain.value)
    (horientation : c'.orientation = c.orientation) :
    (f.load (m.startWrites c)).load (Register.exposureWrites c'.exposure.value) =
      f.load (m.startWrites c') := by
  have hstart : forall c : ControlSet, m.startWrites c =
      m.program.writes ++ Register.exposureWrites c.exposure.value ++
        (Register.gainWrites (Gain.encode c.analogGain.value) ++
          (Register.orientationWrites c.orientation ++
            [(Register.streamControl, Register.streaming)])) := by
    intro c
    simp [Mode.startWrites, ControlSet.writes]
  rw [hstart, hstart, hgain, horientation]
  apply load_replaced
  · rfl
  · rw [Register.exposureWrites_registers, List.map_append, List.map_append,
      Register.gainWrites_registers, Register.orientationWrites_registers]
    decide

theorem load_gain (hexposure : c'.exposure.value = c.exposure.value)
    (horientation : c'.orientation = c.orientation) :
    (f.load (m.startWrites c)).load
        (Register.gainWrites (Gain.encode c'.analogGain.value)) =
      f.load (m.startWrites c') := by
  have hstart : forall c : ControlSet, m.startWrites c =
      m.program.writes ++ Register.exposureWrites c.exposure.value ++
        Register.gainWrites (Gain.encode c.analogGain.value) ++
          (Register.orientationWrites c.orientation ++
            [(Register.streamControl, Register.streaming)]) := by
    intro c
    simp [Mode.startWrites, ControlSet.writes]
  rw [hstart, hstart, hexposure, horientation]
  apply load_replaced
  · rfl
  · rw [Register.gainWrites_registers, List.map_append,
      Register.orientationWrites_registers]
    decide

theorem load_orientation (hexposure : c'.exposure.value = c.exposure.value)
    (hgain : c'.analogGain.value = c.analogGain.value) :
    (f.load (m.startWrites c)).load (Register.orientationWrites c'.orientation) =
      f.load (m.startWrites c') := by
  have hstart : forall c : ControlSet, m.startWrites c =
      m.program.writes ++ (Register.exposureWrites c.exposure.value ++
        Register.gainWrites (Gain.encode c.analogGain.value)) ++
          Register.orientationWrites c.orientation ++
            [(Register.streamControl, Register.streaming)] := by
    intro c
    simp [Mode.startWrites, ControlSet.writes]
  rw [hstart, hstart, hexposure, hgain]
  apply load_replaced
  · rfl
  · rw [Register.orientationWrites_registers]
    decide

theorem orientation_load_startWrites :
    (f.load (m.startWrites c)).orientation = c.orientation := by
  have hother : forall g : RegisterFile,
      (g.load [(Register.streamControl, Register.streaming)]).orientation =
        g.orientation := by
    intro g
    unfold orientation
    rw [get_load_of_not_mem (by decide), get_load_of_not_mem (by decide)]
  rw [Mode.startWrites, ControlSet.writes, load_append, load_append, load_append,
    hother, orientation_load]

end RegisterFile

/-!
# Asking
-/

namespace Portrait

/-- After a stored control was put in, and the exposure too if it had to move. -/
def putStored (p : Portrait) (request : Control) : Bool -> Portrait
  | false => p.put request
  | true => (p.put request).put (.exposure p.controls.exposure.value)

/-- After controls were stored for a request, and put in if there are users. -/
def keep (p : Portrait) (request : Control) (stored : ControlSet × Bool) : Portrait :=
  if p.users = 0 then { p with controls := stored.1 }
  else putStored { p with controls := stored.1 } request stored.2

/-- After a control was asked for. -/
def ask (p : Portrait) (request : Control) : Portrait :=
  if p.controls.accepts request then
    match p.controls.store request p.entry.mode with
    | .ok stored => p.keep request stored
    | .error _ => p
  else p

/-- The result of asking for a control. -/
def result (p : Portrait) (request : Control) : Except Failure Scenario.Reply :=
  if p.controls.accepts request then .ok (.answer .done)
  else .error (.reported .invalidArgument)

variable {p : Portrait} {request : Control}

theorem ask_of_refused (h : p.controls.accepts request = false) : p.ask request = p := by
  unfold ask
  rw [h]
  rfl

theorem ask_of_stored (h : p.controls.accepts request = true)
    {stored : ControlSet × Bool} (hstore : p.controls.store request p.entry.mode = .ok stored) :
    p.ask request = p.keep request stored := by
  unfold ask
  rw [h, hstore]
  rfl

/-- Whatever is put in, only operated registers and the orientation change. -/
theorem exists_putStored (p : Portrait) (request : Control) (moved : Bool) :
    exists file orientation,
      file.EqOff Register.operated p.file ∧
      p.putStored request moved = { p with file := file, orientation := orientation } := by
  cases moved with
  | false => exact ⟨_, _, p.file.eqOff_put request, rfl⟩
  | true =>
      exact ⟨_, _, ((p.file.put request).eqOff_put _).trans (p.file.eqOff_put request), rfl⟩

theorem exists_keep (p : Portrait) (request : Control) (stored : ControlSet × Bool) :
    exists file orientation,
      file.EqOff Register.operated p.file ∧
      p.keep request stored =
        { p with controls := stored.1, file := file, orientation := orientation } := by
  unfold keep
  split
  · exact ⟨_, _, RegisterFile.EqOff.refl _ _, rfl⟩
  · exact exists_putStored { p with controls := stored.1 } request stored.2

theorem Sane.ask (hp : p.Sane) (request : Control) : (p.ask request).Sane := by
  cases haccepts : p.controls.accepts request with
  | false =>
      rw [ask_of_refused haccepts]
      exact hp
  | true =>
      rcases hp.controls.store (Catalog.wellFormed hp.entry) haccepts with
        ⟨c, moved, hstore, hfits⟩
      rw [ask_of_stored haccepts hstore]
      rcases exists_keep p request (c, moved) with ⟨file, orientation, -, hkeep⟩
      rw [hkeep]
      exact ⟨hp.users, hp.entry, hfits⟩

/-- Asking changes neither users nor holders nor the mode. -/
theorem exists_ask (p : Portrait) (request : Control) :
    exists controls file orientation,
      p.ask request =
        { p with controls := controls, file := file, orientation := orientation } := by
  unfold ask
  split
  · split
    case h_1 stored _ =>
        rcases exists_keep p request stored with ⟨file, orientation, -, hkeep⟩
        exact ⟨_, _, _, hkeep⟩
    case h_2 => exact ⟨_, _, _, rfl⟩
  · exact ⟨_, _, _, rfl⟩

/-!
# Asking and starting
-/

/-- A start puts in all controls, whatever the operated registers held. -/
theorem start_of_eqOff {file : RegisterFile} (h : file.EqOff Register.operated p.file)
    (o : Orientation) :
    start { p with file := file, orientation := o } = p.start := by
  have hload : file.load (p.entry.mode.startWrites p.controls) =
      p.file.load (p.entry.mode.startWrites p.controls) := by
    rw [RegisterFile.load_eq_load_iff]
    exact h.mono fun r hr => Mode.mem_startWrites_iff.mpr (Or.inr hr)
  simp only [start, started, hload]

theorem start_of_load {c : ControlSet} {file : RegisterFile} {o : Orientation}
    (hfile : file = p.file.load (p.entry.mode.startWrites c)) (ho : o = c.orientation) :
    { p.start with controls := c, file := file, orientation := o } =
      start { p with controls := c } := by
  rw [hfile, ho]
  rfl

/-- Once a stream was started, to put in what was stored is to have started with it. -/
theorem putStored_start {c : ControlSet} {moved : Bool}
    (hstore : p.controls.store request p.entry.mode = .ok (c, moved)) :
    putStored { p.start with controls := c } request moved =
      start { p with controls := c } := by
  have hshown : p.start.file.orientation = p.controls.orientation :=
    p.file.orientation_load_startWrites p.entry.mode p.controls
  have hturned : forall o, o = c.orientation ->
      c.exposure.value = p.controls.exposure.value ->
      c.analogGain.value = p.controls.analogGain.value ->
      p.start.file.load (Register.orientationWrites o) =
        p.file.load (p.entry.mode.startWrites c) := by
    intro o ho hexposure hgain
    rw [ho]
    exact p.file.load_orientation p.entry.mode p.controls c hexposure hgain
  cases request with
  | exposure lines =>
      cases hstore
      exact start_of_load (p.file.load_exposure _ p.controls
        { p.controls with exposure := { p.controls.exposure with value := lines } } rfl rfl) rfl
  | analogGain gain =>
      cases hstore
      exact start_of_load (p.file.load_gain _ p.controls
        { p.controls with analogGain := { p.controls.analogGain with value := gain } }
        rfl rfl) rfl
  | horizontalBlank pixels =>
      cases hstore
      exact start_of_load rfl rfl
  | verticalBlank lines =>
      rcases ControlSet.limitExposure_cases hstore with ⟨exposure, rfl, hmoved⟩
      cases moved with
      | true => exact start_of_load (p.file.load_exposure _ p.controls _ rfl rfl) rfl
      | false =>
          have hsame : exposure.value = p.controls.exposure.value := by
            simpa using hmoved.symm
          refine start_of_load ?_ rfl
          show p.file.load (p.entry.mode.startWrites p.controls) = _
          unfold Mode.startWrites ControlSet.writes
          rw [hsame]
  | testPattern pattern =>
      cases hstore
      exact start_of_load rfl rfl
  | horizontalFlip on =>
      cases hstore
      have ho : { p.start.file.orientation with mirror := on } =
          { p.controls.orientation with mirror := on } := by
        rw [hshown]
      exact start_of_load (hturned _ ho rfl rfl) ho
  | verticalFlip on =>
      cases hstore
      have ho : { p.start.file.orientation with flip := on } =
          { p.controls.orientation with flip := on } := by
        rw [hshown]
      exact start_of_load (hturned _ ho rfl rfl) ho

/-- To ask and then start a stream is to start it and then ask. -/
theorem Sane.start_ask (hp : p.Sane) (request : Control) :
    (p.ask request).start = p.start.ask request := by
  cases haccepts : p.controls.accepts request with
  | false => rw [ask_of_refused haccepts, ask_of_refused (p := p.start) haccepts]
  | true =>
      rcases hp.controls.store (Catalog.wellFormed hp.entry) haccepts with
        ⟨c, moved, hstore, -⟩
      rw [ask_of_stored haccepts hstore, ask_of_stored (p := p.start) haccepts hstore]
      rcases exists_keep p request (c, moved) with ⟨file, orientation, hfile, hkeep⟩
      rw [hkeep, start_of_eqOff (p := { p with controls := c }) hfile]
      exact (putStored_start hstore).symm

/-!
# Several requests
-/

def askAll (p : Portrait) (requests : List Control) : Portrait :=
  requests.foldl ask p

theorem exists_askAll (p : Portrait) (requests : List Control) :
    exists controls file orientation,
      p.askAll requests =
        { p with controls := controls, file := file, orientation := orientation } := by
  induction requests generalizing p with
  | nil => exact ⟨_, _, _, rfl⟩
  | cons request rest ih =>
      rcases exists_ask p request with ⟨c, f, o, hask⟩
      rcases ih (p.ask request) with ⟨controls, file, orientation, hrest⟩
      refine ⟨controls, file, orientation, ?_⟩
      show (p.ask request).askAll rest = _
      rw [hrest, hask]

theorem stream_askAll (p : Portrait) (requests : List Control) :
    (p.askAll requests).stream = p.stream := by
  rcases p.exists_askAll requests with ⟨controls, file, orientation, hall⟩
  rw [hall]

theorem entry_askAll (p : Portrait) (requests : List Control) :
    (p.askAll requests).entry = p.entry := by
  rcases p.exists_askAll requests with ⟨controls, file, orientation, hall⟩
  rw [hall]

def results (p : Portrait) : List Control -> List (Except Failure Scenario.Reply)
  | [] => []
  | request :: rest => p.result request :: (p.ask request).results rest

theorem Sane.askAll (hp : p.Sane) (requests : List Control) : (p.askAll requests).Sane := by
  induction requests generalizing p with
  | nil => exact hp
  | cons request rest ih => exact ih (hp.ask request)

theorem Sane.start_askAll (hp : p.Sane) (requests : List Control) :
    (p.askAll requests).start = p.start.askAll requests := by
  induction requests generalizing p with
  | nil => rfl
  | cons request rest ih =>
      show ((p.ask request).askAll rest).start = (p.start.ask request).askAll rest
      rw [ih (hp.ask request), hp.start_ask]

theorem Sane.results_start (hp : p.Sane) (requests : List Control) :
    p.start.results requests = p.results requests := by
  induction requests generalizing p with
  | nil => rfl
  | cons request rest ih =>
      show p.result request :: (p.start.ask request).results rest = _
      rw [← hp.start_ask, ih (hp.ask request)]
      rfl

theorem results_append (p : Portrait) (early late : List Control) :
    p.results (early ++ late) = p.results early ++ (p.askAll early).results late := by
  induction early generalizing p with
  | nil => rfl
  | cons request rest ih => exact congrArg (p.result request :: ·) (ih (p.ask request))

/-- Wherever a list of requests is split by a start, it comes to the same. -/
theorem Sane.split (hp : p.Sane) (early late : List Control) :
    (p.askAll early).start.askAll late = p.start.askAll (early ++ late) ∧
      p.results early ++ (p.askAll early).start.results late =
        p.results (early ++ late) := by
  constructor
  · rw [hp.start_askAll]
    exact List.foldl_append.symm
  · rw [(hp.askAll early).results_start, results_append]

end Portrait

/-!
# What a device does when asked
-/

namespace Device

variable {p : Portrait}

theorem flawless_changeControls (controls : ControlSet) :
    Action.Contract (changeControls controls) (Matches p)
      (fun _ => Matches { p with controls := controls }) Action.never := by
  apply Action.Contract.update
  intro log d hd
  refine ⟨?_, hd.boot, hd.rig⟩
  rw [← hd.portrait]
  rfl

theorem flawless_pushStored (hlinear : p.entry.mode.isLinear = true) (request : Control)
    (moved : Bool) :
    Action.Contract (pushStored request (p.controls, moved)) (Matches p)
      (fun _ => Matches (p.putStored request moved)) Action.never := by
  cases moved with
  | false => exact flawless_push hlinear request
  | true =>
      apply Action.Contract.both (flawless_push hlinear request)
      · exact flawless_push (p := p.put request) hlinear _
      · intro _ _ _ hfalse
        exact hfalse.elim
      · intro _ _ _ hfalse
        exact hfalse

theorem flawless_deliver {n : Nat} (hp : p.users = n + 1)
    (hlinear : p.entry.mode.isLinear = true) (before : ControlSet) (request : Control)
    (moved : Bool) :
    Action.Contract (deliver before request (p.controls, moved)) (Matches p)
      (fun _ => Matches { p.putStored request moved with users := n }) Action.never := by
  have husers : (p.putStored request moved).users = n + 1 := by
    rcases p.exists_putStored request moved with ⟨file, orientation, -, hput⟩
    rw [hput, hp]
  apply Action.Contract.onError (F := Action.never)
  · apply Action.Contract.ensuring (flawless_pushStored hlinear request moved)
    · intro _
      exact flawless_release husers
    · intro _ _ _ hfalse
      exact hfalse.elim
    · intro _ _ _ hfalse
      exact hfalse
  · intro _ _ _ hfalse
    exact hfalse.elim
  · intro _ _ _ hfalse
    exact hfalse

/-- A stored control is put in if there are users, and only kept if not. -/
theorem flawless_keep (hp : p.Sane) (request : Control) (stored : ControlSet × Bool) :
    Action.Contract
      (do
        changeControls stored.1
        let inUse <- onRig Rig.getIfInUse
        Action.when inUse (deliver p.controls request stored))
      (Matches p) (fun _ => Matches (p.keep request stored)) Action.never := by
  rcases stored with ⟨controls, moved⟩
  apply Action.Contract.bind (flawless_changeControls controls)
  intro _
  apply Action.Contract.bind
    (flawless_getIfInUse (p := { p with controls := controls })
      (Nat.lt_of_succ_lt hp.room))
  intro inUse
  cases inUse with
  | false =>
      apply Action.Contract.pure
      intro log d hd
      unfold Portrait.keep
      rw [if_pos hd.1]
      exact hd.2
  | true =>
      apply Action.Contract.assuming
      intro hused
      have hrest : p.keep request (controls, moved) =
          { Portrait.putStored { p with controls := controls, users := p.users + 1 }
              request moved with users := p.users } := by
        unfold Portrait.keep
        rw [if_neg (Nat.ne_of_gt hused)]
        cases moved <;> rfl
      rw [hrest]
      exact flawless_deliver (p := { p with controls := controls, users := p.users + 1 })
        rfl hp.linear p.controls request moved

/-- A request is refused as invalid, or granted, as the portrait says. -/
theorem flawless_applyControl (hp : p.Sane) (request : Control) :
    Action.Contract (applyControl request) (Matches p)
      (fun _ log d => p.result request = .ok (.answer .done) ∧
        Matches (p.ask request) log d)
      (fun e log d => p.result request = .error e ∧ Matches (p.ask request) log d) := by
  apply Action.Contract.inspect_known fun _ _ hd => hd.controls
  apply Action.Contract.inspect_known fun _ _ hd => hd.mode
  split
  case isTrue haccepts =>
      rcases hp.controls.store (Catalog.wellFormed hp.entry) haccepts with
        ⟨c, moved, hstore, -⟩
      have hresult : p.result request = .ok (.answer .done) := if_pos haccepts
      rw [hstore, Portrait.ask_of_stored haccepts hstore]
      exact ((flawless_keep hp request (c, moved)).post
        fun _ _ _ hd => ⟨hresult, hd⟩).anyFailure
  case isFalse hrefused =>
      apply Action.Contract.report
      intro log d hd
      rw [Portrait.ask_of_refused (Bool.eq_false_iff.mpr hrefused)]
      exact ⟨if_neg hrefused, hd⟩

theorem healthy_applyControl (request : Control) :
    Action.Keeps Healthy (applyControl request) :=
  keeps_healthy fun _ hp =>
    (flawless_applyControl hp request).consequence (fun _ _ hd => hd)
      (fun _ _ _ hd => hd.2.healthy (hp.ask request))
      fun _ _ _ hd => hd.2.healthy (hp.ask request)

end Device

/-!
# Healthy runs

Whatever is asked of a healthy device it stays healthy, directly switched power
and loaded registers included, as long as the surroundings stay flawless,
nobody else uses it, and modes are those of the catalog.
-/

open Device

/-- A mode that is selected directly is one of the catalog. -/
def Operation.Listed : Operation -> Prop
  | .selectMode entry => entry ∈ Catalog.entries
  | _ => True

theorem Operation.healthy_perform (request : Operation) (hlisted : request.Listed) :
    Action.Keeps Healthy request.perform := by
  cases request with
  | powerOn =>
      apply contract_complete
      exact keeps_healthy fun _ hp => healthy_of_flawless hp flawless_powerOn
  | powerOff =>
      apply contract_complete
      exact keeps_healthy fun _ hp => healthy_of_flawless hp flawless_powerOff
  | setPower on => exact contract_complete (healthy_setPower on)
  | setStream on => exact contract_complete (healthy_setStream on)
  | selectMode entry => exact contract_complete (healthy_selectMode hlisted)
  | applyControl request => exact contract_complete (healthy_applyControl request)
  | command request =>
      exact (negotiable_healthy.keeps_command fun on _ => healthy_switchStream on).map
  | _ => exact keeps_perform negotiable_healthy trivial

namespace Scenario

/-- The step plans no fault, and moves no usage count. -/
def Step.Flawless : Step -> Prop
  | .operation request => request.Listed
  | .disturbance (.fail ..) => False
  | .disturbance (.usage _) => False
  | .detach => False
  | _ => True

theorem Step.healthy_perform (step : Step) (hstep : step.Flawless) :
    Action.Keeps Healthy step.perform := by
  have hrig : forall f : Rig -> Rig,
      (forall rig, rig.Flawless -> (f rig).Flawless ∧ (f rig).usage = rig.usage) ->
      Action.Keeps Healthy (onRig (Action.update f >>= fun _ => pure (Reply.answer .done))) := by
    intro f hf log d hd
    rcases hd with ⟨p, hp, hd⟩
    rcases hf d.rig hd.rig with ⟨hflawless, husage⟩
    refine ⟨{ p with file := (f d.rig).bus.file }, ⟨hp.users, hp.entry, hp.controls⟩,
      ?_, hd.boot, hflawless⟩
    rw [← hd.portrait]
    show Portrait.mk (f d.rig).usage.count.toNat .. = _
    rw [husage]
    rfl
  cases step with
  | operation request => exact (request.healthy_perform hstep).map
  | setting kind value =>
      exact contract_setting kind value (fun request _ => healthy_applyControl request)
        fun _ _ hd => hd
  | disturbance change =>
      cases change with
      | load registers => exact hrig _ fun rig h => ⟨⟨h.faults, h.clock, h.supplies⟩, rfl⟩
      | heal => exact hrig _ fun rig h => ⟨⟨rfl, h.clock, h.supplies⟩, rfl⟩
      | fail faults board => exact hstep.elim
      | usage call => exact hstep.elim
  | peek register => exact Action.Contract.look fun _ _ hd => hd
  | detach => exact hstep.elim

theorem Run.healthy {d e : Device} {past : List Event} {history : List Moment}
    (hrun : Run (fun _ step => step.Flawless) d history e) (hd : Healthy past d) :
    Healthy (past ++ log history) e := by
  induction hrun with
  | start => simpa using hd
  | next _ step hstep ih =>
      rw [log_snoc, ← List.append_assoc]
      exact (step.healthy_perform hstep).always ih

end Scenario

theorem Device.flawless_bringUp {p : Portrait} :
    Action.Contract bringUp (Matches p) (fun _ => Matches p) fun _ => Matches p := by
  have hidentify : Action.Contract identify (Matches p) (fun _ => Matches p)
      fun _ => Matches p := by
    apply Action.Contract.bind (flawless_onBus (Bus.flawless_readPair _)).anyFailure
    intro id
    split
    case isTrue => exact Action.Contract.pure fun _ _ hd => hd.2
    case isFalse => exact Action.Contract.report fun _ _ hd => hd.2
  apply Action.Contract.bind flawless_powerOn.anyFailure
  intro _
  apply Action.Contract.inspect
  intro session
  split
  case isTrue hboot =>
      intro log d hd
      rw [← hd.2, hd.1.boot] at hboot
      cases hboot
  case isFalse =>
      apply Action.Contract.bind (M := fun _ => Matches p)
      · exact ((hidentify.onError (fun _ => flawless_powerOff.anyFailure)
          fun _ _ _ hd => hd)).pre fun _ _ hd => hd.1
      · intro _
        exact flawless_powerOff.anyFailure

theorem Device.healthy_attach {c : Config} {rig : Rig} (hboot : c.fastBoot = false)
    (husage : rig.usage = .zero) (hrig : rig.Flawless) :
    Healthy (attach c rig).events (attach c rig).state := by
  let p : Portrait :=
    { users := 0
      host := false
      stream := false
      entry := Catalog.first
      controls := .initial c.orientation
      file := rig.bus.file
      orientation := c.orientation }
  have hp : p.Sane := ⟨rfl, List.mem_cons_self, ControlSet.fits_initial _⟩
  have hstart : Matches p [] (initial c rig) := by
    refine ⟨?_, hboot, ⟨hrig.faults, hrig.clock, hrig.supplies⟩⟩
    show Portrait.mk rig.usage.count.toNat .. = p
    rw [husage]
    rfl
  exact (flawless_bringUp.always hstart).healthy hp

/-!
# Lists of requests, split by a start
-/

namespace Scenario

def asks (requests : List Control) : List Step :=
  requests.map fun request => .operation (.applyControl request)

/-- The results of steps performed in order. -/
def results (d : Device) (steps : List Step) : List (Except Failure Reply) :=
  (moments d steps).map fun m => m.outcome.result

/-- The device once some controls were asked for and then a stream was started. -/
def startedAfter (d : Device) (early : List Control) : Device :=
  performAll d (asks early ++ [.operation (.setStream true)])

section

variable {p : Portrait} {d : Device} {past : List Event}

theorem asked (hp : p.Sane) (hd : Matches p past d) (request : Control) :
    let m := Moment.mk d (.operation (.applyControl request))
    m.outcome.result = p.result request ∧
      Matches (p.ask request) (past ++ m.events) m.after := by
  have hask : Action.Contract (Step.operation (.applyControl request)).perform (Matches p)
      (fun a log d => p.result request = .ok a ∧ Matches (p.ask request) log d)
      (fun e log d => p.result request = .error e ∧ Matches (p.ask request) log d) := by
    show Action.Contract (Reply.answer <$> Operation.complete (applyControl request)) _ _ _
    rw [Operation.complete_eq_map, Functor.map_map, map_eq_pure_bind]
    apply Action.Contract.bind (flawless_applyControl hp request)
    intro _
    exact Action.Contract.pure fun _ _ hd => hd
  intro m
  have hend := hask past d hd
  cases hres : m.outcome.result with
  | ok a =>
      change ((Step.operation (.applyControl request)).perform.run d).result = _ at hres
      rw [hres] at hend
      exact ⟨hend.1.symm, hend.2⟩
  | error e =>
      change ((Step.operation (.applyControl request)).perform.run d).result = _ at hres
      rw [hres] at hend
      exact ⟨hend.1.symm, hend.2⟩

theorem asked_all (hp : p.Sane) (hd : Matches p past d) (requests : List Control) :
    results d (asks requests) = p.results requests ∧
      exists log, Matches (p.askAll requests) log (performAll d (asks requests)) := by
  induction requests generalizing p d past with
  | nil => exact ⟨rfl, past, hd⟩
  | cons request rest ih =>
      rcases asked hp hd request with ⟨hresult, hnext⟩
      rcases ih (hp.ask request) hnext with ⟨hresults, hend⟩
      exact ⟨List.cons_eq_cons.mpr ⟨hresult, hresults⟩, hend⟩

theorem performAll_append (d : Device) (steps later : List Step) :
    performAll d (steps ++ later) = performAll (performAll d steps) later := by
  induction steps generalizing d with
  | nil => rfl
  | cons step rest ih => exact ih _

theorem started_after (hp : p.Sane) (hidle : p.stream = false) (hd : Matches p past d)
    (early : List Control) :
    results (performAll d (asks early)) [.operation (.setStream true)] =
        [.ok (.answer .done)] ∧
      exists log, Matches (p.askAll early).start log (startedAfter d early) := by
  rcases (asked_all hp hd early).2 with ⟨log, hasked⟩
  have hsane := hp.askAll early
  have hidle : (p.askAll early).stream = false := (p.stream_askAll early).trans hidle
  have hset : Action.Contract (Step.operation (.setStream true)).perform
      (Matches (p.askAll early))
      (fun a log d => a = .answer .done ∧ Matches (p.askAll early).start log d)
      Action.never := by
    show Action.Contract (Reply.answer <$> Operation.complete (setStream true)) _ _ _
    rw [Operation.complete_eq_map, Functor.map_map, map_eq_pure_bind]
    apply Action.Contract.bind
    · apply contract_setStream_on fun _ _ hd => hd.streaming.trans hidle
      exact flawless_beginStream hsane.linear (Nat.lt_of_succ_lt hsane.room)
    · intro _
      exact Action.Contract.pure fun _ _ hd => ⟨rfl, hd⟩
  have hend := hset log _ hasked
  unfold startedAfter results
  rw [performAll_append]
  cases hres : ((Step.operation (.setStream true)).perform.run
      (performAll d (asks early))).result with
  | ok a =>
      rw [hres] at hend
      rcases hend with ⟨rfl, hmatches⟩
      exact ⟨List.cons_eq_cons.mpr ⟨hres, rfl⟩, _, hmatches⟩
  | error e =>
      rw [hres] at hend
      exact hend.elim

/-- What a list of requests comes to is told by the portrait before all of it. -/
theorem split_run (hp : p.Sane) (hidle : p.stream = false) (hd : Matches p past d)
    (early late : List Control) :
    results d (asks early) ++ results (startedAfter d early) (asks late) =
        p.results (early ++ late) ∧
      exists log, Matches (p.start.askAll (early ++ late)) log
        (performAll (startedAfter d early) (asks late)) := by
  rcases hp.split early late with ⟨hportrait, hresults⟩
  rcases (started_after hp hidle hd early).2 with ⟨log, hstarted⟩
  have hidle : (p.askAll early).stream = false := (p.stream_askAll early).trans hidle
  rcases asked_all ((hp.askAll early).start hidle) hstarted late with ⟨hlate, hend⟩
  rw [(asked_all hp hd early).1, hlate, ← hresults, ← hportrait]
  exact ⟨rfl, hend⟩

end

/--
Two ways to split a list of requests by the start of a stream give each request
the same result, and lead to the same controls, orientation, state and registers.
-/
theorem split_anywhere {c : Config} {rig : Rig} (hboot : c.fastBoot = false)
    (husage : rig.usage = .zero) (hrig : rig.Flawless) {history : List Moment} {d : Device}
    (hrun : Run (fun _ step => step.Flawless) (attach c rig).state history d)
    (hidle : d.session.streaming = false) {early late early' late' : List Control}
    (hsame : early ++ late = early' ++ late') :
    let one := performAll (startedAfter d early) (asks late)
    let other := performAll (startedAfter d early') (asks late')
    results d (asks early) ++ results (startedAfter d early) (asks late) =
        results d (asks early') ++ results (startedAfter d early') (asks late') ∧
      one.controls = other.controls ∧
      one.session.orientation = other.session.orientation ∧
      one.session.powerState = .streaming d.session.entry ∧
      other.session.powerState = .streaming d.session.entry ∧
      one.rig.bus.file = other.rig.bus.file := by
  rcases hrun.healthy (healthy_attach hboot husage hrig) with ⟨p, hp, hd⟩
  have hstream : p.stream = false := hd.streaming.symm.trans hidle
  rcases split_run hp hstream hd early late with ⟨hresults, log, hone⟩
  rcases split_run hp hstream hd early' late' with ⟨hresults', log', hother⟩
  rw [← hsame] at hresults' hother
  have hstate : forall {log e}, Matches (p.start.askAll (early ++ late)) log e ->
      e.session.powerState = .streaming d.session.entry := by
    intro log e he
    unfold Session.powerState
    rw [he.streaming, he.entry, Portrait.stream_askAll, Portrait.entry_askAll, hd.entry]
    rfl
  intro one other
  refine ⟨hresults.trans hresults'.symm, hone.controls.trans hother.controls.symm, ?_,
    hstate hone, hstate hother, ?_⟩
  · exact congrArg Portrait.orientation (hone.portrait.trans hother.portrait.symm)
  · exact congrArg Portrait.file (hone.portrait.trans hother.portrait.symm)

/-- Three requests before a start, one of them refused, come to the same as after it. -/
theorem split_three_requests :
    exists requests : List Control,
      results (attach .standard .sound).state (asks requests) =
          [.ok (.answer .done), .error (.reported .invalidArgument), .ok (.answer .done)] ∧
        results (attach .standard .sound).state (asks requests) ++
            results (startedAfter (attach .standard .sound).state requests) (asks []) =
          results (attach .standard .sound).state (asks []) ++
            results (startedAfter (attach .standard .sound).state []) (asks requests) ∧
        (performAll (startedAfter (attach .standard .sound).state requests)
            (asks [])).rig.bus.file =
          (performAll (startedAfter (attach .standard .sound).state [])
            (asks requests)).rig.bus.file := by
  have hrig : Rig.sound.Flawless := ⟨rfl, rfl, rfl⟩
  have hidle : (attach .standard .sound).state.session.streaming = false := rfl
  have hsame : forall requests : List Control, requests ++ [] = [] ++ requests :=
    List.append_nil
  have hsplit := fun requests =>
    split_anywhere (c := .standard) rfl rfl hrig Run.start hidle (hsame requests)
  refine ⟨[.verticalBlank 200, .exposure 5000, .horizontalFlip true], rfl, ?_, ?_⟩
  · exact (hsplit _).1
  · exact (hsplit _).2.2.2.2.2

end Scenario
end ImageSensor
