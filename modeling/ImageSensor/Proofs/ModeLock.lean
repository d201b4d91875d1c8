import ImageSensor.Proofs.BestFit
import ImageSensor.Proofs.InStep

/-!
# The mode under a stream

While the sensor streams, a request for a mode does nothing at all: one that
resolves to the current mode is granted without a change, since the device is in
step with that mode already, and any other is refused.  So the mode stays as long as
the host only negotiates, asks, and sets controls.
-/

namespace ImageSensor
namespace Device

/-!
# Selecting the current mode
-/

section

variable {d : Device}

theorem run_selectMode_same (h : d.selection.InStep) :
    (selectMode d.session.entry).run d = ⟨.ok (), d, []⟩ := by
  have happly : d.controls.applyMode d.session.entry.mode = .ok (d.controls, false) :=
    h.controls.applyMode_same h.wellFormed
  have hinterval : d.session.interval = d.session.entry.mode.interval := h.regular.interval
  have hframe : d.session.frameLength = d.session.entry.mode.frameLength :=
    h.regular.frameLength
  simp only [selectMode, Action.run_bind, Action.run_inspect, happly, Action.run_compute_ok,
    run_changeControls, run_changeSession, Outcome.after_mk, List.append_nil]
  simp [← hinterval, ← hframe]

theorem run_switchMode_same (h : d.selection.InStep) :
    (switchMode d.session.entry).run d = ⟨.ok (), d, []⟩ := by
  simp [switchMode, Action.run_bind, run_selectMode_same h, Outcome.after]

/-- While there is a stream nothing changes, and another mode is refused. -/
theorem run_switchMode_streaming (h : d.selection.InStep)
    (hstreaming : d.session.streaming = true) (entry : Entry) :
    (switchMode entry).run d =
      ⟨if entry = d.session.entry then .ok () else .error (.reported .busy), d, []⟩ := by
  by_cases hsame : entry = d.session.entry
  · rw [hsame, run_switchMode_same h, if_pos rfl]
  · rw [run_switchMode_of_not_admits fun hadmits => hsame (hadmits hstreaming).symm,
      if_neg hsame]

end
end Device

/-!
# Requests for a mode
-/

namespace Operation

/-- The request is for a mode. -/
def AsksMode : Operation -> Prop
  | .setMode .. => True
  | .setFormat _ .active _ _ => True
  | .command (.setHdrConfig _) => True
  | _ => False

/-- The entry that a request for a mode resolves to. -/
def target? (d : Device) : Operation -> Option Entry
  | .setMode width height => Catalog.entries.argmin (Catalog.gap width height)
  | .setFormat _ .active width height => Catalog.entries.argmin (Catalog.gap width height)
  | .command (.setHdrConfig hdr) => Catalog.find? d.mode.width d.mode.height hdr
  | _ => none

/-- All sizes that are named are in reach. -/
def InReach : Operation -> Prop
  | .setMode width height => Catalog.Near width height
  | .setFormat _ _ width height => Catalog.Near width height
  | _ => True

/-- The device is left as it was, and the answer tells where the request leads. -/
structure Unmoved {α : Type} (d : Device) (target : Option Entry) (o : Outcome Device α) :
    Prop where
  state : o.state = d
  events : o.events = []
  granted : (exists answer, o.result = .ok answer) <-> target = some d.session.entry
  busy : o.result = .error (.reported .busy) <->
    exists entry, target = some entry ∧ entry ≠ d.session.entry
  unsupported : o.result = .error (.reported .unsupportedMode) <-> target = none

section

variable {α β : Type} {d : Device} {entry : Entry} {target : Option Entry}

theorem Unmoved.of_same (a : α) : Unmoved d (some d.session.entry) ⟨.ok a, d, []⟩ := by
  constructor <;> simp

theorem Unmoved.of_busy (hother : entry ≠ d.session.entry) :
    Unmoved d (some entry) (⟨.error (.reported .busy), d, []⟩ : Outcome Device α) := by
  constructor <;> simp [hother]

theorem Unmoved.of_unsupported :
    Unmoved d none (⟨.error (.reported .unsupportedMode), d, []⟩ : Outcome Device α) := by
  constructor <;> simp

theorem Unmoved.map {x : Action Device α} (f : α -> β) (h : Unmoved d target (x.run d)) :
    Unmoved d target ((f <$> x).run d) := by
  have hresult := Action.result_map f x d
  constructor
  · rw [Action.state_map]
    exact h.state
  · rw [Action.events_map]
    exact h.events
  · rw [← h.granted, hresult]
    cases (x.run d).result <;> simp [Except.map]
  · rw [← h.busy, hresult]
    cases (x.run d).result <;> simp [Except.map]
  · rw [← h.unsupported, hresult]
    cases (x.run d).result <;> simp [Except.map]

end

section

variable {d : Device} (hstep : d.selection.InStep) (hstreaming : d.session.streaming = true)

include hstep hstreaming

theorem unmoved_switchMode (entry : Entry) :
    Unmoved d (some entry) ((Device.switchMode entry).run d) := by
  rw [Device.run_switchMode_streaming hstep hstreaming]
  by_cases hsame : entry = d.session.entry
  · rw [if_pos hsame, hsame]
    exact Unmoved.of_same ()
  · rw [if_neg hsame]
    exact Unmoved.of_busy hsame

/-- A size in reach leads to the nearest entry, which is granted or refused. -/
theorem run_setFormat_streaming {width height : UInt32} (hnear : Catalog.Near width height)
    (pad : UInt32) :
    exists entry, Catalog.entries.argmin (Catalog.gap width height) = some entry ∧
      (Device.setFormat pad .active width height).run d =
        ⟨if entry = d.session.entry then .ok (FrameFormat.ofMode entry.mode pad)
          else .error (.reported .busy), d, []⟩ := by
  rcases Catalog.bestFit_of_near hnear with ⟨entry, hleast, hfit⟩
  have hadopt : (Device.adopt pad entry .active).run d = _ :=
    Device.run_switchMode_streaming hstep hstreaming entry
  refine ⟨entry, hleast, ?_⟩
  by_cases hsame : entry = d.session.entry
  · rw [if_pos hsame] at hadopt ⊢
    exact Device.run_setFormat_of_ok hfit hadopt
  · rw [if_neg hsame] at hadopt ⊢
    exact Device.run_setFormat_of_error hfit hadopt

theorem unmoved_setFormat {width height : UInt32} (hnear : Catalog.Near width height)
    (pad : UInt32) :
    Unmoved d (Catalog.entries.argmin (Catalog.gap width height))
      ((Device.setFormat pad .active width height).run d) := by
  rcases run_setFormat_streaming hstep hstreaming hnear pad with ⟨entry, hleast, hrun⟩
  rw [hleast, hrun]
  by_cases hsame : entry = d.session.entry
  · rw [if_pos hsame, hsame]
    exact Unmoved.of_same _
  · rw [if_neg hsame]
    exact Unmoved.of_busy hsame

theorem unmoved_setMode {width height : UInt32} (hnear : Catalog.Near width height) :
    Unmoved d (Catalog.entries.argmin (Catalog.gap width height))
      ((Device.setMode width height).run d) := by
  rcases run_setFormat_streaming hstep hstreaming hnear 0 with ⟨entry, hleast, hrun⟩
  rw [hleast]
  by_cases hsame : entry = d.session.entry
  · rw [if_pos hsame] at hrun
    rw [Device.run_setMode_of_ok hrun, hsame]
    exact Unmoved.of_same _
  · rw [if_neg hsame] at hrun
    rw [Device.run_setMode_of_error hrun]
    exact Unmoved.of_busy hsame

theorem unmoved_setHdr (hdr : Hdr) :
    Unmoved d (Catalog.find? d.mode.width d.mode.height hdr) ((Device.setHdr hdr).run d) := by
  cases hfound : Catalog.find? d.mode.width d.mode.height hdr with
  | none =>
      have hrun : (Device.setHdr hdr).run d = (Action.report .unsupportedMode).run d := by
        simp [Device.setHdr, Action.run_bind, hfound]
      rw [hrun]
      exact Unmoved.of_unsupported
  | some entry =>
      have hrun : (Device.setHdr hdr).run d = (Device.switchMode entry).run d := by
        simp [Device.setHdr, Action.run_bind, hfound]
      rw [hrun]
      exact unmoved_switchMode hstep hstreaming entry

/-- A request for a mode does nothing, and says whether it is the current mode. -/
theorem unmoved_perform {request : Operation} (hasks : request.AsksMode)
    (hreach : request.InReach) :
    Unmoved d (request.target? d) (request.perform.run d) := by
  cases request with
  | setMode width height => exact (unmoved_setMode hstep hstreaming hreach).map _
  | setFormat pad target width height =>
      cases target with
      | scratch => exact hasks.elim
      | active => exact (unmoved_setFormat hstep hstreaming hreach pad).map _
  | command request =>
      cases request with
      | setHdrConfig hdr =>
          have hcommand : Device.command (.setHdrConfig hdr) =
              (fun _ => .done) <$> Device.setHdr hdr := (map_eq_pure_bind _ _).symm
          have hdone : Unmoved d _ ((Device.command (.setHdrConfig hdr)).run d) :=
            hcommand ▸ (unmoved_setHdr hstep hstreaming hdr).map _
          exact hdone.map _
      | _ => exact hasks.elim
  | _ => exact hasks.elim

end

end Operation

/-!
# The lock over a run
-/

namespace Device

variable {α : Type} {entry : Entry}

/-- Streaming in a mode. -/
def StreamsIn (entry : Entry) : Action.Assertion Device :=
  fun _ d => d.session.streaming = true ∧ d.session.entry = entry

/-- Streaming in a mode, and in step with it. -/
def Locked (entry : Entry) (log : List Event) (d : Device) : Prop :=
  StreamsIn entry log d ∧ d.selection.InStep

theorem streamsIn_onRig (x : Action Rig α) : Action.Keeps (StreamsIn entry) (onRig x) :=
  Action.Contract.of_always fun _ _ hd => hd

theorem streamsIn_powerOff : Action.Keeps (StreamsIn entry) powerOff := by
  have hpowerless : Powerless (StreamsIn entry) := fun _ _ _ _ hd => hd
  exact hpowerless.keeps_powerOff (streamsIn_onRig _) (streamsIn_onRig _)

theorem tunable_streamsIn : Tunable (StreamsIn entry) (StreamsIn entry) := by
  apply tunable_of_keeps
  · exact fun _ => Action.Contract.update fun _ _ hd => hd
  · exact streamsIn_onRig _
  · exact fun control => keeps_tuned (tuned_push control) fun _ _ _ _ _ hd => hd
  · apply (streamsIn_onRig _).bind
    intro last
    exact streamsIn_powerOff.when last

theorem locked_applyControl (request : Control) :
    Action.Keeps (Locked entry) (applyControl request) :=
  (tunable_streamsIn.keeps_applyControl request).and (chosen_applyControl request)

theorem locked_onRig (x : Action Rig α) : Action.Keeps (Locked entry) (onRig x) :=
  Action.Contract.of_always fun _ _ hd => hd

theorem negotiable_locked : Negotiable (Locked entry) where
  scratch := by
    intro format
    apply Action.Contract.update
    rintro log d ⟨hd, hstep⟩
    exact ⟨hd, hstep.entry, ⟨hstep.regular.interval, hstep.regular.frameLength⟩,
      hstep.controls⟩
  selectMode := by
    rintro other - log d ⟨hd, htake⟩
    have hsame : d.session.entry = other := htake hd.1.1
    subst hsame
    rw [run_selectMode_same hd.2]
    exact hd

end Device

namespace Scenario

/-- The host negotiates, asks or sets a control, and names no size out of reach. -/
def Step.Bargains : Step -> Prop
  | .operation request =>
      (request.Negotiates ∨ (exists control, request = .applyControl control) ∨
        exists command, request = .command command) ∧ request.InReach
  | .detach => False
  | _ => True

theorem Step.locked_perform {entry : Entry} {step : Step} (h : step.Bargains) :
    Action.Keeps (Device.Locked entry) step.perform := by
  cases step with
  | operation request =>
      rcases h.1 with hnegotiates | ⟨control, rfl⟩ | ⟨command, rfl⟩
      · have hrequest : Action.Keeps (Device.Locked entry) request.perform :=
          Operation.keeps_perform Device.negotiable_locked hnegotiates
        exact hrequest.map
      · exact (Operation.contract_complete (Device.locked_applyControl control)).map
      · have hcommand : Action.Keeps (Device.Locked entry) (Device.command command) :=
          Device.negotiable_locked.keeps_command fun _ _ => Device.locked_onRig _
        exact hcommand.map.map
  | setting kind value =>
      exact contract_setting kind value (fun request _ => Device.locked_applyControl request)
        fun _ _ hd => hd
  | disturbance change => exact Device.locked_onRig _
  | peek register => exact Action.Contract.look fun _ _ hd => hd
  | detach => exact h.elim

theorem Run.locked {Allowed : Device -> Step -> Prop} {d e : Device} {history : List Moment}
    (hrun : Run Allowed d history e)
    (hallowed : forall {d : Device} {step : Step}, Allowed d step -> step.Bargains)
    (hstep : d.selection.InStep) (hstreaming : d.session.streaming = true) :
    Device.Locked d.session.entry (log history) e := by
  have hstart : Device.Locked d.session.entry [] d := ⟨⟨hstreaming, rfl⟩, hstep⟩
  exact hrun.kept_allowed (I := Device.Locked d.session.entry) hstart
    fun h => Step.locked_perform (hallowed h)

end Scenario

open Scenario

/--
From any device that streams, as long as the host only negotiates, asks and sets
controls: the mode stays, and each request for a mode leaves everything as it was.
-/
theorem locked_of_run {c : Config} {rig : Rig} {history : List Moment} {d : Device}
    (hrun : Run (fun _ step => step.Catalogued) (Device.attach c rig).state history d)
    (hstreaming : d.session.streaming = true) {later : List Moment} {e : Device}
    (hlater : Run (fun _ step => step.Bargains) d later e) :
    e.session.entry = d.session.entry ∧ e.session.streaming = true ∧
    forall m, m ∈ later ->
      m.before.session.entry = d.session.entry ∧
      forall request, m.step = .operation request -> request.AsksMode ->
        Operation.Unmoved m.before (request.target? m.before) m.outcome := by
  have hstep := hrun.inStep fun h => h
  have hend := hlater.locked (fun h => h) hstep hstreaming
  refine ⟨hend.1.2, hend.1.1, ?_⟩
  intro m hm
  rcases List.append_of_mem hm with ⟨earlier, rest, rfl⟩
  rcases hlater.before with ⟨hearlier, hbargains⟩
  have hbefore := hearlier.locked (fun h => h) hstep hstreaming
  refine ⟨hbefore.1.2, ?_⟩
  intro request hrequest hasks
  unfold Moment.outcome
  rw [hrequest] at hbargains ⊢
  exact (Operation.unmoved_perform hbefore.2 hbefore.1.1 hasks hbargains.2).map _

/-- Where a second entry of the same size streams, the size and the scheme lead elsewhere. -/
theorem locked_in_fast :
    exists history d later e,
      Run (fun _ step => step.Catalogued) (Device.attach .booted .sound).state history d ∧
      d.session.streaming = true ∧ d.session.entry = Catalog.fast ∧
      Run (fun _ step => step.Bargains) d later e ∧
      later.map (fun m => m.outcome.result) =
        [ .ok (.answer .done),
          .error (.reported .busy),
          .error (.reported .busy),
          .error (.reported .unsupportedMode) ] ∧
      e.controls.value .exposure = 64535 ∧
      e.session.entry = Catalog.fast ∧
      forall m, m ∈ later ->
        m.before.session.entry = Catalog.fast ∧
        forall request, m.step = .operation request -> request.AsksMode ->
          Operation.Unmoved m.before (request.target? m.before) m.outcome := by
  have hrun : Run (fun _ step => step.Catalogued) (Device.attach .booted .sound).state _ _ :=
    Run.start
      |>.next (.operation (.selectMode Catalog.fast))
          (show Catalog.fast ∈ Catalog.entries by decide)
      |>.next (.operation (.applyControl (.verticalBlank 64455))) trivial
      |>.next (.operation (.applyControl (.exposure 65534))) trivial
      |>.next (.operation (.setStream true)) trivial
  have hnear : Catalog.Near 640 480 := Catalog.near_of_moderate (by decide) (by decide)
  have hlater := fun d =>
    (Run.start : Run (fun _ step => step.Bargains) d [] d)
      |>.next (.operation (.applyControl (.exposure 64535))) ⟨Or.inr (Or.inl ⟨_, rfl⟩), trivial⟩
      |>.next (.operation (.setMode 640 480)) ⟨Or.inl trivial, hnear⟩
      |>.next (.operation (.command (.setHdrConfig .off))) ⟨Or.inr (Or.inr ⟨_, rfl⟩), trivial⟩
      |>.next (.operation (.command (.setHdrConfig .two))) ⟨Or.inr (Or.inr ⟨_, rfl⟩), trivial⟩
  have hlocked := locked_of_run hrun rfl (hlater _)
  exact ⟨_, _, _, _, hrun, rfl, rfl, hlater _, rfl, rfl, hlocked.1, hlocked.2.2⟩

end ImageSensor
