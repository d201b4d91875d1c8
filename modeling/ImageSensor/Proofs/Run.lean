import ImageSensor.Proofs.Requests

/-!
# Runs

A run performs one step after the other, whatever they answer, as long as each
is allowed where it is performed.  Its history keeps every step with the device
it was performed on.  What a scenario records is the record of such a run.
-/

namespace ImageSensor
namespace Scenario

/-- A step about to be performed. -/
structure Moment where
  before : Device
  step : Step

namespace Moment

def outcome (m : Moment) : Outcome Device Reply :=
  m.step.perform.run m.before

def after (m : Moment) : Device :=
  m.outcome.state

def events (m : Moment) : List Event :=
  m.outcome.events

end Moment

/-- The log of a history. -/
def log (history : List Moment) : List Event :=
  history.flatMap Moment.events

/-- From a device, through a history, to another. -/
inductive Run (Allowed : Device -> Step -> Prop) (d : Device) :
    List Moment -> Device -> Prop where
  | start : Run Allowed d [] d
  | next {history : List Moment} {e : Device} :
      Run Allowed d history e -> (step : Step) -> Allowed e step ->
      Run Allowed d (history ++ [⟨e, step⟩]) (Moment.mk e step).after

section

variable {Allowed Other : Device -> Step -> Prop} {d e : Device}
  {history : List Moment}

@[simp]
theorem log_nil : log [] = [] := rfl

theorem log_append (history later : List Moment) :
    log (history ++ later) = log history ++ log later :=
  List.flatMap_append

theorem log_snoc (history : List Moment) (m : Moment) :
    log (history ++ [m]) = log history ++ m.events := by
  rw [log_append]
  simp [log]

theorem Run.before {earlier later : List Moment} {m : Moment}
    (hrun : Run Allowed d (earlier ++ m :: later) e) :
    Run Allowed d earlier m.before ∧ Allowed m.before m.step := by
  generalize hhistory : earlier ++ m :: later = history at hrun
  induction hrun generalizing later with
  | start =>
      simp at hhistory
  | next hrun step hallowed ih =>
      rcases List.eq_nil_or_concat later with hlater | ⟨front, last, hlater⟩
      · subst hlater
        rcases List.append_inj' hhistory rfl with ⟨rfl, hlast⟩
        cases hlast
        exact ⟨hrun, hallowed⟩
      · subst hlater
        rw [List.concat_eq_append, ← List.cons_append, ← List.append_assoc] at hhistory
        exact ih (List.append_inj' hhistory rfl).1

/-- What every allowed step keeps is kept by a run. -/
theorem Run.kept_allowed {I : Action.Assertion Device} {past : List Event}
    (hrun : Run Allowed d history e) (hd : I past d)
    (hstep : forall {d : Device} {step : Step}, Allowed d step -> Action.Keeps I step.perform) :
    I (past ++ log history) e := by
  induction hrun with
  | start => simpa using hd
  | next _ step hallowed ih =>
      rw [log_snoc, ← List.append_assoc]
      exact (hstep hallowed).always ih

/-- What every step keeps is kept by a run. -/
theorem Run.kept {I : Action.Assertion Device} {past : List Event}
    (hrun : Run Allowed d history e) (hd : I past d)
    (hstep : forall step : Step, Action.Keeps I step.perform) :
    I (past ++ log history) e :=
  hrun.kept_allowed hd fun _ => hstep _

/-!
# Runs and scenarios
-/

theorem Run.cons {step : Step} (hstep : Allowed d step)
    (hrun : Run Allowed (Moment.mk d step).after history e) :
    Run Allowed d (⟨d, step⟩ :: history) e := by
  induction hrun with
  | start => exact Run.next Run.start step hstep
  | next _ last hlast ih => exact Run.next ih last hlast

end

/-- The moments of performing steps in order. -/
def moments (d : Device) : List Step -> List Moment
  | [] => []
  | step :: rest => ⟨d, step⟩ :: moments (Moment.mk d step).after rest

def performAll (d : Device) : List Step -> Device
  | [] => d
  | step :: rest => performAll (Moment.mk d step).after rest

theorem map_step_moments (d : Device) (steps : List Step) :
    (moments d steps).map Moment.step = steps := by
  induction steps generalizing d with
  | nil => rfl
  | cons step rest ih =>
      rw [moments, List.map_cons, ih]

theorem run_moments {Allowed : Device -> Step -> Prop} {d : Device} {steps : List Step}
    (hallowed : forall m, m ∈ moments d steps -> Allowed m.before m.step) :
    Run Allowed d (moments d steps) (performAll d steps) := by
  induction steps generalizing d with
  | nil => exact Run.start
  | cons step rest ih =>
      apply Run.cons (hallowed ⟨d, step⟩ List.mem_cons_self)
      exact ih fun m hm => hallowed m (List.mem_cons_of_mem _ hm)

def Record.events : Record -> List Event
  | .overflowed _ events => events
  | .answered _ events _ _ => events

theorem events_run_cons (d : Device) (step : Step) (rest : List Step) :
    (run d (step :: rest)).map Record.events = [(Moment.mk d step).events] ∨
      (run d (step :: rest)).map Record.events =
        (Moment.mk d step).events ::
          (run (Moment.mk d step).after rest).map Record.events := by
  cases hres : (step.perform.run d).result with
  | ok reply =>
      cases hfinal : step.isFinal <;>
        simp [run, record, hres, hfinal, Record.events, Moment.events, Moment.after,
          Moment.outcome]
  | error failure =>
      cases failure with
      | reported error =>
          cases hfinal : step.isFinal <;>
            simp [run, record, hres, hfinal, Record.events, Moment.events,
              Moment.after, Moment.outcome]
      | overflow kind =>
          left
          simp [run, hres, Record.events, Moment.events, Moment.outcome]

/--
A scenario performs its steps as a run does, up to an overflow or until the
device is given up, and records the same events.
-/
theorem exists_run_of_scenario (d : Device) (steps : List Step) :
    exists history e,
      Run (fun _ _ => True) d history e ∧
      history.map Moment.step <+: steps ∧
      (run d steps).map Record.events = history.map Moment.events := by
  induction steps generalizing d with
  | nil => exact ⟨[], d, Run.start, List.prefix_refl [], rfl⟩
  | cons step rest ih =>
      rcases events_run_cons d step rest with hlast | hmore
      · exact ⟨[⟨d, step⟩], _, Run.next Run.start step trivial,
          List.prefix_append [step] rest, hlast⟩
      · rcases ih (Moment.mk d step).after with ⟨history, e, hrun, hsteps, hevents⟩
        refine ⟨⟨d, step⟩ :: history, e, Run.cons trivial hrun, ?_, ?_⟩
        · exact (List.prefix_cons_inj step).mpr hsteps
        · rw [hmore, hevents]
          rfl

/-!
# Managed runs

A device is attended as long as nobody runs a power sequence directly, moves the
usage count or gives up the device, and a mode is selected directly only while
there is no stream.  It is managed if that mode is one of the catalog.
-/

end Scenario

/-- No power sequence is run directly, and no mode is forced upon a stream. -/
def Operation.Attended (d : Device) : Operation -> Prop
  | .powerOn => False
  | .powerOff => False
  | .selectMode _ => d.session.streaming = false
  | _ => True

def Operation.Managed (d : Device) : Operation -> Prop
  | .powerOn => False
  | .powerOff => False
  | .selectMode entry => entry ∈ Catalog.entries ∧ d.session.streaming = false
  | _ => True

instance (d : Device) : (request : Operation) -> Decidable (request.Managed d)
  | .powerOn | .powerOff => inferInstanceAs (Decidable False)
  | .selectMode entry =>
      inferInstanceAs (Decidable (entry ∈ Catalog.entries ∧ d.session.streaming = false))
  | .setPower _ | .setStream _ | .reopen | .setMode .. | .applyControl _ | .value _
  | .range _ | .frameInterval | .mediaCode _ | .frameSize .. | .frameIntervalAt _
  | .getFormat .. | .setFormat .. | .linkConfig _ | .command _ =>
      inferInstanceAs (Decidable True)

theorem Operation.Managed.attended {d : Device} {request : Operation}
    (hmanaged : request.Managed d) : request.Attended d := by
  cases request with
  | selectMode entry => exact hmanaged.2
  | powerOn => exact hmanaged
  | powerOff => exact hmanaged
  | _ => trivial

/-- What an operation does, given what the requests that are no negotiation do. -/
theorem Operation.contract_managed {P I Q : Action.Assertion Device} {request : Operation}
    (hbefore : forall log d, P log d -> I log d) (hafter : forall log d, I log d -> Q log d)
    (hnegotiable : Device.Negotiable I)
    (hquick : forall on, Action.Keeps I (Device.switchStream on))
    (happly : forall control, request = .applyControl control ->
      Action.Contract (Device.applyControl control) P (fun _ => Q) (fun _ => Q))
    (hpower : forall on, request = .setPower on ->
      Action.Contract (Device.setPower on) P (fun _ => Q) (fun _ => Q))
    (hstream : forall on, request = .setStream on ->
      Action.Contract (Device.setStream on) P (fun _ => Q) (fun _ => Q)) :
    Action.Contract request.perform (fun log d => P log d ∧ request.Managed d)
      (fun _ => Q) (fun _ => Q) := by
  have hkeeps : forall {x : Action Device Answer}, Action.Keeps I x ->
      Action.Contract x (fun log d => P log d ∧ request.Managed d)
        (fun _ => Q) (fun _ => Q) := by
    intro x hx
    exact hx.consequence (fun log d hd => hbefore log d hd.1) (fun _ => hafter) fun _ => hafter
  cases request with
  | powerOn => exact fun _ _ hd => hd.2.elim
  | powerOff => exact fun _ _ hd => hd.2.elim
  | setPower on => exact contract_complete ((hpower on rfl).pre fun _ _ hd => hd.1)
  | setStream on => exact contract_complete ((hstream on rfl).pre fun _ _ hd => hd.1)
  | selectMode entry =>
      apply contract_complete
      apply Action.Contract.knowing (fun _ _ hd => hd.2.1)
      intro hentry
      apply (hnegotiable.selectMode hentry).consequence
      · intro log d hd
        refine ⟨hbefore log d hd.1, ?_⟩
        intro hstreaming
        exact nomatch hd.2.2.symm.trans hstreaming
      · exact fun _ => hafter
      · exact fun _ => hafter
  | applyControl control =>
      exact contract_complete ((happly control rfl).pre fun _ _ hd => hd.1)
  | command request =>
      exact hkeeps (hnegotiable.keeps_command fun on _ => hquick on).map
  | _ => exact hkeeps (keeps_perform hnegotiable trivial)

namespace Scenario

namespace Step

def Attended (d : Device) : Step -> Prop
  | .operation request => request.Attended d
  | .disturbance (.usage _) => False
  | .detach => False
  | _ => True

def Managed (d : Device) : Step -> Prop
  | .operation request => request.Managed d
  | .disturbance (.usage _) => False
  | .detach => False
  | _ => True

instance (d : Device) : (step : Step) -> Decidable (step.Managed d)
  | .operation request => inferInstanceAs (Decidable (request.Managed d))
  | .disturbance (.usage _) | .detach => inferInstanceAs (Decidable False)
  | .setting .. | .disturbance (.load _) | .disturbance (.fail ..) | .disturbance .heal
  | .peek _ => inferInstanceAs (Decidable True)

/-- What a step does, given what operations, controls and disturbances do. -/
theorem contract_managed {P I Q : Action.Assertion Device} {step : Step}
    (hbefore : forall log d, P log d -> I log d) (hafter : forall log d, I log d -> Q log d)
    (hoperation : forall request, step = .operation request ->
      Action.Contract request.perform (fun log d => P log d ∧ request.Managed d)
        (fun _ => Q) (fun _ => Q))
    (happly : forall control, step.request? = some control ->
      Action.Contract (Device.applyControl control) P (fun _ => Q) (fun _ => Q))
    (hdisturb : forall change, step = .disturbance change ->
      (forall call, change ≠ .usage call) -> Action.Keeps I (Device.onRig change.happen)) :
    Action.Contract step.perform (fun log d => P log d ∧ step.Managed d)
      (fun _ => Q) (fun _ => Q) := by
  cases step with
  | operation request => exact (hoperation request rfl).map
  | setting kind value =>
      apply contract_setting kind value
      · exact fun control hvalue => (happly control hvalue).pre fun _ _ hd => hd.1
      · exact fun log d hd => hafter log d (hbefore log d hd.1)
  | disturbance change =>
      cases change with
      | usage call => exact fun _ _ hd => hd.2.elim
      | _ =>
          apply (hdisturb _ rfl fun _ h => nomatch h).consequence
          · exact fun log d hd => hbefore log d hd.1
          · exact fun _ => hafter
          · exact fun _ => hafter
  | peek register =>
      exact Action.Contract.look fun log d hd => hafter log d (hbefore log d hd.1)
  | detach => exact fun _ _ hd => hd.2.elim

/-- The stream is switched in the sensor only. -/
def IsQuickSwitch (step : Step) : Prop :=
  exists on, step = .operation (.command (.setQuickStream on))

/-- The host gives its power back. -/
def IsWithdrawal (step : Step) : Prop :=
  step = .operation (.setPower false)

/-- A stream is stopped a second time under the boot stage's set-up. -/
def stopsAgain (h : Holders) (step : Step) : Bool :=
  step.stops h && h.boot && h.stopped

theorem Managed.attended {d : Device} {step : Step} (hmanaged : step.Managed d) :
    step.Attended d := by
  cases step with
  | operation request => exact Operation.Managed.attended hmanaged
  | disturbance change =>
      cases change with
      | usage call => exact hmanaged
      | _ => trivial
  | detach => exact hmanaged
  | _ => trivial

theorem Attended.orderly {w : Watch} {n : Nat} {h : Holders} {log : List Event}
    {d : Device} {step : Step} (hattended : step.Attended d)
    (hd : Device.Conducted w n h log d)
    (hquick : w.guarded = true -> ¬ step.IsQuickSwitch)
    (hkept : w.held = true -> ¬ step.IsWithdrawal)
    (hagain : step.stopsAgain h = false) : step.Orderly w h := by
  cases step with
  | operation request =>
      cases request with
      | powerOn => exact hattended
      | powerOff => exact hattended
      | setPower on =>
          intro hoff
          subst hoff
          rw [Bool.eq_false_iff]
          intro hheld
          exact hkept hheld rfl
      | setStream on =>
          intro hoff hstream hboot
          subst hoff
          simpa [stopsAgain, stops, Operation.stops, hstream, hboot] using hagain
      | selectMode entry => exact hd.streaming.symm.trans hattended
      | command request =>
          intro on hrequest
          subst hrequest
          rw [Bool.eq_false_iff]
          intro hguarded
          exact hquick hguarded ⟨on, rfl⟩
      | _ => trivial
  | setting kind value => trivial
  | disturbance change =>
      cases change with
      | usage call => exact hattended
      | _ => trivial
  | peek register => trivial
  | detach => exact hattended

theorem Managed.orderly {w : Watch} {n : Nat} {h : Holders} {log : List Event}
    {d : Device} {step : Step} (hmanaged : step.Managed d)
    (hd : Device.Conducted w n h log d)
    (hquick : w.guarded = true -> ¬ step.IsQuickSwitch)
    (hkept : w.held = true -> ¬ step.IsWithdrawal)
    (hagain : step.stopsAgain h = false) : step.Orderly w h :=
  hmanaged.attended.orderly hd hquick hkept hagain

end Step

namespace Moment

def stopsStream (m : Moment) : Bool :=
  m.step.stops m.before.session.holders

def stopsAgain (m : Moment) : Bool :=
  m.step.stopsAgain m.before.session.holders

theorem followed {w : Watch} {h : Holders} {past : List Event} {m : Moment}
    (hd : Device.Settled w h past m.before) (hstands : m.before.HandoffStands)
    (horderly : m.step.Orderly w h) (hheld : w.held = true -> h.host = true) :
    Device.Followed w h m.stopsStream (past ++ m.events) m.after := by
  have hholders := hd.holders
  subst hholders
  exact (m.step.contract_perform_step horderly hheld).always ⟨hd, hstands⟩

/-- Without a boot stage nothing but attendance is needed. -/
theorem settled_of_no_boot {w : Watch} {h : Holders} {past : List Event} {m : Moment}
    (hboot : h.boot = false) (hguarded : w.guarded = false) (hheld : w.held = false)
    (hd : Device.Settled w h past m.before) (hattended : m.step.Attended m.before) :
    exists h', h'.boot = false ∧ Device.Settled w h' (past ++ m.events) m.after := by
  have hstands : m.before.HandoffStands :=
    fun hfast => nomatch (hd.fastBoot.trans hboot).symm.trans hfast
  have horderly := hattended.orderly hd (fun hguards => nomatch hguarded.symm.trans hguards)
    (fun hholds => nomatch hheld.symm.trans hholds) (by simp [Step.stopsAgain, hboot])
  rcases followed hd hstands horderly (fun hholds => nomatch hheld.symm.trans hholds) with
    ⟨h', hfollows, hend⟩
  refine ⟨h', ?_, hend⟩
  rw [Bool.eq_false_iff]
  intro hb
  exact nomatch hboot.symm.trans (hfollows.boot hb)

end Moment

/--
A managed run keeps the device settled, and the boot stage's user stays until
a stream is stopped.  With a boot stage, the board must not report that the
hand-over failed, and no stream may be stopped a second time.
-/
theorem Run.settled {Allowed : Device -> Step -> Prop} {w : Watch} {h : Holders}
    {past : List Event} {d e : Device} {history : List Moment}
    (hrun : Run Allowed d history e) (hd : Device.Settled w h past d)
    (hheld : w.held = false)
    (hallowed : forall d step, Allowed d step ->
      step.Managed d ∧ (w.guarded = true -> ¬ step.IsQuickSwitch))
    (hstands : h.boot = true -> forall d step, Allowed d step -> d.HandoffStands)
    (hagain : h.boot = true -> forall m, m ∈ history -> m.stopsAgain = false) :
    exists h',
      h.Follows h' (history.any Moment.stopsStream) ∧
      Device.Settled w h' (past ++ log history) e := by
  have hnot : w.held = true -> False := by
    intro hholds
    exact nomatch hheld.symm.trans hholds
  induction hrun with
  | start =>
      refine ⟨h, Holders.Follows.refl h, ?_⟩
      simpa using hd
  | @next history e hrun step hstep ih =>
      have hearlier : h.boot = true ->
          forall m, m ∈ history -> m.stopsAgain = false := by
        intro hboot m hm
        exact hagain hboot m (List.mem_append_left _ hm)
      rcases ih hearlier with ⟨h', hfollows, he⟩
      rcases hallowed _ _ hstep with ⟨hmanaged, hquick⟩
      -- without a boot stage there is nothing to stop again
      have hnew : step.stopsAgain h' = false := by
        cases hboot : h'.boot with
        | false => simp [Step.stopsAgain, hboot]
        | true =>
            have hlast := hagain (hfollows.boot hboot) ⟨e, step⟩ (by simp)
            rw [Moment.stopsAgain, he.holders] at hlast
            exact hlast
      have horderly := hmanaged.orderly he hquick (fun hholds => (hnot hholds).elim) hnew
      have hboard : e.HandoffStands := by
        intro hfast
        have hboot := hfollows.boot (he.fastBoot.symm.trans hfast)
        exact hstands hboot _ _ hstep hfast
      rcases Moment.followed (m := ⟨e, step⟩) he hboard horderly
        (fun hholds => (hnot hholds).elim) with ⟨h'', hnext, hsettled⟩
      refine ⟨h'', ?_, ?_⟩
      · rw [List.any_append]
        simpa using hfollows.trans hnext
      · rw [log_snoc, ← List.append_assoc]
        exact hsettled

/-- A device that was attached without a boot stage never has one. -/
theorem Run.settled_of_no_boot {Allowed : Device -> Step -> Prop}
    {w : Watch} {h : Holders} {past : List Event} {d e : Device}
    {history : List Moment} (hrun : Run Allowed d history e)
    (hd : Device.Settled w h past d) (hboot : h.boot = false) (hheld : w.held = false)
    (hallowed : forall d step, Allowed d step ->
      step.Managed d ∧ (w.guarded = true -> ¬ step.IsQuickSwitch)) :
    exists h', h'.boot = false ∧ Device.Settled w h' (past ++ log history) e := by
  have hnone : h.boot = true -> False := fun hb => nomatch hboot.symm.trans hb
  rcases hrun.settled hd hheld hallowed (fun hb => (hnone hb).elim)
    (fun hb => (hnone hb).elim) with ⟨h', hfollows, he⟩
  refine ⟨h', ?_, he⟩
  rw [Bool.eq_false_iff]
  intro hb
  exact hnone (hfollows.boot hb)

end Scenario
end ImageSensor
