import ImageSensor.Proofs.Accounting
import ImageSensor.Proofs.Selection
import ImageSensor.Proofs.Transfers

/-!
# Starting a stream and stopping it

Without a boot stage, starting a stream and stopping it again leads back to
where the device was: with the same choices of the host, the same users and
the same power.  This holds whatever the surroundings refuse meanwhile, and
whether or not the stream started.  A stream that did start is stopped with a
single transaction, and its outcome is the answer.
-/

namespace ImageSensor

/-- The action did not end in an overflow. -/
def Outcome.Answered {σ α : Type} (o : Outcome σ α) : Prop :=
  forall kind, o.result ≠ .error (.overflow kind)

theorem Action.Contract.answered {σ α : Type} {x : Action σ α}
    {P I : Action.Assertion σ} {Q : α -> Action.Assertion σ}
    (hx : Action.Contract x P Q (Action.reported I)) {log : List Event} {s : σ}
    (hs : P log s) : (x.run s).Answered := by
  intro kind hover
  exact hx.failure hs hover

namespace Device

variable {α : Type}

/-!
# A device on its own set-up

Nothing a boot stage set up is in use.  Then only the usage count could ever
overflow.
-/

/-- No boot stage's set-up is in use. -/
def Own : Action.Assertion Device :=
  fun _ d => d.session.fastBoot = false

/-- The usage count has room for another user. -/
def Roomy (d : Device) : Prop :=
  d.rig.usage.count.toNat + 1 < UInt32.size

theorem own_get :
    Action.Contract (onRig Rig.get) (fun log d => Own log d ∧ d.Roomy) (fun _ => Own)
      Action.never := by
  intro log d hd
  rcases Rig.get_answers hd.2 with ⟨first, hget⟩
  rw [run_onRig, hget]
  exact hd.1

theorem own_powerOn :
    Action.Contract powerOn Own (fun _ => Own) (Action.reported Own) := by
  intro log d hd
  rcases powerOn_cases hd with ⟨board, es, ⟨resource, hrun, -⟩ | ⟨hrun, -⟩⟩
  · rw [hrun]
    exact hd
  · rw [hrun]
    exact hd

theorem own_acquire :
    Action.Contract acquire (fun log d => Own log d ∧ d.Roomy) (fun _ => Own)
      (Action.reported Own) := by
  apply Action.Contract.bind own_get.anyFailure
  intro first
  apply Action.Contract.when
  · intro _
    apply Action.Contract.onError own_powerOn
    · intro _ _ _ hd
      exact hd
    · intro _ _ _ hfalse
      exact hfalse
  · intro _ _ _ hd
    exact hd

theorem own_release : Action.Contract release Own (fun _ => Own) Action.never := by
  have hput : Action.Contract (onRig Rig.put) Own (fun _ => Own) Action.never :=
    fun _ _ hd => hd
  apply Action.Contract.bind hput
  intro last
  apply Action.Contract.when
  · intro _ log d hd
    have hboot : d.session.fastBoot = true -> d.session.stoppedOnce = true :=
      fun hfast => nomatch hd.symm.trans hfast
    rcases powerOff_cases hboot with ⟨es, hrun, -⟩
    rw [hrun]
    rfl
  · intro _ _ _ hd
    exact hd

theorem own_startStream :
    Action.Contract startStream Own (fun _ => Own) (Action.reported Own) := by
  apply tuned_startStream.contract
  intro log d es e hd ht
  rcases ht.same with ⟨bus, programmed, frameLength, orientation, rfl⟩
  exact hd

theorem Own.handoffStands {log : List Event} {d : Device} (hd : Own log d) :
    d.HandoffStands :=
  fun hfast => nomatch hd.symm.trans hfast

theorem own_beginStream :
    Action.Contract beginStream (fun log d => Own log d ∧ d.Roomy) (fun _ => Own)
      (Action.reported Own) := by
  apply contract_beginStream_of_stands (fun _ _ hd => hd.1.handoffStands) own_acquire
    (I := Own)
  · apply Action.Contract.onError own_startStream
    · intro _
      exact own_release.anyFailure
    · intro _ _ _ hfalse
      exact hfalse
  · exact Action.Contract.update fun _ _ hd => hd

/-!
# Transactions of a stop
-/

/-- These are the transactions so far. -/
def Transacted (transactions : List Event) : Action.Assertion Device :=
  fun log _ => log.filter Event.isTransaction = transactions

section

variable {transactions : List Event}

theorem transacted_onRig {x : Action Rig α}
    (hx : forall rig, (x.run rig).events.filter Event.isTransaction = []) :
    Action.Keeps (Transacted transactions) (onRig x) := by
  apply Action.Contract.of_always
  intro log d hd
  show (log ++ (x.run d.rig).events).filter Event.isTransaction = transactions
  rw [List.filter_append, hx d.rig, List.append_nil]
  exact hd

theorem transacted_lowerRails :
    Action.Keeps (Transacted transactions) (onRig Rig.lowerRails) := by
  apply transacted_onRig
  intro rig
  rw [Rig.run_lowerRails]
  exact rig.lines.filter_fallEvents _

theorem powerless_transacted : Powerless (Transacted transactions) :=
  fun _ _ _ _ hd => hd

theorem transacted_powerOff : Action.Keeps (Transacted transactions) powerOff :=
  powerless_transacted.keeps_powerOff (transacted_onRig fun _ => rfl) transacted_lowerRails

theorem transacted_release : Action.Keeps (Transacted transactions) release := by
  apply (transacted_onRig fun _ => rfl).bind
  intro last
  exact transacted_powerOff.when last

end

/-- The transaction that puts the sensor into standby. -/
def standbyWrite (device : UInt8) (ok : Bool) : Event :=
  .write device Register.streamControl [Register.standby] ok

/-- The answer to a stop whose transaction ended like that. -/
def standbyAnswer (ok : Bool) : Except Failure Unit :=
  if ok then .ok () else .error (.reported (.transfer .write Register.streamControl))

theorem run_standby (d : Device) :
    exists bus ok,
      (switchStream false).run d =
        ⟨standbyAnswer ok, d.withBus bus, [standbyWrite d.rig.bus.device ok]⟩ := by
  have hswitch : switchStream false =
      onBus (Bus.writeByte Register.streamControl Register.standby) := rfl
  rw [hswitch, run_onBus]
  exists ((Bus.writeByte Register.streamControl Register.standby).run d.rig.bus).state
  cases hfails : d.rig.bus.failsNext .write Register.streamControl with
  | true =>
      exists false
      rw [Bus.run_writeByte_of_failure hfails]
      rfl
  | false =>
      exists true
      rw [Bus.run_writeByte hfails]
      rfl

/-- The standby write was attempted, and the outcome is the answer. -/
def Stopped (transactions : List Event) (device : UInt8) (answer : Except Failure Unit) :
    Action.Assertion Device :=
  fun log d => exists ok,
    answer = standbyAnswer ok ∧
      Transacted (transactions ++ [standbyWrite device ok]) log d

theorem contract_leaveStream_stopped {transactions : List Event} {device : UInt8}
    {answer : Except Failure Unit} :
    Action.Contract leaveStream
      (fun log d => Own log d ∧ Stopped transactions device answer log d)
      (fun _ => Stopped transactions device answer) Action.never := by
  intro log d hd
  rcases hd with ⟨hown, ok, hanswer, hlog⟩
  have hrelease : Action.Keeps (Transacted (transactions ++ [standbyWrite device ok]))
      release := transacted_release
  have hleave : Action.Contract leaveStream _ _ _ :=
    Action.Contract.bind (own_release.and hrelease) fun _ =>
      Action.Contract.update
        (Q := Transacted (transactions ++ [standbyWrite device ok])) fun _ _ hd => hd.2
  have hend := hleave log d ⟨hown, hlog⟩
  cases hres : (leaveStream.run d).result with
  | ok a =>
      rw [hres] at hend
      exact ⟨ok, hanswer, hend⟩
  | error e =>
      rw [hres] at hend
      exact hend.1.elim

theorem contract_endStream_standby (transactions : List Event) (device : UInt8) :
    Action.Contract endStream
      (fun log d => Own log d ∧ Transacted transactions log d ∧ d.rig.bus.device = device)
      (fun a => Stopped transactions device (.ok a))
      (fun e => Stopped transactions device (.error e)) := by
  apply Action.Contract.ensuring
    (M := fun a log d => Own log d ∧ Stopped transactions device (.ok a) log d)
    (F := fun e log d => Own log d ∧ Stopped transactions device (.error e) log d)
  · intro log d hd
    rcases hd with ⟨hown, hlog, hdevice⟩
    rcases run_standby d with ⟨bus, ok, hrun⟩
    have hnext : Transacted (transactions ++ [standbyWrite device ok])
        (log ++ [standbyWrite device ok]) (d.withBus bus) := by
      unfold Transacted at hlog ⊢
      rw [List.filter_append, hlog]
      rfl
    rw [run_stopStream hown, hrun, hdevice]
    cases ok with
    | true => exact ⟨hown, true, rfl, hnext⟩
    | false => exact ⟨hown, false, rfl, hnext⟩
  · intro a
    exact contract_leaveStream_stopped.anyFailure
  · intro e
    exact contract_leaveStream_stopped.anyFailure
  · intro kind log d hd
    exact hd.2

end Device

/-!
# There and back
-/

namespace Holders

theorem restored {h : Holders} (hboot : h.boot = false) (hstream : h.stream = false) :
    { Holders.stopping { h with stream := true } with stream := false }.settled = h := by
  rcases h with ⟨host, stream, boot, stopped⟩
  cases hboot
  cases hstream
  cases host <;> rfl

end Holders

namespace Device

/-- The device among other surroundings. -/
def amid (d : Device) (bus : Bus) (board : Board) : Device :=
  (d.withBus bus).withBoard board

/-- Idle, with the same choices, users and power. -/
structure Restored (d e : Device) : Prop where
  idle : e.session.streaming = false
  selection : e.selection = d.selection
  hostPower : e.session.hostPower = d.session.hostPower
  usage : e.rig.usage = d.rig.usage
  active : e.session.active = d.session.active

section

variable {w : Watch} {h : Holders} {log log' : List Event} {d e : Device}

theorem Settled.amid (hd : Settled w h log d) (bus : Bus) (board : Board) :
    Settled w h log (d.amid bus board) :=
  ⟨hd.users, hd.active, hd.programmed, hd.holders, hd.boot, hd.streamed, hd.lines,
    hd.leads, hd.steady⟩

theorem Settled.restored (hd : Settled w h log d) (he : Settled w h log' e)
    (hidle : h.stream = false) (hselection : e.selection = d.selection) :
    Restored d e where
  idle := he.streaming.trans hidle
  selection := hselection
  hostPower := he.hostPower.trans hd.hostPower.symm
  usage := UsageCount.eq_of_toNat (he.users.trans hd.users.symm)
  active := he.active.trans hd.active.symm

/-- The stream was started, or nothing was left behind. -/
theorem Settled.started (hd : Settled w h log d) (hheld : w.held = false)
    (hboot : h.boot = false) (hidle : h.stream = false)
    (hregular : d.selection.Regular) :
    let started := (setStream true).run d
    started.Answered ∧ started.state.selection = d.selection ∧
      (started.result = .ok () ->
        Settled w { h with stream := true } (log ++ started.events) started.state) ∧
      (forall e, started.result = .error e ->
        Settled w h (log ++ started.events) started.state) := by
  have hown : Own log d := hd.fastBoot.trans hboot
  have hroom : d.Roomy := by
    unfold Roomy
    rw [hd.users, Holders.users, Holders.waiting, hboot, hidle]
    have hhost := h.host.toNat_le
    have hsize : UInt32.size = 4294967296 := rfl
    simp only [Bool.toNat_false, Bool.false_and]
    omega
  have hunheld : w.held = true -> h.host = true := by
    intro hholds
    cases hheld.symm.trans hholds
  have hbegin := contract_beginStream (w := w) hidle hunheld
  have hsame : Chosen (fun s => s = d.selection) log d := rfl
  have hreset : forall s, s = d.selection -> s.resetFrame = d.selection := by
    intro s hs
    rw [hs, hregular.resetFrame_eq]
  have hchosen := (chosen_beginStream hreset).always hsame
  rw [run_setStream_on (hd.streaming.trans hidle)]
  refine ⟨own_beginStream.answered ⟨hown, hroom⟩, hchosen, ?_, ?_⟩
  · exact hbegin.result ⟨hd, hown.handoffStands⟩
  · intro e
    exact hbegin.failure ⟨hd, hown.handoffStands⟩

/-- A stream that is stopped leaves nothing behind, and its last write is the answer. -/
theorem Settled.stopped (hd : Settled w { h with stream := true } log d)
    (hheld : w.held = false) (hboot : h.boot = false) (hidle : h.stream = false) :
    let stopped := (setStream false).run d
    stopped.state.selection = d.selection ∧
      Settled w h (log ++ stopped.events) stopped.state ∧
      exists ok,
        stopped.result = standbyAnswer ok ∧
        stopped.events.filter Event.isTransaction = [standbyWrite d.rig.bus.device ok] := by
  have hown : forall past, Own past d := fun _ => hd.fastBoot.trans hboot
  have hend := contract_endStream (w := w) (h := { h with stream := true }) rfl
    (fun hboots => nomatch hboot.symm.trans hboots)
    fun hholds => nomatch hheld.symm.trans hholds
  rw [Holders.restored hboot hidle] at hend
  rw [run_setStream_off hd.streaming]
  refine ⟨?_, hend.always hd, ?_⟩
  · have hsame : Chosen (fun s => s = d.selection) log d := rfl
    exact chosen_endStream.always hsame
  · have hstandby := contract_endStream_standby [] d.rig.bus.device [] d ⟨hown [], rfl, rfl⟩
    cases hres : (endStream.run d).result with
    | ok a =>
        rw [hres] at hstandby
        exact hstandby
    | error e =>
        rw [hres] at hstandby
        exact hstandby

end
end Device

open Scenario Device

/--
From any idle state that requests lead to, a stream that is started and
stopped, each among whatever surroundings, leaves the device as it was.
-/
theorem restored_of_round_trip {c : Config} {rig : Rig} (hboot : c.fastBoot = false)
    (husage : rig.usage = .zero) (hok : (Device.attach c rig).result = .ok ())
    {history : List Moment} {d : Device}
    (hrun : Run (fun d step => step.Managed d) (Device.attach c rig).state history d)
    (hidle : d.session.streaming = false) (bus bus' : Bus) (board board' : Board) :
    let started := (setStream true).run (d.amid bus board)
    let stopped := (setStream false).run (started.state.amid bus' board')
    started.Answered ∧ stopped.Answered ∧
      (started.result = .ok () <-> started.state.session.streaming = true) ∧
      Restored d stopped.state ∧
      (started.state.session.streaming = true ->
        exists ok,
          stopped.result = standbyAnswer ok ∧
          stopped.events.filter Event.isTransaction = [standbyWrite bus'.device ok]) := by
  have hstart := Device.settled_attach false hboot husage hok
  rcases hrun.settled_of_no_boot hstart rfl rfl
    (fun _ _ hstep => ⟨hstep, fun hfalse => nomatch hfalse⟩) with ⟨h, hnone, hd⟩
  have hstream : h.stream = false := hd.streaming.symm.trans hidle
  intro started stopped
  rcases (hd.amid bus board).started rfl hnone hstream hrun.regular with
    ⟨hanswered, hselection, hgranted, hrefused⟩
  change started.Answered at hanswered
  change started.state.selection = d.selection at hselection
  cases hres : started.result with
  | ok _ =>
      have hstarted := hgranted hres
      have hstreaming : started.state.session.streaming = true := hstarted.streaming
      rcases (hstarted.amid bus' board').stopped rfl hnone hstream with
        ⟨hkept, hsettled, ok, hanswer, hwrites⟩
      have hstopped : stopped.Answered := by
        intro kind hover
        cases ok <;> cases hanswer.symm.trans hover
      refine ⟨hanswered, hstopped, ⟨fun _ => hstreaming, fun _ => rfl⟩, ?_, ?_⟩
      · exact hd.restored hsettled hstream (hkept.trans hselection)
      · intro _
        exact ⟨ok, hanswer, hwrites⟩
  | error e =>
      have hstarted := hrefused e hres
      have hstreaming : started.state.session.streaming = false :=
        hstarted.streaming.trans hstream
      have hnot : started.state.session.streaming = true -> False :=
        fun h => nomatch hstreaming.symm.trans h
      have hnothing : stopped = ⟨.ok (), started.state.amid bus' board', []⟩ :=
        run_setStream_same hstreaming
      refine ⟨hanswered, ?_, ⟨fun h => (nomatch h), fun h => (hnot h).elim⟩, ?_, ?_⟩
      · rw [hnothing]
        intro kind hover
        cases hover
      · rw [hnothing]
        exact hd.restored (hstarted.amid bus' board') hstream hselection
      · intro h
        exact (hnot h).elim

/-- The standby write fails under a host that keeps its power. -/
theorem restored_without_standby :
    exists history d,
      Run (fun d step => step.Managed d) (Device.attach .standard .sound).state history d ∧
      d.session.hostPower = true ∧
      (let faulty := { d.rig.bus with faults := { Faults.none with since := some 0 } }
       let started := (setStream true).run (d.amid d.rig.bus d.rig.board)
       let stopped := (setStream false).run (started.state.amid faulty d.rig.board)
       started.state.session.streaming = true ∧
         stopped.result = standbyAnswer false ∧ Restored d stopped.state) := by
  have hok : (Device.attach .standard .sound).result = .ok () := rfl
  have hrun : Run (fun d step => step.Managed d)
      (Device.attach .standard .sound).state _ _ :=
    Run.next Run.start (.operation (.setPower true)) trivial
  have htrip := restored_of_round_trip rfl rfl hok hrun rfl
  exact ⟨_, _, hrun, rfl, rfl, rfl, (htrip _ _ _ _).2.2.2.1⟩

end ImageSensor
