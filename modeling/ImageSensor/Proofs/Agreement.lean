import ImageSensor.Proofs.Accounting
import ImageSensor.Proofs.Holding

/-!
# Registers and controls agree

While the sensor streams its registers hold the controls, as long as every
transfer since the start of the stream succeeded.  The start brings this about
and each request keeps it, whichever controls are set before or after: a mode
cannot change under a stream, and what is not about controls happens elsewhere.
-/

namespace ImageSensor

namespace Device

variable {e : Entry} {c c' : ControlSet} {stream : Bool} {S : Control -> Prop}
  {α : Type}

/-!
# Agreement under every request
-/

/-- The controls fit a mode of the catalog; while there is a stream all are shown. -/
def Agreed (stream : Bool) (log : List Event) (d : Device) : Prop :=
  exists e c, (e ∈ Catalog.entries ∧ c.Fits e.mode) ∧
    Held e c stream (due stream c) log d

theorem Held.idle {log : List Event} {d : Device} (hd : Held e c stream S log d)
    (hstream : stream = false) : Held e c stream (due stream c) log d :=
  hd.mono fun _ hs => nomatch hstream.symm.trans hs.1

theorem Held.agreed {log : List Event} {d : Device} (he : e ∈ Catalog.entries)
    (hc : c.Fits e.mode) (hd : Held e c stream (due stream c) log d) :
    Agreed stream log d :=
  ⟨e, c, ⟨he, hc⟩, hd⟩

theorem indifferent_agreed : Indifferent (Agreed stream) where
  boot := by
    intro log d hd
    rcases hd with ⟨e, c, -, hd⟩
    exact hd.boot
  elsewhere := by
    intro log d d' es hd h
    rcases hd with ⟨e, c, hfits, hd⟩
    exact ⟨e, c, hfits, indifferent_held.elsewhere es hd h⟩

/-- A control that was stored is delivered if there is a user, and waits if not. -/
theorem contract_stored_held (he : e ∈ Catalog.entries) (hc : c.Fits e.mode)
    (hc' : c'.Fits e.mode) {request : Control} {moved : Bool}
    (hstore : c.store request e.mode = .ok (c', moved)) :
    Action.Contract
      (onRig Rig.getIfInUse >>= fun inUse =>
        Action.when inUse (deliver c request (c', moved)))
      (fun log d => Held e c' stream (due stream c) log d ∧ (stream = true -> d.InUse))
      (fun _ => Agreed stream) (fun _ => Agreed stream) := by
  apply Action.Contract.bind (M := fun inUse log d =>
    Held e c' stream (due stream c) log d ∧ (inUse = false -> stream = false))
  · apply contract_getIfInUse_held.orElse
    intro _ _ _ hd
    exact (hd.1.idle hd.2).agreed he hc'
  intro inUse
  apply Action.Contract.when
  · intro _
    apply (contract_deliver_held (Catalog.isLinear he) hstore).consequence
    · intro _ _ hd
      exact hd.1
    · intro _ _ _ hd
      exact hd.agreed he hc'
    · intro _ _ _ hd
      exact hd.agreed he hc
  · intro hidle _ _ hd
    exact (hd.1.idle (hd.2 hidle)).agreed he hc'

theorem contract_applyControl_held (he : e ∈ Catalog.entries) (hc : c.Fits e.mode)
    (request : Control) :
    Action.Contract (applyControl request)
      (fun log d => Held e c stream (due stream c) log d ∧ (stream = true -> d.InUse))
      (fun _ => Agreed stream) (fun _ => Agreed stream) := by
  apply Action.Contract.inspect
  intro before
  apply Action.Contract.inspect
  intro mode
  have hsame : forall log d, ((Held e c stream (due stream c) log d ∧
      (stream = true -> d.InUse)) ∧ d.controls = before) ∧ d.mode = mode ->
      before = c ∧ mode = e.mode := by
    intro log d hd
    rcases hd with ⟨⟨⟨hd, -⟩, hbefore⟩, hmode⟩
    constructor
    · exact hbefore.symm.trans hd.controls
    · rw [← hmode, ← hd.entry]
      rfl
  apply Action.Contract.knowing hsame
  intro hsame
  rcases hsame with ⟨rfl, rfl⟩
  split
  case isFalse =>
      apply Action.Contract.report
      intro _ _ hd
      exact hd.1.1.1.agreed he hc
  case isTrue haccepts =>
      rcases hc.store (Catalog.wellFormed he) haccepts with ⟨c', moved, hstore, hc'⟩
      rw [hstore]
      apply Action.Contract.bind (M := fun stored log d => stored = (c', moved) ∧
        Held e before stream (due stream before) log d ∧ (stream = true -> d.InUse))
      · apply Action.Contract.compute
        · intro log d hd stored hstored
          cases hstored
          exact ⟨rfl, hd.1.1⟩
        · intro _ _ _ hd
          exact hd.1.1.1.agreed he hc
      intro stored
      apply Action.Contract.assuming
      intro hstored
      subst hstored
      apply Action.Contract.bind _ fun _ => contract_stored_held he hc hc' hstore
      apply Action.Contract.update
      intro log d hd
      exact ⟨⟨hd.1.entry, rfl, hd.1.boot, hd.1.streaming, hd.1.shown⟩, hd.2⟩

theorem contract_applyControl_agreed (request : Control) :
    Action.Contract (applyControl request)
      (fun log d => Agreed stream log d ∧ (stream = true -> d.InUse))
      (fun _ => Agreed stream) (fun _ => Agreed stream) := by
  intro log d hd
  rcases hd with ⟨⟨e, c, ⟨he, hc⟩, hd⟩, huse⟩
  exact contract_applyControl_held he hc request log d ⟨hd, huse⟩

/-!
# Requests
-/

/-- A mode is taken without overflow; while there is a stream it is the same mode. -/
theorem contract_selectMode_agreed (hentry : e ∈ Catalog.entries) :
    Action.Contract (selectMode e) (MayTake (Agreed stream) e)
      (fun _ => Agreed stream) (fun _ => Agreed stream) := by
  intro log d hd
  rcases hd with ⟨⟨e', c, ⟨he', hc⟩, hd⟩, hsame⟩
  have hmode : exists c' moved, d.controls.applyMode e.mode = .ok (c', moved) ∧
      c'.Fits e.mode ∧ (stream = true -> c' = c) := by
    rw [hd.controls]
    cases hstream : stream with
    | false =>
        rcases hc.applyMode (Catalog.wellFormed hentry) with ⟨c', moved, happly, hc'⟩
        exact ⟨c', moved, happly, hc', fun h => nomatch h⟩
    | true =>
        have heq : e' = e := hd.entry.symm.trans (hsame (hd.streaming.trans hstream))
        subst heq
        exact ⟨c, false, hc.applyMode_same (Catalog.wellFormed hentry), hc,
          fun _ => rfl⟩
  rcases hmode with ⟨c', moved, happly, hc', hkept⟩
  simp only [selectMode, Action.run_bind, Action.run_inspect, happly,
    Action.run_compute_ok, run_changeControls, run_changeSession, Outcome.after_mk]
  refine ⟨e, c', ⟨hentry, hc'⟩, rfl, rfl, hd.boot, hd.streaming, ?_⟩
  intro hclean s hs
  rw [due, hkept hs.1] at hs
  exact (hd.shown hclean.left s hs).of_registers (fun _ _ => rfl) rfl

theorem negotiable_agreed : Negotiable (Agreed stream) where
  scratch := indifferent_agreed.keeps_changeScratch
  selectMode := contract_selectMode_agreed

/-- In agreement; a stream that is new was started without a failed transfer. -/
def Turned (stream : Bool) (log : List Event) (d : Device) : Prop :=
  exists stream', Agreed stream' log d ∧ (stream = false -> stream' = true -> Clean log)

theorem Agreed.turned {log : List Event} {d : Device} (hd : Agreed stream log d) :
    Turned stream log d := by
  refine ⟨stream, hd, ?_⟩
  intro hfalse htrue
  rw [hfalse] at htrue
  cases htrue

theorem contract_setStream_held (he : e ∈ Catalog.entries) (hc : c.Fits e.mode)
    (on : Bool) :
    Action.Contract (setStream on)
      (fun log d => Held e c stream (due stream c) log d ∧
        (stream = false -> Clean log))
      (fun _ => Turned stream) (fun _ => Turned stream) := by
  apply contract_setStream_of_streaming (fun _ _ hd => hd.1.streaming)
  · intro _ _ _ hd
    exact (hd.1.agreed he hc).turned
  · rintro rfl _
    apply (contract_beginStream_held (Catalog.isLinear he)).consequence
    · intro _ _ hd
      exact ⟨hd.1, hd.2 rfl⟩
    · intro _ _ _ hd
      refine ⟨true, ⟨e, c, ⟨he, hc⟩, ?_⟩, fun _ _ => hd.2⟩
      exact hd.1.mono fun _ hs => hs.2
    · intro _ _ _ hd
      exact ((hd.idle rfl).agreed he hc).turned
  · rintro rfl _
    apply contract_endStream_held.consequence
    · intro _ _ hd
      exact hd.1
    · intro _ _ _ hd
      exact ⟨false, (hd.idle rfl).agreed he hc, fun hfalse => nomatch hfalse⟩
    · intro _ _ _ hd
      exact ⟨false, (hd.idle rfl).agreed he hc, fun hfalse => nomatch hfalse⟩

theorem contract_setStream_agreed (on : Bool) :
    Action.Contract (setStream on)
      (fun log d => Agreed stream log d ∧ (stream = false -> Clean log))
      (fun _ => Turned stream) (fun _ => Turned stream) := by
  intro log d hd
  rcases hd with ⟨⟨e, c, ⟨he, hc⟩, hd⟩, hclean⟩
  exact contract_setStream_held he hc on log d ⟨hd, hclean⟩

/-!
# Attaching
-/

theorem agreed_attach {c : Config} (rig : Rig) (hboot : c.fastBoot = false) :
    Agreed false [] (attach c rig).state := by
  have hstart : Held Catalog.first (ControlSet.initial c.orientation) false nothing []
      (initial c rig) :=
    ⟨rfl, rfl, hboot, rfl, fun _ _ hs => hs.elim⟩
  have hend := indifferent_held.keeps_bringUp.always hstart
  refine ⟨_, _, ⟨List.mem_cons_self, ControlSet.fits_initial c.orientation⟩, ?_⟩
  exact ⟨hend.entry, hend.controls, hend.boot, hend.streaming,
    fun _ _ hs => nomatch hs.1⟩

/-!
# What a request needs
-/

theorem Settled.inUse {w : Watch} {h : Holders} {log : List Event} {d : Device}
    (hd : Settled w h log d) (hstream : h.stream = true) : d.InUse := by
  have husers : h.users ≤ 3 := by
    have hhost := h.host.toNat_le
    have hwaiting := h.waiting.toNat_le
    simp only [Holders.users, hstream, Bool.toNat_true]
    omega
  have hpos : 0 < h.users := by
    simp only [Holders.users, hstream, Bool.toNat_true]
    omega
  unfold InUse
  rw [hd.users]
  refine ⟨hpos, ?_⟩
  have hsize : UInt32.size = 4294967296 := rfl
  omega

theorem Agreed.restart {log : List Event} {d : Device} (hd : Agreed stream log d)
    (hclean : stream = true -> Clean log) : Agreed stream [] d := by
  rcases hd with ⟨e, c, hfits, hd⟩
  refine ⟨e, c, hfits, hd.entry, hd.controls, hd.boot, hd.streaming, ?_⟩
  intro _ s hs
  exact hd.shown (hclean hs.1) s hs

theorem Agreed.streaming {log : List Event} {d : Device} (hd : Agreed stream log d) :
    d.session.streaming = stream := by
  rcases hd with ⟨e, c, -, hd⟩
  exact hd.streaming

/-- In agreement; there is room for one more user, and a clean log to start a stream. -/
structure Ready (stream : Bool) (log : List Event) (d : Device) : Prop where
  agreed : Agreed stream log d
  inUse : stream = true -> d.InUse
  clean : stream = false -> Clean log

theorem contract_keeping_agreed {x : Action Device α}
    (hx : Action.Keeps (Agreed stream) x) :
    Action.Contract x (Ready stream) (fun _ => Turned stream)
      (fun _ => Turned stream) := by
  apply hx.consequence
  · intro _ _ hd
    exact hd.agreed
  · intro _ _ _ hd
    exact hd.turned
  · intro _ _ _ hd
    exact hd.turned

theorem contract_applyControl_ready (request : Control) :
    Action.Contract (applyControl request) (Ready stream) (fun _ => Turned stream)
      (fun _ => Turned stream) := by
  apply (contract_applyControl_agreed request).consequence
  · intro _ _ hd
    exact ⟨hd.agreed, hd.inUse⟩
  · intro _ _ _ hd
    exact hd.turned
  · intro _ _ _ hd
    exact hd.turned

end Device

theorem Operation.contract_perform_ready {stream : Bool} (request : Operation) :
    Action.Contract request.perform
      (fun log d => Device.Ready stream log d ∧ request.Managed d)
      (fun _ => Device.Turned stream) (fun _ => Device.Turned stream) := by
  apply contract_managed (fun _ _ hd => hd.agreed) (fun _ _ hd => hd.turned)
    Device.negotiable_agreed Device.indifferent_agreed.keeps_switchStream
    fun control _ => Device.contract_applyControl_ready control
  · intro on _
    exact Device.contract_keeping_agreed (Device.indifferent_agreed.keeps_setPower on)
  · intro on _
    exact (Device.contract_setStream_agreed on).pre fun _ _ hd => ⟨hd.agreed, hd.clean⟩

namespace Scenario

/-- Somebody else writes to the registers. -/
def Step.IsLoad (step : Step) : Prop :=
  exists registers, step = .disturbance (.load registers)

instance : (step : Step) -> Decidable step.IsLoad
  | .disturbance (.load registers) => isTrue ⟨registers, rfl⟩
  | .operation _ | .setting .. | .disturbance (.fail ..) | .disturbance .heal
  | .disturbance (.usage _) | .peek _ | .detach => isFalse fun h => by
      rcases h with ⟨registers, heq⟩
      cases heq

theorem Step.not_isLoad_operation (request : Operation) :
    ¬ (Step.operation request).IsLoad := by
  intro h
  rcases h with ⟨registers, heq⟩
  cases heq

theorem Step.not_load {step : Step} (hload : ¬ step.IsLoad) {change : Disturbance}
    (hstep : step = .disturbance change) (registers : List (UInt16 × UInt8)) :
    change ≠ .load registers := by
  intro hchange
  exact hload ⟨registers, hchange ▸ hstep⟩

theorem Step.contract_perform_ready {stream : Bool} (step : Step)
    (hload : ¬ step.IsLoad) :
    Action.Contract step.perform
      (fun log d => Device.Ready stream log d ∧ step.Managed d)
      (fun _ => Device.Turned stream) (fun _ => Device.Turned stream) := by
  apply contract_managed (fun _ _ hd => hd.agreed) (fun _ _ hd => hd.turned)
    (fun request _ => request.contract_perform_ready)
    fun control _ => Device.contract_applyControl_ready control
  intro change hstep _
  exact Device.indifferent_agreed.keeps_happen (Step.not_load hload hstep)

/-!
# Runs
-/

/--
What was recorded since the stream was started, the start itself left out.
Without a stream that is nothing.
-/
def sinceStart (history : List Moment) : List Event :=
  history.foldl
    (fun log m => if m.before.session.streaming then log ++ m.events else []) []

theorem sinceStart_snoc (history : List Moment) (m : Moment) :
    sinceStart (history ++ [m]) =
      if m.before.session.streaming then sinceStart history ++ m.events else [] := by
  simp [sinceStart, List.foldl_append]

theorem Moment.agreed {stream : Bool} {log : List Event} {m : Moment}
    (hd : Device.Agreed stream log m.before) (huse : stream = true -> m.before.InUse)
    (hmanaged : m.step.Managed m.before) (hload : ¬ m.step.IsLoad) :
    exists stream',
      Device.Agreed stream'
        (if m.before.session.streaming then log ++ m.events else []) m.after := by
  have hcontract := @Step.contract_perform_ready stream m.step hload
  rw [hd.streaming]
  cases stream with
  | true =>
      rcases hcontract.always ⟨⟨hd, huse, fun hfalse => nomatch hfalse⟩, hmanaged⟩ with
        ⟨stream', hafter, -⟩
      exact ⟨stream', hafter⟩
  | false =>
      -- nothing is due before the step, and its own transfers succeed if it starts
      have hstart := hd.restart fun hfalse => nomatch hfalse
      rcases hcontract.always ⟨⟨hstart, huse, fun _ => clean_nil⟩, hmanaged⟩ with
        ⟨stream', hafter, hclean⟩
      exact ⟨stream', hafter.restart (hclean rfl)⟩

theorem Run.agreed {Allowed : Device -> Step -> Prop} {w : Watch} {h : Holders}
    {past : List Event} {d e : Device} {history : List Moment}
    (hrun : Run Allowed d history e) (hd : Device.Settled w h past d)
    (hboot : h.boot = false) (hheld : w.held = false) (hguarded : w.guarded = false)
    (hallowed : forall d step, Allowed d step -> step.Managed d ∧ ¬ step.IsLoad)
    (hstart : Device.Agreed false [] d) :
    exists stream, Device.Agreed stream (sinceStart history) e := by
  induction hrun with
  | start => exact ⟨false, hstart⟩
  | @next history e hrun step hstep ih =>
      rcases ih with ⟨stream, he⟩
      have hsettled := hrun.settled_of_no_boot hd hboot hheld fun d step hstep =>
        ⟨(hallowed d step hstep).1, fun hguards => nomatch hguarded.symm.trans hguards⟩
      rcases hsettled with ⟨h', -, hsettled⟩
      have huse : stream = true -> e.InUse := by
        intro hstream
        apply hsettled.inUse
        rw [← hsettled.streaming, he.streaming, hstream]
      rcases hallowed e step hstep with ⟨hmanaged, hload⟩
      rw [sinceStart_snoc]
      exact Moment.agreed (m := ⟨e, step⟩) he huse hmanaged hload

end Scenario

/-!
# Faithful registers
-/

/-- The registers and the remembered orientation have the values of the controls. -/
structure Faithful (d : Device) : Prop where
  exposure : Register.ofBytes
      [d.rig.bus.file.get Register.exposureHigh,
        d.rig.bus.file.get Register.exposureMiddle,
        d.rig.bus.file.get Register.exposureLow] = d.controls.value .exposure
  gainCompound : d.rig.bus.file.get Register.gainCompound =
    (Gain.encode (d.controls.value .analogGain)).compound
  gainExtension : d.rig.bus.file.get Register.gainExtension =
    (Gain.encode (d.controls.value .analogGain)).extension
  gainCoarse : d.rig.bus.file.get Register.gainCoarse =
    (Gain.encode (d.controls.value .analogGain)).coarse
  mirror : (d.rig.bus.file.get Register.mirror).toUInt32 =
    d.controls.value .horizontalFlip
  flip : (d.rig.bus.file.get Register.flip).toUInt32 = d.controls.value .verticalFlip
  orientationMirror : d.session.orientation.mirror.toUInt32 =
    d.controls.value .horizontalFlip
  orientationFlip : d.session.orientation.flip.toUInt32 = d.controls.value .verticalFlip

theorem toUInt32_toUInt8 (on : Bool) : on.toUInt8.toUInt32 = on.toUInt32 := by
  cases on <;> rfl

theorem Device.Agreed.shows {log : List Event} {d : Device} (hd : Device.Agreed true log d)
    (hclean : Clean log) {s : Control} (hs : s ∈ d.controls.snapshot) : d.Shows s := by
  rcases hd with ⟨e, c, -, hd⟩
  have hcontrols := hd.controls
  subst hcontrols
  exact hd.shown hclean s ⟨rfl, hs⟩

theorem Device.Agreed.faithful {log : List Event} {d : Device}
    (hd : Device.Agreed true log d) (hclean : Clean log) : Faithful d := by
  have hshows : forall s, s ∈ d.controls.snapshot -> d.Shows s := fun _ => hd.shows hclean
  rcases hd with ⟨e, c, ⟨he, hc⟩, hd⟩
  have hcontrols := hd.controls
  subst hcontrols
  have hexposure : d.Shows (.exposure d.controls.exposure.value) :=
    hshows _ (by simp [ControlSet.snapshot])
  have hgain : d.Shows (.analogGain d.controls.analogGain.value) :=
    hshows _ (by simp [ControlSet.snapshot])
  have hmirror : d.Shows (.horizontalFlip d.controls.orientation.mirror) :=
    hshows _ (by simp [ControlSet.snapshot])
  have hflip : d.Shows (.verticalFlip d.controls.orientation.flip) :=
    hshows _ (by simp [ControlSet.snapshot])
  constructor
  · have hlimit := hc.exposure_le (Catalog.wellFormed he)
    have hbytes : Register.ofBytes (Register.toBytes 3 d.controls.exposure.value) =
        d.controls.exposure.value := by
      apply Register.ofBytes_toBytes
      exact Nat.lt_of_le_of_lt hlimit (by decide)
    rw [← hexposure] at hbytes
    exact hbytes
  · exact hgain.1
  · exact hgain.2.1
  · exact hgain.2.2
  · rw [hmirror.1]
    exact toUInt32_toUInt8 _
  · rw [hflip.1]
    exact toUInt32_toUInt8 _
  · rw [hmirror.2]
    rfl
  · rw [hflip.2]
    rfl

open Scenario

theorem faithful_of_run {c : Config} {rig : Rig} (hboot : c.fastBoot = false)
    (husage : rig.usage = .zero) (hok : (Device.attach c rig).result = .ok ())
    {history : List Moment} {d : Device}
    (hrun : Run (fun d step => step.Managed d ∧ ¬ step.IsLoad)
      (Device.attach c rig).state history d)
    (hstreaming : d.session.streaming = true) (hclean : Clean (sinceStart history)) :
    Faithful d := by
  have hstart := Device.settled_attach false hboot husage hok
  rcases hrun.agreed hstart rfl rfl rfl (fun _ _ hstep => hstep)
    (Device.agreed_attach rig hboot) with ⟨stream, hd⟩
  have hstream : stream = true := hd.streaming.symm.trans hstreaming
  subst hstream
  exact hd.faithful hclean

theorem faithful_of_run_flipped :
    exists history d,
      Run (fun d step => step.Managed d ∧ ¬ step.IsLoad)
        (Device.attach .standard .sound).state history d ∧
      d.session.streaming = true ∧ d.controls.value .exposure = 700 ∧
      d.controls.value .horizontalFlip = 1 ∧
      sinceStart history =
        [ .usage .getIfInUse (some true) 2,
          .read 0x36 Register.mirror [0],
          .read 0x36 Register.flip [0],
          .write 0x36 Register.flip [0] true,
          .write 0x36 Register.mirror [1] true,
          .usage .put (some false) 1 ] ∧
      Faithful d := by
  have hok : (Device.attach .standard .sound).result = .ok () := rfl
  have hrun : Run (fun d step => step.Managed d ∧ ¬ step.IsLoad)
      (Device.attach .standard .sound).state _ _ :=
    Run.next
      (Run.next
        (Run.next Run.start (.operation (.applyControl (.exposure 700)))
          ⟨trivial, Step.not_isLoad_operation _⟩)
        (.operation (.setStream true)) ⟨trivial, Step.not_isLoad_operation _⟩)
      (.operation (.applyControl (.horizontalFlip true)))
      ⟨trivial, Step.not_isLoad_operation _⟩
  have hclean : Clean
      [ .usage .getIfInUse (some true) 2,
        .read 0x36 Register.mirror [0],
        .read 0x36 Register.flip [0],
        .write 0x36 Register.flip [0] true,
        .write 0x36 Register.mirror [1] true,
        .usage .put (some false) 1 ] := by
    simp [Event.isFailure]
  exact ⟨_, _, hrun, rfl, rfl, rfl, rfl, faithful_of_run rfl rfl hok hrun rfl hclean⟩

end ImageSensor
