import ImageSensor.Proofs.ControlLimits
import ImageSensor.Proofs.Elsewhere
import ImageSensor.Proofs.Showing

/-!
# Holding controls

A device that holds its mode and its controls may show more or fewer of them.
The start of a stream shows all, whatever the program of the mode has written
to their registers.  A control that is stored is pushed, and with it the
exposure if that had to move; then all are shown again.  Where this fails some
transfer has failed.
-/

namespace ImageSensor

/-!
# What has to be pushed
-/

namespace ControlSet

variable {m : Mode} {c c' : ControlSet} {moved : Bool}

theorem nodup_snapshot (c : ControlSet) : (c.snapshot.map Control.kind).Nodup := by
  show [Control.Kind.exposure, .analogGain, .verticalBlank, .testPattern,
    .horizontalFlip, .verticalFlip].Nodup
  decide

theorem mem_snapshot {s : Control} :
    s ∈ c.snapshot <->
      s = .exposure c.exposure.value ∨ s = .analogGain c.analogGain.value ∨
        s = .verticalBlank c.verticalBlank.value ∨ s = .testPattern c.testPattern ∨
        s = .horizontalFlip c.orientation.mirror ∨
        s = .verticalFlip c.orientation.flip := by
  simp [snapshot]

theorem exposure_of_mem_snapshot {s : Control} (hs : s ∈ c.snapshot)
    (hkind : s.kind = .exposure) : s = .exposure c.exposure.value := by
  rcases mem_snapshot.mp hs with rfl | rfl | rfl | rfl | rfl | rfl
  · rfl
  all_goals cases hkind

theorem limitExposure_cases (h : c.limitExposure m = .ok (c', moved)) :
    exists exposure,
      c' = { c with exposure := exposure } ∧
      moved = (exposure.value != c.exposure.value) := by
  unfold limitExposure at h
  cases hframe : Checked.add m.height c.verticalBlank.value with
  | error kind =>
      rw [hframe] at h
      cases h
  | ok frame =>
      rw [hframe] at h
      change (Checked.sub frame 1 >>= _) = _ at h
      cases hhighest : Checked.sub frame 1 with
      | error kind =>
          rw [hhighest] at h
          cases h
      | ok highest =>
          rw [hhighest] at h
          cases h
          exact ⟨_, rfl, rfl⟩

/--
After a change every control has its old value, or is the one that was
requested, or is an exposure that had to move.
-/
theorem snapshot_store {request : Control} (h : c.store request m = .ok (c', moved))
    {s : Control} (hs : s ∈ c'.snapshot) :
    s = request ∨ (moved = true ∧ s = .exposure c'.exposure.value) ∨
      (s ∈ c.snapshot ∧ s.kind ≠ request.kind) := by
  cases request with
  | verticalBlank lines =>
      rcases limitExposure_cases h with ⟨exposure, rfl, hmoved⟩
      by_cases hsame : exposure.value = c.exposure.value
      · rcases mem_snapshot.mp hs with rfl | rfl | rfl | rfl | rfl | rfl <;>
          simp [snapshot, Control.kind, hsame]
      · rcases mem_snapshot.mp hs with rfl | rfl | rfl | rfl | rfl | rfl <;>
          simp [snapshot, Control.kind, hmoved, hsame]
  | _ =>
      cases h
      rcases mem_snapshot.mp hs with rfl | rfl | rfl | rfl | rfl | rfl <;>
        simp [snapshot, Control.kind]

end ControlSet

theorem Control.Kind.streamControl_not_mem (k : Kind) :
    Register.streamControl ∉ k.registers := by
  cases k <;> decide

namespace Device

variable {e : Entry} {c c' : ControlSet} {stream : Bool} {S T : Control -> Prop}
  {α : Type}

/-!
# Holding controls

A device without boot stage holds its mode and its controls; some of them are
shown while the log is clean.
-/

structure Held (e : Entry) (c : ControlSet) (stream : Bool) (S : Control -> Prop)
    (log : List Event) (d : Device) : Prop where
  entry : d.session.entry = e
  controls : d.controls = c
  boot : d.session.fastBoot = false
  streaming : d.session.streaming = stream
  shown : Clean log -> forall s, S s -> d.Shows s

/-- Nothing is claimed to be shown. -/
def nothing (_ : Control) : Prop :=
  False

/-- Everything is claimed to be shown, which only a failed transfer allows. -/
def everything (_ : Control) : Prop :=
  True

section

variable {log : List Event} {d : Device}

theorem Held.mono (hd : Held e c stream S log d) (h : forall s, T s -> S s) :
    Held e c stream T log d :=
  ⟨hd.entry, hd.controls, hd.boot, hd.streaming,
    fun hclean s hs => hd.shown hclean s (h s hs)⟩

theorem Held.forget (hd : Held e c stream S log d) : Held e c stream nothing log d :=
  hd.mono fun _ hs => hs.elim

theorem Held.showing (hd : Held e c stream S log d) (he : e.mode.isLinear = true) :
    Showing S log d := by
  refine ⟨?_, hd.shown⟩
  unfold mode
  rw [hd.entry]
  exact he

theorem Held.tuned {es : List Event} {d' : Device} (hd : Held e c stream S log d)
    (ht : Tuned d es d') : Held e c stream nothing (log ++ es) d' := by
  rcases ht with ⟨⟨bus, programmed, frameLength, orientation, rfl⟩, -, -⟩
  exact ⟨hd.entry, hd.controls, hd.boot, hd.streaming, fun _ _ hs => hs.elim⟩

end

theorem indifferent_held : Indifferent (Held e c stream S) where
  boot := Held.boot
  elsewhere := by
    intro log d d' es hd h
    refine ⟨h.entry.trans hd.entry, h.controls.trans hd.controls, h.boot hd.boot,
      h.streaming.trans hd.streaming, ?_⟩
    intro hclean s hs
    apply (hd.shown hclean.left s hs).of_registers
    · intro r hr
      apply h.get
      intro hcontrol
      rw [hcontrol] at hr
      exact s.kind.streamControl_not_mem hr
    · exact h.orientation

theorem contract_tuned_held {x : Action Device α} (hx : Action.Obeys Tuned x) :
    Action.Contract x (Held e c stream S) (fun _ => Held e c stream nothing)
      (Action.reported (Held e c stream nothing)) :=
  hx.contract fun _ _ _ _ hd ht => hd.tuned ht

/-- What is known about the registers after tuning adds to what is held. -/
theorem contract_held (he : e.mode.isLinear = true) {x : Action Device α}
    (hx : Action.Obeys Tuned x)
    (hshow : Action.Contract x (Showing S) (fun _ => Showing T)
      (fun _ => Action.unclean)) :
    Action.Contract x (Held e c stream S) (fun _ => Held e c stream T)
      (Action.reported (Held e c stream everything)) := by
  apply ((contract_tuned_held hx).and hshow).consequence
  · intro log d hd
    exact ⟨hd, hd.showing he⟩
  · intro _ log d hd
    rcases hd with ⟨hd, hshown⟩
    exact ⟨hd.entry, hd.controls, hd.boot, hd.streaming, hshown.2⟩
  · intro _ _ _ hd
    exact Action.reported_of_unclean (fun _ _ hd hclean =>
      ⟨hd.entry, hd.controls, hd.boot, hd.streaming, fun h => (hclean h).elim⟩) hd

/-!
# Starting and stopping
-/

theorem contract_loadMode_held (he : e.mode.isLinear = true) :
    Action.Contract loadMode (Held e c stream S)
      (fun _ => Held e c stream fun s => s ∈ c.snapshot)
      (Action.reported (Held e c stream nothing)) := by
  apply Action.Contract.inspect
  intro program
  have hreplay := tuned_onBus (Program.active_replay program)
  apply Action.Contract.bind ((contract_tuned_held hreplay).pre fun _ _ hd => hd.1)
  intro _
  apply Action.Contract.bind (M := fun _ => Held e c stream nothing)
  · have hmark : Action.Obeys Tuned
        (changeSession fun s => { s with programmed := true }) :=
      tuned_changeSession fun s => ⟨true, _, _, rfl⟩
    exact contract_tuned_held hmark
  intro _
  apply Action.Contract.inspect_known (b := c.snapshot)
  · intro log d hd
    rw [hd.controls]
  apply (contract_held he (tuned_pushAll _)
    (contract_pushAll c.snapshot c.nodup_snapshot)).consequence
  · exact fun _ _ hd => hd
  · intro _ _ _ hd
    exact hd.mono fun _ hs => Or.inl hs
  · exact Action.reported_mono fun _ _ hd => hd.forget

theorem contract_startStream_held (he : e.mode.isLinear = true) :
    Action.Contract startStream (Held e c stream S)
      (fun _ => Held e c stream fun s => s ∈ c.snapshot)
      (Action.reported (Held e c stream nothing)) := by
  apply Action.Contract.inspect
  intro session
  apply Action.Contract.bind
    (M := fun _ => Held e c stream fun s => s ∈ c.snapshot)
  · apply Action.Contract.when
    · intro _
      exact (contract_loadMode_held he).pre fun _ _ hd => hd.1
    · intro hboot log d hd
      rw [← hd.2, hd.1.boot] at hboot
      cases hboot
  · intro _
    apply (indifferent_held.contract_switchStream true).orElse
    exact Action.reported_mono fun _ _ hd => hd.forget

/-- A stream that starts shows all controls, and no transfer failed on the way. -/
theorem contract_beginStream_held (he : e.mode.isLinear = true) :
    Action.Contract beginStream (fun log d => Held e c false S log d ∧ Clean log)
      (fun _ log d => Held e c true (fun s => s ∈ c.snapshot) log d ∧ Clean log)
      (fun _ => Held e c false nothing) := by
  have hstands : forall log d, Held e c false S log d ∧ Clean log -> d.HandoffStands :=
    fun _ _ hd hboot => nomatch hd.1.boot.symm.trans hboot
  have hindifferent : Indifferent (Held e c false S) := indifferent_held
  apply contract_beginStream_of_stands hstands
    (hindifferent.strict_acquire.orElse fun _ _ _ hd => hd.forget)
    (I := fun log d => Held e c false (fun s => s ∈ c.snapshot) log d ∧ Clean log)
  · apply Action.Contract.onError
      ((contract_startStream_held he).and strict_startStream)
    · intro _
      apply (indifferent_held.contract_release.anyFailure).pre
      intro _ _ hd
      exact hd.1
    · intro _ _ _ hd
      exact hd.1.elim
  · apply Action.Contract.update
    intro log d hd
    exact ⟨⟨hd.1.entry, hd.1.controls, hd.1.boot, rfl, hd.1.shown⟩, hd.2⟩

theorem contract_endStream_held :
    Action.Contract endStream (Held e c true S) (fun _ => Held e c false S)
      (fun _ => Held e c false S) :=
  indifferent_held.contract_endStream fun _ _ hd =>
    ⟨hd.entry, hd.controls, hd.boot, rfl, hd.shown⟩

/-!
# Storing and pushing
-/

/-- What has to be shown: every control, while there is a stream. -/
def due (stream : Bool) (c : ControlSet) (s : Control) : Prop :=
  stream = true ∧ s ∈ c.snapshot

theorem contract_pushStored_held (he : e.mode.isLinear = true) {request : Control}
    {moved : Bool} (hstore : c.store request e.mode = .ok (c', moved)) :
    Action.Contract (pushStored request (c', moved)) (Held e c' stream (due stream c))
      (fun _ => Held e c' stream (due stream c'))
      (Action.reported (Held e c' stream everything)) := by
  apply contract_held he (tuned_pushStored request (c', moved))
  cases moved with
  | false =>
      apply (contract_push request).post
      intro _ log d hd
      apply hd.mono
      intro s hs
      rcases ControlSet.snapshot_store hstore hs.2 with hrequest | ⟨hmoved, -⟩ | hold
      · exact Or.inl hrequest
      · cases hmoved
      · exact Or.inr ⟨⟨hs.1, hold.1⟩, hold.2⟩
  | true =>
      apply Action.Contract.both (contract_push request)
      · apply (contract_push (.exposure c'.exposure.value)).post
        intro _ log d hd
        apply hd.mono
        intro s hs
        -- the exposure is pushed last, so what the request did to it is overwritten
        by_cases hkind : s.kind = .exposure
        · exact Or.inl (ControlSet.exposure_of_mem_snapshot hs.2 hkind)
        · right
          refine ⟨?_, hkind⟩
          rcases ControlSet.snapshot_store hstore hs.2 with
            hrequest | ⟨-, hexposure⟩ | hold
          · exact Or.inl hrequest
          · subst hexposure
            exact (hkind rfl).elim
          · exact Or.inr ⟨⟨hs.1, hold.1⟩, hold.2⟩
      · intro _
        exact Action.contract_unclean _
      · intro _ _ _ hd
        exact hd

theorem contract_deliver_held (he : e.mode.isLinear = true) {request : Control}
    {moved : Bool} (hstore : c.store request e.mode = .ok (c', moved)) :
    Action.Contract (deliver c request (c', moved)) (Held e c' stream (due stream c))
      (fun _ => Held e c' stream (due stream c'))
      (fun _ => Held e c stream (due stream c)) := by
  apply Action.Contract.onError (F := Action.reported (Held e c' stream everything))
  · apply Action.Contract.ensuring (contract_pushStored_held he hstore)
    · intro _
      exact indifferent_held.contract_release.anyFailure
    · intro _
      exact indifferent_held.contract_release.anyFailure
    · intro _ _ _ hfalse
      exact hfalse.elim
  · intro _
    -- the old controls are claimed to be shown, but under a log that is not clean
    apply Action.Contract.update
    intro log d hd
    exact ⟨hd.entry, rfl, hd.boot, hd.streaming,
      fun hclean s _ => hd.shown hclean s trivial⟩
  · intro _ _ _ hfalse
    exact hfalse.elim

/-- Somebody uses the device, and there is room for one more. -/
def InUse (d : Device) : Prop :=
  0 < d.rig.usage.count.toNat ∧ d.rig.usage.count.toNat + 1 < UInt32.size

theorem contract_getIfInUse_held :
    Action.Contract (onRig Rig.getIfInUse)
      (fun log d => Held e c stream S log d ∧ (stream = true -> d.InUse))
      (fun inUse log d => Held e c stream S log d ∧ (inUse = false -> stream = false))
      (fun _ log d => Held e c stream S log d ∧ stream = false) := by
  intro log d hd
  rcases hd with ⟨hd, huse⟩
  rw [run_onRig]
  rcases Rig.run_getIfInUse_cases d.rig with
    ⟨hfull, kind, hget⟩ | ⟨hnone, hget⟩ | ⟨usage, -, -, hget⟩
  · rw [hget]
    refine ⟨indifferent_held.elsewhere [] hd (elsewhere_onRig rfl), ?_⟩
    rw [Bool.eq_false_iff]
    intro hstream
    exact Nat.not_lt.mpr hfull (huse hstream).2
  · rw [hget]
    refine ⟨indifferent_held.elsewhere _ hd (elsewhere_onRig rfl), ?_⟩
    intro _
    rw [Bool.eq_false_iff]
    intro hstream
    exact Nat.ne_of_gt (huse hstream).1 hnone
  · rw [hget]
    refine ⟨indifferent_held.elsewhere _ hd (elsewhere_onRig rfl), ?_⟩
    intro hfalse
    cases hfalse

end Device
end ImageSensor
