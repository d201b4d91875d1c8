import ImageSensor.Proofs.Tuning
import ImageSensor.Proofs.Users

/-!
# Power and streams on request

Between two requests there is exactly one user for each holder.  A request for
power or for a stream adds or removes one; it may fail at any point, and then
what it added was removed again.  The one case left out is a stream that is
stopped a second time under the boot stage's set-up.
-/

namespace ImageSensor

/-!
# Changes of the holders
-/

namespace Holders

/-- Once nobody is left, the boot stage's set-up is given up. -/
def settled (h : Holders) : Holders :=
  h.released h.users

theorem waiting_of_users {h : Holders} (husers : h.users = 0) :
    h.waiting = false := by
  rw [Bool.eq_false_iff]
  intro hwaiting
  simp [users, hwaiting] at husers

theorem stopped_of_users {h : Holders} (husers : h.users = 0)
    (hboot : h.boot = true) : h.stopped = true := by
  have hwaiting := waiting_of_users husers
  simpa [waiting, hboot] using hwaiting

theorem stream_of_users {h : Holders} (husers : h.users = 0) :
    h.stream = false := by
  rw [Bool.eq_false_iff]
  intro hstream
  simp [users, hstream] at husers

theorem host_of_users {h : Holders} (husers : h.users = 0) : h.host = false := by
  rw [Bool.eq_false_iff]
  intro hhost
  simp [users, hhost] at husers

theorem users_settled (h : Holders) : h.settled.users = h.users := by
  unfold settled released
  split
  case isFalse => rfl
  case isTrue husers =>
      show h.host.toNat + h.stream.toNat + false.toNat = h.users
      rw [users, waiting_of_users husers]

theorem released_without_host (h : Holders) (n : Nat) :
    { h.released n with host := false } = { h with host := false }.released n := by
  unfold released
  split <;> rfl

theorem released_without_stream (h : Holders) (n : Nat) :
    { h.released n with stream := false } = { h with stream := false }.released n := by
  unfold released
  split <;> rfl

theorem users_grant {h : Holders} (hhost : h.host = false) :
    { h with host := true }.users = h.users + 1 := by
  simp [users, waiting, hhost]
  omega

theorem users_begin {h : Holders} (hstream : h.stream = false) :
    { h with stream := true }.users = h.users + 1 := by
  simp [users, waiting, hstream]
  omega

/--
What a request may do to the holders: the boot stage's set-up is never taken
up again, and its user stays unless a stream is stopped.
-/
structure Follows (h h' : Holders) (stops : Bool) : Prop where
  boot : h'.boot = true -> h.boot = true
  waiting : h'.waiting = (h.waiting && !stops)

theorem Follows.refl (h : Holders) : h.Follows h false :=
  ⟨fun hboot => hboot, (Bool.and_true _).symm⟩

theorem Follows.trans {h h' h'' : Holders} {stops stops' : Bool}
    (hfirst : h.Follows h' stops) (hsecond : h'.Follows h'' stops') :
    h.Follows h'' (stops || stops') := by
  constructor
  · intro hboot
    exact hfirst.boot (hsecond.boot hboot)
  · rw [hsecond.waiting, hfirst.waiting, Bool.not_or, Bool.and_assoc]

theorem follows_grant (h : Holders) : h.Follows { h with host := true } false :=
  ⟨fun hboot => hboot, (Bool.and_true _).symm⟩

theorem follows_begin (h : Holders) : h.Follows { h with stream := true } false :=
  ⟨fun hboot => hboot, (Bool.and_true _).symm⟩

theorem follows_settled (h : Holders) : h.Follows h.settled false := by
  unfold settled released
  split
  case isFalse => exact Follows.refl h
  case isTrue husers =>
      constructor
      · intro hboot
        cases hboot
      · rw [waiting_of_users husers]
        rfl

theorem follows_withdraw (h : Holders) :
    h.Follows { h with host := false }.settled false := by
  have hsettled := follows_settled { h with host := false }
  exact ⟨hsettled.boot, hsettled.waiting⟩

/-- The holders while a stream is being stopped. -/
def stopping (h : Holders) : Holders :=
  { h with stopped := h.boot || h.stopped }

theorem stopping_of_no_boot {h : Holders} (hboot : h.boot = false) :
    h.stopping = h := by
  rcases h with ⟨host, stream, boot, stopped⟩
  cases hboot
  rfl

theorem stopped_stopping {h : Holders} (hboot : h.stopping.boot = true) :
    h.stopping.stopped = true := by
  show (h.boot || h.stopped) = true
  rw [show h.boot = true from hboot, Bool.true_or]

theorem waiting_stopping (h : Holders) : h.stopping.waiting = false := by
  rcases h with ⟨host, stream, boot, stopped⟩
  cases boot <;> rfl

theorem follows_stop (h : Holders) :
    h.Follows { h.stopping with stream := false }.settled true := by
  have hsettled := follows_settled { h.stopping with stream := false }
  constructor
  · exact hsettled.boot
  · rw [hsettled.waiting, Bool.not_true, Bool.and_false, Bool.not_false, Bool.and_true]
    exact h.waiting_stopping

end Holders

namespace Device

variable {w : Watch} {n : Nat} {h : Holders} {α : Type}

/-!
# Work on the bus
-/

theorem Conducted.tuned {log es : List Event} {d d' : Device}
    (hd : Conducted w (n + 1) h log d) (ht : Tuned d es d') :
    Conducted w (n + 1) h (log ++ es) d' := by
  rcases ht with ⟨⟨bus, programmed, frameLength, orientation, rfl⟩, hkept, hes⟩
  have hfull : d.levels.Full w.lines := by
    rw [hd.levels_on]
    exact Levels.full_on w.lines
  constructor
  · exact hd.users
  · exact hd.active
  · intro _
    exact Nat.succ_pos n
  · exact hd.holders
  · exact hd.boot
  · intro hn hstream hboot
    exact hkept (hd.streamed hn hstream hboot)
  · exact hd.lines
  · exact hd.leads.append (Levels.Leads.of_busActivity hfull hd.ordered hes)
  · intro hheld e he
    rcases List.mem_append.mp he with he | he
    · exact hd.steady hheld e he
    · exact Event.isPowerDown_of_busActivity (hes e he)

theorem contract_tuned {x : Action Device α} (hx : Action.Obeys Tuned x) :
    Action.Contract x (Conducted w (n + 1) h) (fun _ => Conducted w (n + 1) h)
      (Action.reported (Conducted w (n + 1) h)) :=
  hx.contract fun _ _ _ _ hd ht => hd.tuned ht

/-- With users, and with the program of the mode replayed. -/
def Loaded (w : Watch) (n : Nat) (h : Holders) (log : List Event) (d : Device) :
    Prop :=
  Conducted w n h log d ∧ d.session.programmed = true

theorem contract_tuned_loaded {x : Action Device α}
    (hx : Action.Obeys Tuned x) :
    Action.Contract x (Loaded w (n + 1) h) (fun _ => Loaded w (n + 1) h)
      (Action.reported (Loaded w (n + 1) h)) :=
  hx.contract fun _ _ _ _ hd ht => ⟨hd.1.tuned ht, ht.programmed hd.2⟩

theorem contract_loadMode :
    Action.Contract loadMode (Conducted w (n + 1) h)
      (fun _ => Loaded w (n + 1) h)
      (Action.reported (Conducted w (n + 1) h)) := by
  apply Action.Contract.inspect
  intro program
  apply Action.Contract.bind (M := fun _ => Conducted w (n + 1) h)
  · apply (contract_tuned (tuned_onBus (Program.active_replay program))).pre
    intro _ _ hd
    exact hd.1
  intro _
  apply Action.Contract.bind (M := fun _ => Loaded w (n + 1) h)
  · apply Action.Contract.update
    intro log d hd
    have htuned := tuned_changeSession
      (f := fun s => { s with programmed := true }) (fun s => ⟨true, _, _, rfl⟩) d
    have hnext := hd.tuned htuned.1
    rw [run_changeSession, List.append_nil] at hnext
    exact ⟨hnext, rfl⟩
  intro _
  apply Action.Contract.inspect
  intro controls
  have hpush := contract_tuned_loaded (w := w) (n := n) (h := h) (tuned_pushAll controls)
  apply (hpush.orElse (Action.reported_mono fun _ _ hd => hd.1)).pre
  intro _ _ hd
  exact hd.1

/-- Without the boot stage's set-up, a stream starts on the program of its mode. -/
theorem contract_startStream :
    Action.Contract startStream (Conducted w (n + 1) h)
      (fun _ log d => Conducted w (n + 1) h log d ∧
        (h.boot = false -> d.session.programmed = true))
      (Action.reported (Conducted w (n + 1) h)) := by
  apply Action.Contract.inspect
  intro session
  apply Action.Contract.bind (M := fun _ log d => Conducted w (n + 1) h log d ∧
    (h.boot = false -> d.session.programmed = true))
  · apply Action.Contract.when
    · intro _
      apply contract_loadMode.consequence
      · intro _ _ hd
        exact hd.1
      · intro _ _ _ hd
        exact ⟨hd.1, fun _ => hd.2⟩
      · intro _ _ _ hd
        exact hd
    · intro hboot log d hd
      refine ⟨hd.1, ?_⟩
      intro hnone
      have hfast : session.fastBoot = false := by
        rw [← hd.2]
        exact (congrArg Holders.boot hd.1.holders).trans hnone
      rw [hfast] at hboot
      cases hboot
  · intro _
    have hswitch : Action.Contract (switchStream true)
        (fun log d => Conducted w (n + 1) h log d ∧
          (h.boot = false -> d.session.programmed = true))
        (fun _ log d => Conducted w (n + 1) h log d ∧
          (h.boot = false -> d.session.programmed = true)) _ :=
      (tuned_switchStream true).contract fun _ _ _ _ hd ht =>
        ⟨hd.1.tuned ht, fun hnone => ht.programmed (hd.2 hnone)⟩
    exact hswitch.orElse (Action.reported_mono fun _ _ hd => hd.1)

/-!
# Removing a holder

The set-up of the boot stage is given up by the first stop of a stream once
there is no other user.
-/

theorem Conducted.renamed {h' : Holders} {log : List Event} {d : Device}
    (hd : Conducted w n h log d) {f : Session -> Session}
    (hactive : (f d.session).active = d.session.active)
    (hprogrammed : (f d.session).programmed = d.session.programmed)
    (hholders : (f d.session).holders = h')
    (hboot : h'.boot = h.boot)
    (hstreamed : 0 < n -> h'.stream = true -> h'.boot = false ->
      d.session.programmed = true) :
    Conducted w n h' log { d with session := f d.session } := by
  have hlevels : levels { d with session := f d.session } = d.levels := by
    unfold levels
    rw [hactive]
  constructor
  · exact hd.users
  · exact hactive.trans hd.active
  · intro hp
    exact hd.programmed (hprogrammed.symm.trans hp)
  · exact hholders
  · intro hb
    exact hd.boot (hboot.symm.trans hb)
  · intro hn hstream hb
    exact hprogrammed.trans (hstreamed hn hstream hb)
  · exact hd.lines
  · rw [hlevels]
    exact hd.leads
  · exact hd.steady

theorem contract_dropHost :
    Action.Contract (changeSession fun s => { s with hostPower := false })
      (Conducted w n h) (fun _ => Conducted w n { h with host := false })
      Action.never := by
  apply Action.Contract.update
  intro log d hd
  have hholders := hd.holders
  subst hholders
  exact hd.renamed (f := fun s => { s with hostPower := false }) rfl rfl rfl rfl
    hd.streamed

theorem contract_dropStream :
    Action.Contract (changeSession fun s => { s with streaming := false })
      (Conducted w n h) (fun _ => Conducted w n { h with stream := false })
      Action.never := by
  apply Action.Contract.update
  intro log d hd
  have hholders := hd.holders
  subst hholders
  exact hd.renamed (f := fun s => { s with streaming := false }) rfl rfl rfl rfl
    (fun _ hstream => nomatch hstream)

theorem contract_markStopped :
    Action.Contract (changeSession fun s => { s with stoppedOnce := true })
      (Conducted w n h) (fun _ => Conducted w n { h with stopped := true })
      Action.never := by
  apply Action.Contract.update
  intro log d hd
  have hholders := hd.holders
  subst hholders
  exact hd.renamed (f := fun s => { s with stoppedOnce := true }) rfl rfl rfl rfl
    hd.streamed

theorem contract_leaveBootStage (hheld : n = 0 -> w.held = false) :
    Action.Contract leaveBootStage (Conducted w (n + 1) h)
      (fun _ => Conducted w n ({ h with stopped := true }.released n))
      Action.never := by
  apply Action.Contract.bind contract_markStopped
  intro _
  exact contract_release (fun _ _ => rfl) hheld

theorem contract_leaveStream
    (hboot : n = 0 -> h.boot = true -> h.stopped = true)
    (hheld : n = 0 -> w.held = false) :
    Action.Contract leaveStream (Conducted w (n + 1) h)
      (fun _ => Conducted w n { h.released n with stream := false })
      Action.never := by
  apply Action.Contract.bind (contract_release hboot hheld)
  intro _
  exact contract_dropStream

/-!
# The host's power

From here on a device is settled: it has one user for each holder.
-/

def Settled (w : Watch) (h : Holders) : Action.Assertion Device :=
  Conducted w h.users h

/-- Settled again, after the holders changed as they may. -/
def Followed (w : Watch) (h : Holders) (stops : Bool) (log : List Event)
    (d : Device) : Prop :=
  exists h', h.Follows h' stops ∧ Settled w h' log d

theorem Settled.followed {log : List Event} {d : Device} (hd : Settled w h log d) :
    Followed w h false log d :=
  ⟨h, Holders.Follows.refl h, hd⟩

theorem loadCommon_eq : loadCommon = pure () :=
  Action.ext (funext fun _ => rfl)

/-- The common program is empty, so the host's power is that of its user. -/
theorem grantPower_eq :
    grantPower = acquire >>= fun _ => changeSession fun s => { s with hostPower := true } := by
  have hidle : forall session : Session,
      Action.when (!session.fastBoot) loadCommon = pure () := by
    intro session
    rw [loadCommon_eq]
    cases session.fastBoot <;> rfl
  unfold grantPower
  simp only [hidle, pure_bind]
  rfl

/-- What users keep as they come and go is kept by the host's request for power. -/
theorem keeps_setPower_of_users {I : Action.Assertion Device} (hacquire : Action.Keeps I acquire)
    (hrelease : Action.Keeps I release)
    (hhost : forall on, Action.Keeps I (changeSession fun s => { s with hostPower := on }))
    (on : Bool) : Action.Keeps I (setPower on) := by
  apply Action.Keeps.inspect
  intro session
  split
  case isTrue => exact Action.Keeps.pure ()
  case isFalse =>
      cases on with
      | true =>
          rw [if_pos rfl, grantPower_eq]
          exact hacquire.bind fun _ => hhost true
      | false => exact hrelease.bind fun _ => hhost false

/-- Where it is known whether the host has power, a request changes that or nothing. -/
theorem contract_setPower_of_host {P Q : Action.Assertion Device}
    {E : Failure -> Action.Assertion Device} {host on : Bool}
    (hhost : forall log d, P log d -> d.session.hostPower = host)
    (hsame : host = on -> forall log d, P log d -> Q log d)
    (hgrant : host = false -> on = true -> Action.Contract grantPower P (fun _ => Q) E)
    (hwithdraw : host = true -> on = false ->
      Action.Contract withdrawPower P (fun _ => Q) E) :
    Action.Contract (setPower on) P (fun _ => Q) E := by
  apply Action.Contract.inspect_knowing (c := fun session => session.hostPower = host) hhost
  rintro session rfl
  split
  case isTrue heq => exact Action.Contract.pure (hsame heq)
  case isFalse hother =>
      cases on with
      | true => exact hgrant (Bool.eq_not_of_ne hother) rfl
      | false => exact hwithdraw (Bool.eq_not_of_ne hother) rfl

theorem contract_grantPower (hhost : h.host = false)
    (hheld : w.held = true -> h.host = true) :
    Action.Contract grantPower (Settled w h)
      (fun _ => Settled w { h with host := true }) (fun _ => Settled w h) := by
  have hidle : h.users = 0 -> h.stream = false ∧ w.held = false := by
    intro husers
    constructor
    · exact Holders.stream_of_users husers
    · rw [Bool.eq_false_iff]
      intro hholds
      exact nomatch hhost.symm.trans (hheld hholds)
  rw [grantPower_eq]
  apply Action.Contract.bind (contract_acquire hidle)
  intro _
  apply Action.Contract.update
  intro log d hd
  unfold Settled
  rw [Holders.users_grant hhost]
  have hholders := hd.holders
  subst hholders
  exact hd.renamed (f := fun s => { s with hostPower := true }) rfl rfl rfl rfl
    hd.streamed

theorem contract_withdrawPower (hhost : h.host = true) (hheld : w.held = false) :
    Action.Contract withdrawPower (Settled w h)
      (fun _ => Settled w { h with host := false }.settled) Action.never := by
  rcases h with ⟨host, stream, boot, stopped⟩
  cases hhost
  have husers := Holders.users_grant (h := ⟨false, stream, boot, stopped⟩) rfl
  have hsettled := Holders.users_settled ⟨false, stream, boot, stopped⟩
  unfold Settled
  rw [husers, hsettled]
  apply Action.Contract.bind (contract_release ?_ fun _ => hheld)
  · intro _
    have hdrop := contract_dropHost (w := w)
      (n := Holders.users ⟨false, stream, boot, stopped⟩)
      (h := Holders.released ⟨true, stream, boot, stopped⟩
        (Holders.users ⟨false, stream, boot, stopped⟩))
    rw [Holders.released_without_host] at hdrop
    exact hdrop
  · intro hnone hboot
    exact Holders.stopped_of_users (h := ⟨false, stream, boot, stopped⟩) hnone hboot

theorem Conducted.hostPower {log : List Event} {d : Device}
    (hd : Conducted w n h log d) : d.session.hostPower = h.host :=
  congrArg Holders.host hd.holders

theorem Conducted.streaming {log : List Event} {d : Device}
    (hd : Conducted w n h log d) : d.session.streaming = h.stream :=
  congrArg Holders.stream hd.holders

theorem Conducted.fastBoot {log : List Event} {d : Device}
    (hd : Conducted w n h log d) : d.session.fastBoot = h.boot :=
  congrArg Holders.boot hd.holders

theorem contract_setPower (on : Bool) (hheld : w.held = true -> h.host = true)
    (hon : on = false -> w.held = false) :
    Action.Contract (setPower on) (Settled w h) (fun _ => Followed w h false)
      (fun _ => Followed w h false) := by
  apply contract_setPower_of_host (fun _ _ hd => hd.hostPower)
  · intro _ _ _ hd
    exact hd.followed
  · intro hhost _
    have hgranted := (contract_grantPower hhost hheld).post
      fun _ _ _ hd => (⟨_, Holders.follows_grant h, hd⟩ : Followed w h false _ _)
    exact hgranted.orElse fun _ _ _ hd => hd.followed
  · intro hhost hoff
    have hwithdrawn := (contract_withdrawPower hhost (hon hoff)).post
      fun _ _ _ hd => (⟨_, Holders.follows_withdraw h, hd⟩ : Followed w h false _ _)
    exact hwithdrawn.anyFailure

/-!
# Streams
-/

/-- The board does not report that a boot stage still in use failed. -/
def HandoffStands (d : Device) : Prop :=
  d.session.fastBoot = true -> d.rig.board.reportsHandoffFailure = false

theorem run_takeOverIfNeeded {d : Device} (hstands : d.HandoffStands) :
    takeOverIfNeeded.run d = ⟨.ok false, d, []⟩ := by
  cases hfast : d.session.fastBoot with
  | false => simp [takeOverIfNeeded, Action.run_bind, hfast]
  | true => simp [takeOverIfNeeded, Action.run_bind, hfast, hstands hfast]

/-- Where the hand-over stands, a stream is begun by a user, a start and a mark. -/
theorem contract_beginStream_of_stands {P M I J : Action.Assertion Device}
    {E : Failure -> Action.Assertion Device}
    (hstands : forall log d, P log d -> d.HandoffStands)
    (hacquire : Action.Contract acquire P (fun _ => M) E)
    (hstart : Action.Contract (Action.onError startStream release) M (fun _ => I) E)
    (hmark : Action.Contract (changeSession fun s => { s with streaming := true }) I
      (fun _ => J) E) :
    Action.Contract beginStream P (fun _ => J) E := by
  apply Action.Contract.bind (M := fun surplus log d => surplus = false ∧ P log d)
  · intro log d hd
    rw [run_takeOverIfNeeded (hstands log d hd), List.append_nil]
    exact ⟨rfl, hd⟩
  intro surplus
  apply Action.Contract.assuming
  intro hsurplus
  subst hsurplus
  apply Action.Contract.bind hacquire
  intro _
  apply Action.Contract.bind (M := fun _ => M) (Action.Contract.pure fun _ _ hd => hd)
  intro _
  exact Action.Contract.bind hstart fun _ => hmark

/-- A stream that does not start gives its user back. -/
theorem contract_tryStream (hboot : h.boot = true -> 0 < n)
    (hheld : n = 0 -> w.held = false) :
    Action.Contract (Action.onError startStream release) (Conducted w (n + 1) h)
      (fun _ log d => Conducted w (n + 1) h log d ∧
        (h.boot = false -> d.session.programmed = true))
      (fun _ => Conducted w n h) := by
  have hsame : h.released n = h := by
    unfold Holders.released
    split
    case isFalse => rfl
    case isTrue hzero =>
        apply Holders.left_of_no_boot
        rw [Bool.eq_false_iff]
        intro hb
        exact Nat.ne_of_gt (hboot hb) hzero
  have hrelease : Action.Contract release (Conducted w (n + 1) h)
      (fun _ => Conducted w n (h.released n)) Action.never := by
    apply contract_release _ hheld
    intro hzero hb
    exact absurd hzero (Nat.ne_of_gt (hboot hb))
  rw [hsame] at hrelease
  apply Action.Contract.onError contract_startStream
  · intro e
    exact hrelease.anyFailure
  · intro kind _ _ hfalse
    exact hfalse.elim

/-- The user a started stream has taken becomes the stream's own. -/
theorem contract_markStream {E : Failure -> Action.Assertion Device}
    (hstream : h.stream = false) :
    Action.Contract (changeSession fun s => { s with streaming := true })
      (fun log d => Conducted w (h.users + 1) h log d ∧
        (h.boot = false -> d.session.programmed = true))
      (fun _ => Settled w { h with stream := true }) E := by
  apply Action.Contract.update
  intro log d hd
  unfold Settled
  rw [Holders.users_begin hstream]
  rcases hd with ⟨hd, hprogrammed⟩
  have hholders := hd.holders
  subst hholders
  exact hd.renamed (f := fun s => { s with streaming := true }) rfl rfl rfl rfl
    fun _ _ => hprogrammed

theorem contract_beginStream (hstream : h.stream = false)
    (hheld : w.held = true -> h.host = true) :
    Action.Contract beginStream
      (fun log d => Settled w h log d ∧ d.HandoffStands)
      (fun _ => Settled w { h with stream := true }) (fun _ => Settled w h) := by
  apply Action.Contract.knowing (c := h.boot = true -> 0 < h.users)
    (fun _ _ hd => hd.1.boot)
  intro hboot
  have hidle : h.users = 0 -> w.held = false := by
    intro husers
    rw [Bool.eq_false_iff]
    intro hholds
    exact nomatch (Holders.host_of_users husers).symm.trans (hheld hholds)
  have hacquire := contract_acquire (w := w) (n := h.users) (h := h)
    fun husers => ⟨hstream, hidle husers⟩
  exact contract_beginStream_of_stands (fun _ _ hd => hd.2)
    (hacquire.pre fun _ _ hd => hd.1) (contract_tryStream hboot hidle)
    (contract_markStream hstream)

/-- Without a boot stage's set-up, the stream is stopped by the standby write alone. -/
theorem run_stopStream {d : Device} (hboot : d.session.fastBoot = false) :
    stopStream.run d = (switchStream false).run d := by
  simp [stopStream, Action.run_bind, hboot]

theorem contract_stopStream_of_boot (hboot : h.boot = true) :
    Action.Contract stopStream (Conducted w (n + 1 + 1) h)
      (fun _ => Conducted w (n + 1) { h with stopped := true })
      (Action.reported (Conducted w (n + 1) { h with stopped := true })) := by
  apply Action.Contract.inspect
  intro session
  apply Action.Contract.bind _ fun _ => contract_tuned (tuned_switchStream false)
  have hfast : forall log d, Conducted w (n + 1 + 1) h log d ∧ d.session = session ->
      session.fastBoot = true := by
    intro log d hd
    rw [← hd.2]
    exact hd.1.fastBoot.trans hboot
  apply Action.Contract.knowing hfast
  intro hfast
  rw [hfast, Action.when_true]
  have hleave := contract_leaveBootStage (w := w) (n := n + 1) (h := h)
    fun hzero => nomatch hzero
  rw [Holders.released_of_users (Nat.succ_pos n)] at hleave
  exact hleave.anyFailure.pre fun _ _ hd => hd.1

theorem contract_stopStream_of_no_boot (hboot : h.boot = false) :
    Action.Contract stopStream (Conducted w (n + 1) h)
      (fun _ => Conducted w (n + 1) h)
      (Action.reported (Conducted w (n + 1) h)) := by
  intro log d hd
  rw [run_stopStream (hd.fastBoot.trans hboot)]
  exact contract_tuned (tuned_switchStream false) log d hd

/--
The first stop of a stream removes the boot stage's user if there is one.
Either way the stream's own user is left for the next step.
-/
theorem contract_stopStream (hstream : h.stream = true)
    (hnew : h.boot = true -> h.stopped = false) :
    Action.Contract stopStream (Settled w h)
      (fun _ => Conducted w (h.host.toNat + 1) h.stopping)
      (Action.reported (Conducted w (h.host.toNat + 1) h.stopping)) := by
  cases hboot : h.boot with
  | true =>
      have husers : h.users = h.host.toNat + 1 + 1 := by
        simp [Holders.users, Holders.waiting, hstream, hboot, hnew hboot]
      have hstopping : h.stopping = { h with stopped := true } := by
        simp [Holders.stopping, hboot]
      rw [hstopping]
      unfold Settled
      rw [husers]
      exact contract_stopStream_of_boot hboot
  | false =>
      have husers : h.users = h.host.toNat + 1 := by
        simp [Holders.users, Holders.waiting, hstream, hboot]
      rw [Holders.stopping_of_no_boot hboot]
      unfold Settled
      rw [husers]
      exact contract_stopStream_of_no_boot hboot

theorem contract_endStream (hstream : h.stream = true)
    (hnew : h.boot = true -> h.stopped = false)
    (hheld : w.held = true -> h.host = true) :
    Action.Contract endStream (Settled w h)
      (fun _ => Settled w { h.stopping with stream := false }.settled)
      (fun _ => Settled w { h.stopping with stream := false }.settled) := by
  have husers : { h.stopping with stream := false }.users = h.host.toNat := by
    have hwaiting := h.waiting_stopping
    show h.host.toNat + false.toNat + h.stopping.waiting.toNat = h.host.toNat
    rw [hwaiting]
    rfl
  have hleave := contract_leaveStream (w := w) (n := h.host.toNat) (h := h.stopping)
    (fun _ => Holders.stopped_stopping) (fun hzero => by
      rw [Bool.eq_false_iff]
      intro hholds
      rw [hheld hholds] at hzero
      cases hzero)
  rw [Holders.released_without_stream] at hleave
  unfold Settled
  rw [Holders.users_settled, husers]
  unfold Holders.settled
  rw [husers]
  apply Action.Contract.ensuring (contract_stopStream hstream hnew)
  · intro _
    exact hleave.anyFailure
  · intro _
    exact hleave.anyFailure
  · intro _ _ _ hfalse
    exact hfalse.elim

theorem run_setStream_on {d : Device} (hstreaming : d.session.streaming = false) :
    (setStream true).run d = beginStream.run d := by
  simp [setStream, Action.run_bind, hstreaming]

theorem run_setStream_off {d : Device} (hstreaming : d.session.streaming = true) :
    (setStream false).run d = endStream.run d := by
  simp [setStream, Action.run_bind, hstreaming]

theorem run_setStream_same {d : Device} {on : Bool}
    (hstreaming : d.session.streaming = on) :
    (setStream on).run d = ⟨.ok (), d, []⟩ := by
  simp [setStream, Action.run_bind, hstreaming]

theorem contract_setStream_on {P : Action.Assertion Device}
    {Q : Unit -> Action.Assertion Device} {E : Failure -> Action.Assertion Device}
    (hidle : forall log d, P log d -> d.session.streaming = false)
    (hbegin : Action.Contract beginStream P Q E) :
    Action.Contract (setStream true) P Q E := by
  intro log d hd
  rw [run_setStream_on (hidle log d hd)]
  exact hbegin log d hd

theorem contract_setStream_off {P : Action.Assertion Device}
    {Q : Unit -> Action.Assertion Device} {E : Failure -> Action.Assertion Device}
    (hstreaming : forall log d, P log d -> d.session.streaming = true)
    (hend : Action.Contract endStream P Q E) :
    Action.Contract (setStream false) P Q E := by
  intro log d hd
  rw [run_setStream_off (hstreaming log d hd)]
  exact hend log d hd

/-- What the start and the stop of the stream keep is kept by the request for it. -/
theorem keeps_setStream_of_switches {I : Action.Assertion Device}
    (hbegin : Action.Keeps I beginStream) (hend : Action.Keeps I endStream) (on : Bool) :
    Action.Keeps I (setStream on) := by
  apply Action.Keeps.inspect
  intro session
  split
  case isTrue => exact Action.Keeps.pure ()
  case isFalse =>
      cases on with
      | true => exact hbegin
      | false => exact hend

/-- Where it is known whether there is a stream, a request changes that or nothing. -/
theorem contract_setStream_of_streaming {P Q : Action.Assertion Device}
    {E : Failure -> Action.Assertion Device} {streaming on : Bool}
    (hstreaming : forall log d, P log d -> d.session.streaming = streaming)
    (hsame : streaming = on -> forall log d, P log d -> Q log d)
    (hbegin : streaming = false -> on = true ->
      Action.Contract beginStream P (fun _ => Q) E)
    (hend : streaming = true -> on = false -> Action.Contract endStream P (fun _ => Q) E) :
    Action.Contract (setStream on) P (fun _ => Q) E := by
  apply Action.Contract.inspect_knowing (c := fun session => session.streaming = streaming)
    hstreaming
  rintro session rfl
  split
  case isTrue heq => exact Action.Contract.pure (hsame heq)
  case isFalse hother =>
      cases on with
      | true => exact hbegin (Bool.eq_not_of_ne hother) rfl
      | false => exact hend (Bool.eq_not_of_ne hother) rfl

theorem contract_setStream (on : Bool)
    (hnew : on = false -> h.stream = true -> h.boot = true -> h.stopped = false)
    (hheld : w.held = true -> h.host = true) :
    Action.Contract (setStream on)
      (fun log d => Settled w h log d ∧ d.HandoffStands)
      (fun _ => Followed w h (!on && h.stream))
      (fun _ => Followed w h (!on && h.stream)) := by
  apply contract_setStream_of_streaming (fun _ _ hd => hd.1.streaming)
  · intro hsame _ _ hd
    rw [hsame, Bool.not_and_self]
    exact hd.1.followed
  · rintro hidle rfl
    rw [Bool.not_true, Bool.false_and]
    apply (contract_beginStream hidle hheld).consequence
    · intro _ _ hd
      exact hd
    · intro _ _ _ hd
      exact ⟨_, h.follows_begin, hd⟩
    · intro _ _ _ hd
      exact hd.followed
  · rintro hstream rfl
    rw [hstream, Bool.not_false, Bool.true_and]
    apply (contract_endStream hstream (hnew rfl hstream) hheld).consequence
    · intro _ _ hd
      exact hd.1
    · intro _ _ _ hd
      exact ⟨_, h.follows_stop, hd⟩
    · intro _ _ _ hd
      exact ⟨_, h.follows_stop, hd⟩

end Device
end ImageSensor
