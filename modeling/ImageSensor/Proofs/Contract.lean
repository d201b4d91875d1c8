import ImageSensor.Action

/-!
# Contracts of actions

Two ways to say what an action does, each closed under the ways to put actions
together.  `Obeys` relates the state before, the events and the state after,
whatever the result; it serves for what an action leaves alone.  `Contract`
starts from an assertion about the events so far and the state, and ends in one
assertion for a result and one for a failure; it serves for invariants that
hold only between the steps of a sequence.
-/

namespace ImageSensor
namespace Action

variable {σ τ α β γ : Type}

/-!
# Running to a known end
-/

theorem result_attempt (x : Action σ α) (s : σ) :
    ((attempt x).run s).result =
      match (x.run s).result with
      | .ok a => .ok (.ok a)
      | .error (.reported e) => .ok (.error e)
      | .error (.overflow kind) => .error (.overflow kind) := rfl

theorem result_map (f : α -> β) (x : Action σ α) (s : σ) :
    ((f <$> x).run s).result = (x.run s).result.map f := by
  rw [map_eq_pure_bind]
  cases hres : (x.run s).result with
  | ok a =>
      rw [run_bind_of_ok hres]
      rfl
  | error e =>
      rw [run_bind_of_error hres]
      rfl

@[simp]
theorem state_map (f : α -> β) (x : Action σ α) (s : σ) :
    ((f <$> x).run s).state = (x.run s).state := by
  rw [map_eq_pure_bind]
  cases hres : (x.run s).result with
  | ok a =>
      rw [run_bind_of_ok hres]
      rfl
  | error e => rw [run_bind_of_error hres]

@[simp]
theorem events_map (f : α -> β) (x : Action σ α) (s : σ) :
    ((f <$> x).run s).events = (x.run s).events := by
  rw [map_eq_pure_bind]
  cases hres : (x.run s).result with
  | ok a =>
      rw [run_bind_of_ok hres, Outcome.events_after, run_pure, List.append_nil]
  | error e => rw [run_bind_of_error hres]

theorem events_prefix_bind (x : Action σ α) (f : α -> Action σ β) (s : σ) :
    (x.run s).events <+: ((x >>= f).run s).events := by
  cases hres : (x.run s).result with
  | ok a =>
      rw [run_bind_of_ok hres]
      exact List.prefix_append _ _
  | error e =>
      have heq := congrArg Outcome.events (run_bind_of_error hres f)
      exact heq ▸ List.prefix_refl _

theorem events_prefix_ensuring (x : Action σ α) (y : Action σ Unit) (s : σ) :
    (x.run s).events <+: ((ensuring x y).run s).events :=
  events_prefix_bind (attempt x) _ s

theorem run_onError_of_ok {x : Action σ α} {s t : σ} {a : α}
    {es : List Event} (h : x.run s = ⟨.ok a, t, es⟩) (y : Action σ Unit) :
    (onError x y).run s = ⟨.ok a, t, es⟩ := by
  have hattempt : (attempt x).run s = ⟨.ok (.ok a), t, es⟩ := by
    simp [attempt, h]
  simp [onError, run_bind, hattempt, Outcome.after]

theorem run_onError_of_reported {x : Action σ α} {y : Action σ Unit}
    {s t u : σ} {e : Error} {es fs : List Event}
    (h : x.run s = ⟨.error (.reported e), t, es⟩)
    (hy : y.run t = ⟨.ok (), u, fs⟩) :
    (onError x y).run s = ⟨.error (.reported e), u, es ++ fs⟩ := by
  have hattempt : (attempt x).run s = ⟨.ok (.error e), t, es⟩ := by
    simp [attempt, h]
  simp [onError, run_bind, hattempt, hy, Outcome.after]

/-- What was attempted is settled as if it had not been. -/
theorem attempt_settle (x : Action σ α) : (attempt x >>= settle) = x := by
  apply Action.ext
  funext s
  have hattempt := result_attempt x s
  cases hres : (x.run s).result with
  | ok a =>
      rw [hres] at hattempt
      rw [run_bind_of_ok hattempt]
      apply Outcome.ext <;> simp [settle, hres]
  | error e =>
      rw [hres] at hattempt
      cases e with
      | reported e =>
          rw [run_bind_of_ok hattempt]
          apply Outcome.ext <;> simp [settle, hres]
      | overflow kind =>
          rw [run_bind_of_error hattempt]
          apply Outcome.ext <;> simp [hres]

theorem run_both_of_ok {x : Action σ Unit} {s t : σ} {es : List Event}
    (h : x.run s = ⟨.ok (), t, es⟩) (y : Action σ Unit) :
    (both x y).run s = (y.run t).after es := by
  have hattempt : (attempt x).run s = ⟨.ok (.ok ()), t, es⟩ := by
    simp [attempt, h]
  unfold both
  rw [run_bind_ok hattempt]
  show ((attempt y >>= settle).run t).after es = _
  rw [attempt_settle]

theorem run_both_of_reported {x y : Action σ Unit} {s t : σ} {e : Error} {es : List Event}
    (h : x.run s = ⟨.error (.reported e), t, es⟩)
    (hy : forall kind, (y.run t).result ≠ .error (.overflow kind)) :
    (both x y).run s =
      ⟨.error (.reported e), (y.run t).state, es ++ (y.run t).events⟩ := by
  have hattempt : (attempt x).run s = ⟨.ok (.error e), t, es⟩ := by
    simp [attempt, h]
  have hsecond : exists answer, ((attempt y).run t).result = .ok answer := by
    rw [result_attempt]
    cases hres : (y.run t).result with
    | ok a => exact ⟨_, rfl⟩
    | error e =>
        cases e with
        | reported e => exact ⟨_, rfl⟩
        | overflow kind => exact (hy kind hres).elim
  rcases hsecond with ⟨answer, hanswer⟩
  unfold both
  rw [run_bind_ok hattempt, run_bind_of_ok hanswer]
  simp [settle, Except.bind, Outcome.after]

theorem run_ensuring {x : Action σ α} {y : Action σ Unit} {s t u : σ}
    {r : Except Failure α} {es fs : List Event} (h : x.run s = ⟨r, t, es⟩)
    (hr : forall kind, r ≠ .error (.overflow kind)) (hy : y.run t = ⟨.ok (), u, fs⟩) :
    (ensuring x y).run s = ⟨r, u, es ++ fs⟩ := by
  have hattempt := result_attempt x s
  rw [h] at hattempt
  cases r with
  | ok a =>
      unfold ensuring
      rw [run_bind_of_ok hattempt, state_attempt, events_attempt, h, run_bind_ok hy]
      simp [settle, Outcome.after]
  | error e =>
      cases e with
      | reported e =>
          unfold ensuring
          rw [run_bind_of_ok hattempt, state_attempt, events_attempt, h, run_bind_ok hy]
          simp [settle, Outcome.after]
      | overflow kind => exact (hr kind rfl).elim

/-!
# Relations that sequencing keeps
-/

/--
The state before, the events and the state after are related, whatever the
result.  The action does no arithmetic that could overflow.
-/
def Obeys (R : σ -> List Event -> σ -> Prop) (x : Action σ α) : Prop :=
  forall s, R s (x.run s).events (x.run s).state ∧
    forall kind, (x.run s).result ≠ .error (.overflow kind)

/-- A relation that holds of doing nothing, and of two things in a row. -/
structure Composes (R : σ -> List Event -> σ -> Prop) : Prop where
  refl : forall s, R s [] s
  trans : forall {s t u : σ} {es fs : List Event},
    R s es t -> R t fs u -> R s (es ++ fs) u

section Obeys

variable {R : σ -> List Event -> σ -> Prop}

theorem Composes.pure (hR : Composes R) (a : α) :
    Obeys R (pure a : Action σ α) :=
  fun s => ⟨hR.refl s, fun _ h => nomatch h⟩

theorem Composes.inspect (hR : Composes R) (f : σ -> α) :
    Obeys R (inspect f) :=
  fun s => ⟨hR.refl s, fun _ h => nomatch h⟩

theorem Composes.report (hR : Composes R) (e : Error) :
    Obeys R (report e : Action σ α) :=
  fun s => ⟨hR.refl s, fun _ h => nomatch h⟩

theorem Composes.settle (hR : Composes R) (r : Except Error α) :
    Obeys R (settle r : Action σ α) := by
  cases r with
  | ok a => exact hR.pure a
  | error e => exact hR.report e

theorem Composes.bind (hR : Composes R) {x : Action σ α}
    {f : α -> Action σ β} (hx : Obeys R x) (hf : forall a, Obeys R (f a)) :
    Obeys R (x >>= f) := by
  intro s
  cases hres : (x.run s).result with
  | ok a =>
      rw [run_bind_of_ok hres]
      have hnext := hf a (x.run s).state
      exact ⟨hR.trans (hx s).1 hnext.1, hnext.2⟩
  | error e =>
      rw [run_bind_of_error hres]
      refine ⟨(hx s).1, ?_⟩
      intro kind hover
      cases hover
      exact (hx s).2 kind hres

theorem Composes.when (hR : Composes R) (c : Bool) {x : Action σ Unit}
    (hx : Obeys R x) : Obeys R (when c x) := by
  cases c with
  | false => exact hR.pure ()
  | true => exact hx

theorem Obeys.attempt {x : Action σ α} (hx : Obeys R x) :
    Obeys R (attempt x) := by
  intro s
  refine ⟨(hx s).1, ?_⟩
  intro kind hover
  rw [result_attempt] at hover
  cases hres : (x.run s).result with
  | ok a => simp [hres] at hover
  | error e =>
      cases e with
      | reported e => simp [hres] at hover
      | overflow other => exact (hx s).2 other hres

theorem Composes.both (hR : Composes R) {x y : Action σ Unit}
    (hx : Obeys R x) (hy : Obeys R y) : Obeys R (both x y) := by
  unfold Action.both
  apply hR.bind hx.attempt
  intro first
  apply hR.bind hy.attempt
  intro second
  exact hR.settle _

end Obeys

/-!
# Assertions before and after
-/

/-- What may hold of the events so far and the state. -/
abbrev Assertion (σ : Type) : Type :=
  List Event -> σ -> Prop

/-- Started under `P`, the action ends under `Q` with a result and under `E` without. -/
def Contract (x : Action σ α) (P : Assertion σ) (Q : α -> Assertion σ)
    (E : Failure -> Assertion σ) : Prop :=
  forall log s, P log s ->
    match (x.run s).result with
    | .ok a => Q a (log ++ (x.run s).events) (x.run s).state
    | .error e => E e (log ++ (x.run s).events) (x.run s).state

/-- Some error was reported, under an assertion; the arithmetic did not overflow. -/
def reported (I : Assertion σ) : Failure -> Assertion σ
  | .reported _ => I
  | .overflow _ => fun _ _ => False

theorem reported_mono {I J : Assertion σ} (h : forall log s, I log s -> J log s)
    (e : Failure) (log : List Event) (s : σ) (hs : reported I e log s) :
    reported J e log s := by
  cases e with
  | reported e => exact h log s hs
  | overflow kind => exact hs

/-- The action does not fail. -/
def never : Failure -> Assertion σ :=
  fun _ _ _ => False

/-- The action keeps an assertion, whatever the result. -/
abbrev Keeps (I : Assertion σ) (x : Action σ α) : Prop :=
  Contract x I (fun _ => I) fun _ => I

section Contract

variable {P : Assertion σ} {Q : α -> Assertion σ} {E : Failure -> Assertion σ}

theorem Contract.result {x : Action σ α} (h : Contract x P Q E)
    {log : List Event} {s : σ} (hs : P log s) {a : α}
    (hres : (x.run s).result = .ok a) :
    Q a (log ++ (x.run s).events) (x.run s).state := by
  have hend := h log s hs
  rw [hres] at hend
  exact hend

theorem Contract.failure {x : Action σ α} (h : Contract x P Q E)
    {log : List Event} {s : σ} (hs : P log s) {e : Failure}
    (hres : (x.run s).result = .error e) :
    E e (log ++ (x.run s).events) (x.run s).state := by
  have hend := h log s hs
  rw [hres] at hend
  exact hend

theorem Contract.always {x : Action σ α} {I : Assertion σ}
    (h : Contract x P (fun _ => I) (fun _ => I)) {log : List Event} {s : σ}
    (hs : P log s) : I (log ++ (x.run s).events) (x.run s).state := by
  cases hres : (x.run s).result with
  | ok a => exact h.result hs hres
  | error e => exact h.failure hs hres

/-- What holds whatever the result is an assertion for a result and for a failure. -/
theorem Contract.of_always {x : Action σ α} {I : Assertion σ}
    (h : forall log s, P log s -> I (log ++ (x.run s).events) (x.run s).state) :
    Contract x P (fun _ => I) (fun _ => I) := by
  intro log s hs
  have hend := h log s hs
  cases (x.run s).result with
  | ok a => exact hend
  | error e => exact hend

theorem Contract.consequence {x : Action σ α} {P' : Assertion σ}
    {Q' : α -> Assertion σ} {E' : Failure -> Assertion σ}
    (h : Contract x P Q E)
    (hP : forall log s, P' log s -> P log s)
    (hQ : forall a log s, Q a log s -> Q' a log s)
    (hE : forall e log s, E e log s -> E' e log s) :
    Contract x P' Q' E' := by
  intro log s hs
  cases hres : (x.run s).result with
  | ok a => exact hQ _ _ _ (h.result (hP _ _ hs) hres)
  | error e => exact hE _ _ _ (h.failure (hP _ _ hs) hres)

theorem Contract.pre {x : Action σ α} {P' : Assertion σ}
    (h : Contract x P Q E) (hP : forall log s, P' log s -> P log s) :
    Contract x P' Q E :=
  h.consequence hP (fun _ _ _ hq => hq) (fun _ _ _ he => he)

theorem Contract.post {x : Action σ α} {Q' : α -> Assertion σ}
    (h : Contract x P Q E) (hQ : forall a log s, Q a log s -> Q' a log s) :
    Contract x P Q' E :=
  h.consequence (fun _ _ hp => hp) hQ (fun _ _ _ he => he)

theorem Contract.orElse {x : Action σ α} {E' : Failure -> Assertion σ}
    (h : Contract x P Q E) (hE : forall e log s, E e log s -> E' e log s) :
    Contract x P Q E' :=
  h.consequence (fun _ _ hp => hp) (fun _ _ _ hq => hq) hE

theorem Contract.anyFailure {x : Action σ α} (h : Contract x P Q never) :
    Contract x P Q E :=
  h.orElse fun _ _ _ hfalse => hfalse.elim

/-- A condition on neither events nor state may be assumed. -/
theorem Contract.assuming {x : Action σ α} {c : Prop}
    (h : c -> Contract x P Q E) :
    Contract x (fun log s => c ∧ P log s) Q E :=
  fun log s hs => h hs.1 log s hs.2

/-- A condition that follows from the assertion may be assumed. -/
theorem Contract.knowing {x : Action σ α} {c : Prop}
    (hc : forall log s, P log s -> c) (h : c -> Contract x P Q E) :
    Contract x P Q E :=
  fun log s hs => h (hc log s hs) log s hs

theorem Contract.pure {a : α} (h : forall log s, P log s -> Q a log s) :
    Contract (pure a : Action σ α) P Q E := by
  intro log s hs
  simpa using h log s hs

theorem Contract.report {e : Error}
    (h : forall log s, P log s -> E (.reported e) log s) :
    Contract (report e : Action σ α) P Q E := by
  intro log s hs
  simpa using h log s hs

theorem Contract.update {f : σ -> σ} {Q : Assertion σ}
    (h : forall log s, P log s -> Q log (f s)) :
    Contract (update f) P (fun _ => Q) E := by
  intro log s hs
  simpa using h log s hs

theorem Contract.bind {x : Action σ β} {f : β -> Action σ α}
    {M : β -> Assertion σ} (hx : Contract x P M E)
    (hf : forall b, Contract (f b) (M b) Q E) :
    Contract (x >>= f) P Q E := by
  intro log s hs
  cases hres : (x.run s).result with
  | ok b =>
      have hmid := hx.result hs hres
      have hend := hf b _ _ hmid
      rw [run_bind_of_ok hres]
      simpa [List.append_assoc] using hend
  | error e =>
      rw [run_bind_of_error hres]
      exact hx.failure hs hres

/-- What is seen may be assumed from then on. -/
theorem Contract.inspect {f : σ -> β} {k : β -> Action σ α}
    (hk : forall b, Contract (k b) (fun log s => P log s ∧ f s = b) Q E) :
    Contract (inspect f >>= k) P Q E := by
  apply Contract.bind (M := fun b log s => P log s ∧ f s = b)
  · intro log s hs
    simpa using hs
  · exact hk

/-- Of what is seen, only a condition that the assertion implies may be of use. -/
theorem Contract.inspect_knowing {f : σ -> β} {k : β -> Action σ α} {c : β -> Prop}
    (hc : forall log s, P log s -> c (f s)) (hk : forall b, c b -> Contract (k b) P Q E) :
    Contract (Action.inspect f >>= k) P Q E := by
  apply Contract.inspect
  intro b
  apply Contract.knowing (c := c b)
  · rintro log s ⟨hs, rfl⟩
    exact hc log s hs
  · intro hb
    exact (hk b hb).pre fun _ _ hs => hs.1

/-- What the assertion tells need not be looked at. -/
theorem Contract.inspect_known {f : σ -> β} {k : β -> Action σ α} {b : β}
    (hb : forall log s, P log s -> f s = b) (hk : Contract (k b) P Q E) :
    Contract (Action.inspect f >>= k) P Q E := by
  apply Contract.inspect_knowing (c := fun seen => seen = b) hb
  rintro _ rfl
  exact hk

theorem Contract.when {c : Bool} {x : Action σ Unit} {Q : Assertion σ}
    (htrue : c = true -> Contract x P (fun _ => Q) E)
    (hfalse : c = false -> forall log s, P log s -> Q log s) :
    Contract (when c x) P (fun _ => Q) E := by
  cases c with
  | false => exact Contract.pure (hfalse rfl)
  | true => exact htrue rfl

theorem Contract.compute {c : Checked α}
    (hok : forall log s, P log s -> forall a, c = .ok a -> Q a log s)
    (hover : forall kind log s, P log s -> E (.overflow kind) log s) :
    Contract (Action.compute c) P Q E := by
  intro log s hs
  cases c with
  | ok a => simpa using hok log s hs a rfl
  | error kind => simpa using hover kind log s hs

theorem Contract.look {f : σ -> α} {I : Assertion σ}
    (h : forall log s, P log s -> I log s) :
    Contract (Action.inspect f) P (fun _ => I) E := by
  intro log s hs
  simpa using h log s hs

theorem Contract.map {x : Action σ α} {f : α -> β} {I : Assertion σ}
    (hx : Contract x P (fun _ => I) E) :
    Contract (f <$> x) P (fun _ => I) E := by
  rw [map_eq_pure_bind]
  apply Contract.bind hx
  intro _
  exact Contract.pure fun _ _ h => h

/-!
# Contracts of going on after an error
-/

theorem Contract.attempt {x : Action σ α} {F : Failure -> Assertion σ}
    (hx : Contract x P Q F)
    (hover : forall kind log s,
      F (.overflow kind) log s -> E (.overflow kind) log s) :
    Contract (attempt x) P
      (fun r log s =>
        match r with
        | .ok a => Q a log s
        | .error e => F (.reported e) log s) E := by
  intro log s hs
  rw [state_attempt, events_attempt, result_attempt]
  cases hres : (x.run s).result with
  | ok a => exact hx.result hs hres
  | error f =>
      have hend := hx.failure hs hres
      cases f with
      | reported e => exact hend
      | overflow kind => exact hover kind _ _ hend

theorem Contract.onError {x : Action σ α} {y : Action σ Unit}
    {F : Failure -> Assertion σ} (hx : Contract x P Q F)
    (hy : forall e, Contract y (F (.reported e)) (fun _ => E (.reported e)) E)
    (hover : forall kind log s,
      F (.overflow kind) log s -> E (.overflow kind) log s) :
    Contract (onError x y) P Q E := by
  unfold Action.onError
  apply Contract.bind (hx.attempt hover)
  intro r
  cases r with
  | ok a => exact Contract.pure fun _ _ h => h
  | error e =>
      apply Contract.bind (hy e)
      intro _
      exact Contract.report fun _ _ h => h

theorem Contract.ensuring {x : Action σ α} {y : Action σ Unit}
    {M : α -> Assertion σ} {F : Failure -> Assertion σ}
    (hx : Contract x P M F)
    (hok : forall a, Contract y (M a) (fun _ => Q a) E)
    (herror : forall e,
      Contract y (F (.reported e)) (fun _ => E (.reported e)) E)
    (hover : forall kind log s,
      F (.overflow kind) log s -> E (.overflow kind) log s) :
    Contract (ensuring x y) P Q E := by
  unfold Action.ensuring
  apply Contract.bind (hx.attempt hover)
  intro r
  cases r with
  | ok a =>
      apply Contract.bind (hok a)
      intro _
      exact Contract.pure fun _ _ h => h
  | error e =>
      apply Contract.bind (herror e)
      intro _
      exact Contract.report fun _ _ h => h

/-- Whatever the first action did, the second is tried; either failure counts. -/
theorem Contract.both {x y : Action σ Unit} {M I Q : Assertion σ}
    {F : Failure -> Assertion σ} (hx : Contract x P (fun _ => M) F)
    (hok : Contract y M (fun _ => Q) (fun _ => I))
    (herror : forall e, Contract y (F (.reported e)) (fun _ => I) (fun _ => I))
    (hover : forall kind log s, F (.overflow kind) log s -> I log s) :
    Contract (both x y) P (fun _ => Q) (fun _ => I) := by
  unfold Action.both
  apply Contract.bind (hx.attempt hover)
  intro first
  cases first with
  | ok _ =>
      apply Contract.bind (hok.attempt fun _ _ _ h => h)
      intro second
      cases second with
      | ok _ => exact Contract.pure fun _ _ h => h
      | error e => exact Contract.report fun _ _ h => h
  | error e =>
      apply Contract.bind ((herror e).attempt fun _ _ _ h => h)
      intro second
      cases second with
      | ok _ => exact Contract.report fun _ _ h => h
      | error _ => exact Contract.report fun _ _ h => h

/-- Where the first action does not fail, the second decides. -/
theorem Contract.both_of_ok {x y : Action σ Unit} {M Q : Assertion σ}
    (hx : Contract x P (fun _ => M) never) (hy : Contract y M (fun _ => Q) E) :
    Contract (Action.both x y) P (fun _ => Q) E := by
  intro log s hs
  rcases hrun : x.run s with ⟨result, t, es⟩
  have hmid := hx log s hs
  rw [hrun] at hmid
  cases result with
  | error e => exact hmid.elim
  | ok _ =>
      have hend := hy _ t hmid
      rw [run_both_of_ok hrun y]
      simpa [List.append_assoc] using hend

theorem Contract.and {x : Action σ α} {P' : Assertion σ} {Q' : α -> Assertion σ}
    {E' : Failure -> Assertion σ} (h : Contract x P Q E) (h' : Contract x P' Q' E') :
    Contract x (fun log s => P log s ∧ P' log s)
      (fun a log s => Q a log s ∧ Q' a log s)
      (fun e log s => E e log s ∧ E' e log s) := by
  intro log s hs
  cases hres : (x.run s).result with
  | ok a => exact ⟨h.result hs.1 hres, h'.result hs.2 hres⟩
  | error e => exact ⟨h.failure hs.1 hres, h'.failure hs.2 hres⟩

theorem Obeys.contract {R : σ -> List Event -> σ -> Prop} {x : Action σ α}
    {I : Assertion σ} (hx : Obeys R x)
    (hkeep : forall log s es t, P log s -> R s es t -> I (log ++ es) t) :
    Contract x P (fun _ => I) (reported I) := by
  intro log s hs
  have hend := hkeep log s _ _ hs (hx s).1
  cases hres : (x.run s).result with
  | ok a => exact hend
  | error e =>
      cases e with
      | reported e => exact hend
      | overflow kind => exact ((hx s).2 kind hres).elim

/-!
# Assertions that are kept
-/

section Keeps

variable {I : Assertion σ}

theorem Keeps.inspect {f : σ -> β} {k : β -> Action σ α}
    (hk : forall b, Keeps I (k b)) : Keeps I (inspect f >>= k) :=
  Contract.inspect fun b => (hk b).pre fun _ _ hs => hs.1

theorem Keeps.bind {x : Action σ β} {f : β -> Action σ α} (hx : Keeps I x)
    (hf : forall b, Keeps I (f b)) : Keeps I (x >>= f) :=
  Contract.bind hx hf

theorem Keeps.when {x : Action σ Unit} (c : Bool) (hx : Keeps I x) :
    Keeps I (when c x) :=
  Contract.when (fun _ => hx) fun _ _ _ hs => hs

theorem Keeps.pure (a : α) : Keeps I (pure a : Action σ α) :=
  Contract.pure fun _ _ hs => hs

theorem Keeps.onError {x : Action σ α} {y : Action σ Unit} (hx : Keeps I x)
    (hy : Keeps I y) : Keeps I (onError x y) :=
  Contract.onError hx (fun _ => hy) fun _ _ _ hs => hs

theorem Keeps.ensuring {x : Action σ α} {y : Action σ Unit} (hx : Keeps I x)
    (hy : Keeps I y) : Keeps I (ensuring x y) :=
  Contract.ensuring hx (fun _ => hy) (fun _ => hy) fun _ _ _ hs => hs

theorem Keeps.both {x y : Action σ Unit} (hx : Keeps I x) (hy : Keeps I y) :
    Keeps I (both x y) :=
  Contract.both hx hy (fun _ => hy) fun _ _ _ hs => hs

theorem Obeys.keeps {R : σ -> List Event -> σ -> Prop} {x : Action σ α} (hx : Obeys R x)
    (hkeep : forall log s es t, I log s -> R s es t -> I (log ++ es) t) : Keeps I x :=
  Contract.of_always fun log s hs => hkeep log s _ _ hs (hx s).1

/-- What cannot overflow ends by reporting its error. -/
theorem Obeys.reports {R : σ -> List Event -> σ -> Prop} {x : Action σ α}
    (hx : Obeys R x) (hkeeps : Keeps I x) :
    Contract x I (fun _ => I) (reported I) := by
  intro log s hs
  have hend := hkeeps.always hs
  cases hres : (x.run s).result with
  | ok a => exact hend
  | error e =>
      cases e with
      | reported e => exact hend
      | overflow kind => exact ((hx s).2 kind hres).elim

end Keeps

end Contract
end Action
end ImageSensor
