import ImageSensor.Action

/-!
# Matching actions

A view shows what is essential of a state; of an event everything is, but for the
mark of a failure that is tolerated.  Two actions match if from states that show
the same they have outcomes that show the same, with the same result.  An action
that matches itself is impartial: it takes no notice of the rest.
-/

namespace ImageSensor

variable {σ τ α β : Type}

/-!
# What is essential
-/

/-- The event without the mark of a failure that is tolerated. -/
def Event.essential : Event -> Event
  | .clockRate hertz _ => .clockRate hertz true
  | .pins state _ => .pins state true
  | .line wire high _ => .line wire high true
  | e => e

/-- What is essential of an outcome, given what is essential of its state. -/
def Outcome.essential (view : σ -> σ) (o : Outcome σ α) : Outcome σ α :=
  ⟨o.result, view o.state, o.events.map Event.essential⟩

theorem Outcome.essential_eq_iff {view view' : σ -> σ} {o o' : Outcome σ α} :
    o.essential view = o'.essential view' <->
      o.result = o'.result ∧ view o.state = view' o'.state ∧
      o.events.map Event.essential = o'.events.map Event.essential := by
  simp only [Outcome.essential, Outcome.mk.injEq]

/-- What a view keeps is the same where the view is. -/
theorem eq_of_view {view : σ -> σ} {f : σ -> α} {s t : σ} (hst : view s = view t)
    (hf : forall s, f (view s) = f s) : f s = f t := by
  rw [← hf s, ← hf t, hst]

namespace Action

variable {view : σ -> σ} {x y z : Action σ α}

/-- From states that are essentially the same, outcomes are. -/
def Matched (view : σ -> σ) (x y : Action σ α) : Prop :=
  forall s t, view s = view t -> (x.run s).essential view = (y.run t).essential view

/-- An action that looks at what is essential only. -/
abbrev Impartial (view : σ -> σ) (x : Action σ α) : Prop :=
  Matched view x x

namespace Matched

theorem symm (h : Matched view x y) : Matched view y x :=
  fun s t hst => (h t s hst.symm).symm

theorem trans (hxy : Matched view x y) (hyz : Matched view y z) : Matched view x z :=
  fun s t hst => (hxy s t hst).trans (hyz t t rfl)

/-- An action whose outcome shows the same from what is essential is impartial. -/
theorem of_view (hx : forall s, (x.run (view s)).essential view = (x.run s).essential view) :
    Impartial view x :=
  fun _ _ hst => eq_of_view (f := fun s => (x.run s).essential view) hst hx

/-!
# Primitive actions
-/

/-- What leaves the state alone and does the same from any takes no notice of it. -/
theorem of_run {result : Except Failure α} {es : List Event}
    (hx : forall s, x.run s = ⟨result, s, es⟩) : Impartial view x := by
  intro s t hst
  rw [hx, hx]
  exact congrArg (Outcome.mk result · _) hst

protected theorem pure (a : α) : Impartial view (pure a) :=
  of_run fun _ => rfl

theorem report (e : Error) : Impartial view (report e : Action σ α) :=
  of_run fun _ => rfl

theorem settle (r : Except Error α) : Impartial view (settle r) := by
  cases r with
  | ok a => exact Matched.pure a
  | error e => exact Matched.report e

theorem compute (c : Checked α) : Impartial view (compute c) :=
  of_run fun _ => rfl

theorem emit (e : Event) : Impartial view (emit e) :=
  of_run fun _ => rfl

theorem inspect {f : σ -> α} (hf : forall s, f (view s) = f s) :
    Impartial view (inspect f) := by
  intro s t hst
  rw [run_inspect, run_inspect, eq_of_view hst hf]
  exact congrArg (Outcome.mk (.ok (f t)) · []) hst

theorem update {f g : σ -> σ} (hfg : forall s t, view s = view t -> view (f s) = view (g t)) :
    Matched view (update f) (update g) :=
  fun s t hst => congrArg (Outcome.mk _ · _) (hfg s t hst)

/-!
# Sequencing
-/

theorem bind {k l : α -> Action σ β} (hxy : Matched view x y)
    (hkl : forall a, Matched view (k a) (l a)) : Matched view (x >>= k) (y >>= l) := by
  intro s t hst
  rcases Outcome.essential_eq_iff.mp (hxy s t hst) with ⟨hresult, hstate, hevents⟩
  cases hs : (x.run s).result with
  | error failure =>
      rw [run_bind_of_error hs, run_bind_of_error (hresult.symm.trans hs)]
      exact Outcome.essential_eq_iff.mpr ⟨rfl, hstate, hevents⟩
  | ok a =>
      rcases Outcome.essential_eq_iff.mp (hkl a _ _ hstate) with ⟨hresult', hstate', hlater⟩
      rw [run_bind_of_ok hs, run_bind_of_ok (hresult.symm.trans hs)]
      refine Outcome.essential_eq_iff.mpr ⟨hresult', hstate', ?_⟩
      rw [Outcome.events_after, Outcome.events_after, List.map_append, List.map_append, hevents,
        hlater]

/-- An answer that nobody looks at may differ. -/
theorem bind_unread {z w : Action σ β}
    (hxy : Matched view (x >>= fun _ => pure ()) (y >>= fun _ => pure ()))
    (hzw : Matched view z w) : Matched view (x >>= fun _ => z) (y >>= fun _ => w) := by
  have hrest := hxy.bind fun _ => hzw
  simpa only [bind_assoc, pure_bind] using hrest

/-- What is looked at may differ as long as what follows matches. -/
theorem inspect_bind {γ δ : Type} {f : σ -> γ} {g : σ -> δ} {k : γ -> Action σ α}
    {l : δ -> Action σ α}
    (h : forall s t, view s = view t -> Matched view (k (f s)) (l (g t))) :
    Matched view (Action.inspect f >>= k) (Action.inspect g >>= l) := by
  intro s t hst
  rw [run_bind_ok (run_inspect f s), run_bind_ok (run_inspect g t)]
  exact h s t hst s t hst

protected theorem map (f : α -> β) (hxy : Matched view x y) :
    Matched view (f <$> x) (f <$> y) :=
  hxy.bind fun a => Matched.pure (f a)

theorem when {x y : Action σ Unit} (hxy : Matched view x y) (condition : Bool) :
    Matched view (when condition x) (when condition y) := by
  cases condition with
  | false => exact Matched.pure ()
  | true => exact hxy

/-!
# Going on after an error
-/

theorem attempt (hxy : Matched view x y) : Matched view (attempt x) (attempt y) := by
  intro s t hst
  rcases Outcome.essential_eq_iff.mp (hxy s t hst) with ⟨hresult, hstate, hevents⟩
  refine Outcome.essential_eq_iff.mpr ⟨?_, hstate, hevents⟩
  simp only [Action.attempt, hresult]

theorem both {x y z w : Action σ Unit} (hxy : Matched view x y) (hzw : Matched view z w) :
    Matched view (both x z) (both y w) :=
  hxy.attempt.bind fun _ => hzw.attempt.bind fun _ => Matched.settle _

theorem ensuring {z w : Action σ Unit} (hxy : Matched view x y) (hzw : Matched view z w) :
    Matched view (ensuring x z) (ensuring y w) :=
  hxy.attempt.bind fun r => hzw.bind fun _ => Matched.settle r

theorem onError {z w : Action σ Unit} (hxy : Matched view x y) (hzw : Matched view z w) :
    Matched view (onError x z) (onError y w) := by
  apply hxy.attempt.bind
  intro r
  cases r with
  | ok a => exact Matched.pure a
  | error e => exact hzw.bind fun _ => Matched.report e

/-!
# Parts of the state
-/

theorem within {part : Part σ τ} {view' : τ -> τ} {x y : Action τ α}
    (hget : forall s, part.get (view s) = view' (part.get s))
    (hset : forall a s, view (part.set a s) = part.set (view' a) (view s))
    (hxy : Matched view' x y) : Matched view (within part x) (within part y) := by
  intro s t hst
  have hpart : view' (part.get s) = view' (part.get t) := by
    rw [← hget, ← hget, hst]
  rcases Outcome.essential_eq_iff.mp (hxy _ _ hpart) with ⟨hresult, hstate, hevents⟩
  refine Outcome.essential_eq_iff.mpr ⟨hresult, ?_, hevents⟩
  rw [run_within, run_within, hset, hset, hstate, hst]

/-- Where all of a state is essential every action is impartial. -/
theorem of_id (x : Action σ α) : Impartial id x := by
  intro s t hst
  cases hst
  rfl

end Matched
end Action

end ImageSensor
