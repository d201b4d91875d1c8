import ImageSensor.Event

/-!
# Actions

An action changes a state, records events and ends with a result or a failure.
State changes and events of an action that fails are kept: a device cannot
take back what it has already put on the bus.  Actions form a monad in which a
failure skips the rest; `attempt`, `both`, `ensuring` and `onError` are the
four ways to go on after an error that was reported.  An overflow passes
through all of them.
-/

namespace ImageSensor

variable {σ τ α β γ : Type}

/-- What running an action yields. -/
@[ext]
structure Outcome (σ α : Type) where
  result : Except Failure α
  state : σ
  events : List Event

namespace Outcome

/-- The outcome of an action that ran after the given events. -/
def after (earlier : List Event) (o : Outcome σ α) : Outcome σ α :=
  { o with events := earlier ++ o.events }

@[simp]
theorem after_nil (o : Outcome σ α) : o.after [] = o := rfl

@[simp]
theorem after_after (es fs : List Event) (o : Outcome σ α) :
    (o.after fs).after es = o.after (es ++ fs) := by
  simp [after, List.append_assoc]

@[simp]
theorem result_after (es : List Event) (o : Outcome σ α) :
    (o.after es).result = o.result := rfl

@[simp]
theorem state_after (es : List Event) (o : Outcome σ α) :
    (o.after es).state = o.state := rfl

@[simp]
theorem events_after (es : List Event) (o : Outcome σ α) :
    (o.after es).events = es ++ o.events := rfl

end Outcome

/-- An effectful computation over a state. -/
@[ext]
structure Action (σ α : Type) where
  run : σ -> Outcome σ α

namespace Action

/-!
# Sequencing
-/

/-- Returns a value and does nothing else. -/
protected def pure (a : α) : Action σ α :=
  ⟨fun s => ⟨.ok a, s, []⟩⟩

/-- Runs an action and goes on with its result, unless it failed. -/
protected def bind (x : Action σ α) (f : α -> Action σ β) : Action σ β :=
  ⟨fun s =>
    let o := x.run s
    match o.result with
    | .ok a => ((f a).run o.state).after o.events
    | .error e => ⟨.error e, o.state, o.events⟩⟩

instance : Monad (Action σ) where
  pure := Action.pure
  bind := Action.bind

@[simp]
theorem run_pure (a : α) (s : σ) :
    (pure a : Action σ α).run s = ⟨.ok a, s, []⟩ := rfl

theorem run_bind (x : Action σ α) (f : α -> Action σ β) (s : σ) :
    (x >>= f).run s =
      match (x.run s).result with
      | .ok a => ((f a).run (x.run s).state).after (x.run s).events
      | .error e => ⟨.error e, (x.run s).state, (x.run s).events⟩ := rfl

theorem run_bind_of_ok {x : Action σ α} {s : σ} {a : α}
    (h : (x.run s).result = .ok a) (f : α -> Action σ β) :
    (x >>= f).run s = ((f a).run (x.run s).state).after (x.run s).events := by
  rw [run_bind, h]

theorem run_bind_of_error {x : Action σ α} {s : σ} {e : Failure}
    (h : (x.run s).result = .error e) (f : α -> Action σ β) :
    (x >>= f).run s = ⟨.error e, (x.run s).state, (x.run s).events⟩ := by
  rw [run_bind, h]

theorem run_bind_ok {x : Action σ α} {s t : σ} {a : α} {es : List Event}
    (h : x.run s = ⟨.ok a, t, es⟩) (f : α -> Action σ β) :
    (x >>= f).run s = ((f a).run t).after es := by
  rw [run_bind, h]

theorem run_bind_error {x : Action σ α} {s t : σ} {e : Failure} {es : List Event}
    (h : x.run s = ⟨.error e, t, es⟩) (f : α -> Action σ β) :
    (x >>= f).run s = ⟨.error e, t, es⟩ := by
  rw [run_bind, h]

instance : LawfulMonad (Action σ) := by
  refine LawfulMonad.mk' (Action σ) ?idMap ?pureBind ?bindAssoc
  case idMap =>
      intro α x
      apply Action.ext
      funext s
      show (x >>= fun a => pure a).run s = x.run s
      cases h : (x.run s).result with
      | ok a =>
          rw [run_bind_of_ok h]
          apply Outcome.ext <;> simp [h]
      | error e =>
          rw [run_bind_of_error h]
          apply Outcome.ext <;> simp [h]
  case pureBind =>
      intro α β a f
      apply Action.ext
      funext s
      rw [run_bind]
      simp
  case bindAssoc =>
      intro α β γ x f g
      apply Action.ext
      funext s
      cases h : (x.run s).result with
      | error e =>
          rw [run_bind_of_error h]
          have hinner := run_bind_of_error h f
          rw [run_bind, hinner]
      | ok a =>
          rw [run_bind_of_ok h]
          have hinner := run_bind_of_ok h f
          rw [run_bind, hinner, run_bind]
          cases h' : ((f a).run (x.run s).state).result <;>
            simp [h', Outcome.after]

/-!
# Primitive actions
-/

/-- Looks at the state. -/
def inspect (f : σ -> α) : Action σ α :=
  ⟨fun s => ⟨.ok (f s), s, []⟩⟩

/-- Changes the state. -/
def update (f : σ -> σ) : Action σ Unit :=
  ⟨fun s => ⟨.ok (), f s, []⟩⟩

/-- Records an event. -/
def emit (e : Event) : Action σ Unit :=
  ⟨fun s => ⟨.ok (), s, [e]⟩⟩

/-- Ends with an error. -/
def report (e : Error) : Action σ α :=
  ⟨fun s => ⟨.error (.reported e), s, []⟩⟩

/-- Goes on with a result that is already there. -/
def settle : Except Error α -> Action σ α
  | .ok a => pure a
  | .error e => report e

/-- Performs word arithmetic, ending the run where it overflows. -/
def compute (c : Checked α) : Action σ α :=
  ⟨fun s =>
    { result :=
        match c with
        | .ok a => .ok a
        | .error kind => .error (.overflow kind)
      state := s
      events := [] }⟩

/-- Runs an action if a condition holds. -/
def when (condition : Bool) (x : Action σ Unit) : Action σ Unit :=
  if condition then x else pure ()

@[simp]
theorem run_inspect (f : σ -> α) (s : σ) :
    (inspect f).run s = ⟨.ok (f s), s, []⟩ := rfl

@[simp]
theorem run_update (f : σ -> σ) (s : σ) :
    (update f).run s = ⟨.ok (), f s, []⟩ := rfl

@[simp]
theorem run_emit (e : Event) (s : σ) :
    (emit e).run s = ⟨.ok (), s, [e]⟩ := rfl

@[simp]
theorem run_report (e : Error) (s : σ) :
    (report e : Action σ α).run s = ⟨.error (.reported e), s, []⟩ := rfl

@[simp]
theorem run_compute_ok (a : α) (s : σ) :
    (compute (.ok a)).run s = ⟨.ok a, s, []⟩ := rfl

@[simp]
theorem run_compute_error (kind : Overflow) (s : σ) :
    (compute (.error kind : Checked α)).run s =
      ⟨.error (.overflow kind), s, []⟩ := rfl

@[simp]
theorem when_true (x : Action σ Unit) : when true x = x := rfl

@[simp]
theorem when_false (x : Action σ Unit) : when false x = pure () := rfl

/-!
# Going on after an error
-/

/-- Runs an action and hands over the error it reports, if any. -/
def attempt (x : Action σ α) : Action σ (Except Error α) :=
  ⟨fun s =>
    let o := x.run s
    { result :=
        match o.result with
        | .ok a => .ok (.ok a)
        | .error (.reported e) => .ok (.error e)
        | .error (.overflow kind) => .error (.overflow kind)
      state := o.state
      events := o.events }⟩

/-- Runs two actions whatever the first reports; the first error is the result. -/
def both (x y : Action σ Unit) : Action σ Unit := do
  let first <- attempt x
  let second <- attempt y
  settle (first.bind fun _ => second)

/-- Runs a second action whatever the first reports, and keeps the first result. -/
def ensuring (x : Action σ α) (y : Action σ Unit) : Action σ α := do
  let result <- attempt x
  y
  settle result

/-- Runs a second action when the first reports an error, which stays the result. -/
def onError (x : Action σ α) (y : Action σ Unit) : Action σ α := do
  match <- attempt x with
  | .ok a => pure a
  | .error e => do
      y
      report e

@[simp]
theorem state_attempt (x : Action σ α) (s : σ) :
    ((attempt x).run s).state = (x.run s).state := rfl

@[simp]
theorem events_attempt (x : Action σ α) (s : σ) :
    ((attempt x).run s).events = (x.run s).events := rfl

/-!
# Actions on a part of the state
-/

/-- A component of a larger state. -/
structure Part (σ τ : Type) where
  get : σ -> τ
  set : τ -> σ -> σ

/-- Runs an action on one component of the state. -/
def within (p : Part σ τ) (x : Action τ α) : Action σ α :=
  ⟨fun s =>
    let o := x.run (p.get s)
    ⟨o.result, p.set o.state s, o.events⟩⟩

@[simp]
theorem run_within (p : Part σ τ) (x : Action τ α) (s : σ) :
    (within p x).run s =
      ⟨(x.run (p.get s)).result, p.set (x.run (p.get s)).state s,
        (x.run (p.get s)).events⟩ := rfl

end Action
end ImageSensor
