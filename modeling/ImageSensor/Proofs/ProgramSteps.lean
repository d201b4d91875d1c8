import ImageSensor.Proofs.WordTransport
import Mathlib.Data.List.TakeWhile

/-!
# The steps of a program

A replay performs the steps before the end of its program one after the other:
a write of one byte for each register that is named, a pause for each that is
asked for.  It breaks off at the first write that fails and reports the error
of that write.  Whatever stands behind the end changes nothing, and a program
without an end can be continued by another.
-/

namespace ImageSensor
namespace Program

namespace Step

/-- The event of a step that succeeds or fails. -/
def event (device : UInt8) (step : Step) (ok : Bool) : Event :=
  if step.address = pauseAddress then
    .pauseMilliseconds step.value.toUInt32
  else
    .write device step.address [step.value] ok

/-- The bus once a step has succeeded. -/
def perform (b : Bus) (step : Step) : Bus :=
  if step.address = pauseAddress then
    b
  else
    { b with
      attempts := b.attempts + 1
      file := b.file.set step.address step.value }

/-- The step is a write, and the bus fails it. -/
def Fails (b : Bus) (step : Step) : Prop :=
  step.address ≠ pauseAddress ∧ b.failsNext .write step.address = true

end Step

/-- The bus once these steps have succeeded. -/
def performAll (b : Bus) (steps : Program) : Bus :=
  steps.foldl Step.perform b

/-- None of these steps fails, where each is taken after those before it. -/
def Unbroken (b : Bus) (steps : Program) : Prop :=
  forall done step rest, steps = done ++ step :: rest -> ¬ step.Fails (performAll b done)

/-- No step is an end. -/
def Endless (p : Program) : Prop :=
  forall step, step ∈ p -> step.address ≠ endAddress

instance (p : Program) : Decidable (Endless p) :=
  inferInstanceAs (Decidable (forall step, step ∈ p -> step.address ≠ endAddress))

variable {b : Bus} {p : Program} {step : Step}

theorem Endless.tail {rest : Program} (h : Endless (step :: rest)) : Endless rest :=
  fun s hs => h s (List.mem_cons_of_mem step hs)

/-!
# The end of a program
-/

theorem body_of_endless (h : Endless p) : p.body = p := by
  apply List.takeWhile_eq_self_iff.mpr
  intro step hstep
  exact decide_eq_true (h step hstep)

theorem endless_body (p : Program) : Endless p.body := by
  intro step hstep
  unfold body at hstep
  have hpasses := List.mem_takeWhile_imp hstep
  exact of_decide_eq_true hpasses

theorem replay_body (p : Program) : replay p.body = replay p := by
  induction p with
  | nil => rfl
  | cons step rest ih =>
      by_cases hend : step.address = endAddress
      · rw [body_cons_of_end hend, replay_cons_of_end hend]
        rfl
      · rw [body_cons hend]
        unfold replay
        rw [ih]

/-- Nothing that stands behind an end is replayed. -/
theorem replay_append_end (p : Program) (h : step.address = endAddress) (rest : Program) :
    replay (p ++ step :: rest) = replay p := by
  induction p with
  | nil => exact replay_cons_of_end h rest
  | cons first behind ih =>
      rw [List.cons_append]
      unfold replay
      rw [ih]

/-- After a program without an end another one is replayed as if it stood alone. -/
theorem replay_append (h : Endless p) (q : Program) :
    replay (p ++ q) = (replay p >>= fun _ => replay q) := by
  induction p using replay.induct with
  | case1 => exact (pure_bind () fun _ => replay q).symm
  | case2 step rest hend => exact (h step List.mem_cons_self hend).elim
  | case3 step rest hend hpause ih =>
      rw [List.cons_append, replay_cons_of_pause hpause, replay_cons_of_pause hpause,
        ih h.tail, bind_assoc]
  | case4 step rest hend hpause ih =>
      rw [List.cons_append, replay_cons_of_write hend hpause,
        replay_cons_of_write hend hpause, ih h.tail, bind_assoc]

/-!
# Step by step
-/

theorem Step.device_perform (b : Bus) (step : Step) :
    (step.perform b).device = b.device := by
  unfold perform
  split <;> rfl

theorem unbroken_nil (b : Bus) : Unbroken b [] := by
  intro done step rest hsplit
  simp at hsplit

theorem Unbroken.cons (hfirst : ¬ step.Fails b) {rest : Program}
    (hrest : Unbroken (step.perform b) rest) : Unbroken b (step :: rest) := by
  intro done later behind hsplit
  cases done with
  | nil =>
      cases hsplit
      exact hfirst
  | cons first done =>
      cases hsplit
      exact hrest done later behind rfl

/-- A step that does not fail is performed before the rest. -/
theorem run_replay_cons (h : step.address ≠ endAddress) (hpasses : ¬ step.Fails b)
    (rest : Program) :
    (replay (step :: rest)).run b =
      ((replay rest).run (step.perform b)).after [step.event b.device true] := by
  by_cases hpause : step.address = pauseAddress
  · rw [replay_cons_of_pause hpause, Action.run_bind_of_ok rfl, Step.perform,
      Step.event, if_pos hpause, if_pos hpause]
    rfl
  · have hnext : b.failsNext .write step.address = false := by
      cases hnext : b.failsNext .write step.address with
      | true => exact (hpasses ⟨hpause, hnext⟩).elim
      | false => rfl
    rw [replay_cons_of_write h hpause,
      Action.run_bind_ok (Bus.run_writeByte hnext step.value), Step.perform, Step.event,
      if_neg hpause, if_neg hpause]

/-- The outcome of a replay that comes to its end. -/
def performed (b : Bus) (steps : Program) : Outcome Bus Unit where
  result := .ok ()
  state := performAll b steps
  events := steps.map fun s => s.event b.device true

/-- The outcome of a replay that breaks off at a step. -/
def brokenOff (b : Bus) (done : Program) (step : Step) : Outcome Bus Unit where
  result := .error (.reported (.transfer .write step.address))
  state :=
    { performAll b done with attempts := (performAll b done).attempts + 1 }
  events := (done.map fun s => s.event b.device true) ++ [step.event b.device false]

theorem run_replay_cons_of_failure (h : step.address ≠ endAddress) (hfails : step.Fails b)
    (rest : Program) : (replay (step :: rest)).run b = brokenOff b [] step := by
  rw [replay_cons_of_write h hfails.1,
    Action.run_bind_error (Bus.run_writeByte_of_failure hfails.2 step.value), brokenOff,
    Step.event, if_neg hfails.1]
  rfl

theorem performed_after (b : Bus) (step : Step) (rest : Program) :
    (performed (step.perform b) rest).after [step.event b.device true] =
      performed b (step :: rest) := by
  unfold performed
  rw [step.device_perform]
  rfl

theorem brokenOff_after (b : Bus) (first : Step) (done : Program) (step : Step) :
    (brokenOff (first.perform b) done step).after [first.event b.device true] =
      brokenOff b (first :: done) step := by
  unfold brokenOff
  rw [first.device_perform]
  rfl

/-- All steps are performed, or those before the first that fails. -/
theorem run_replay_of_endless (h : Endless p) (b : Bus) :
    (Unbroken b p ∧ (replay p).run b = performed b p) ∨
      exists done step rest, p = done ++ step :: rest ∧ Unbroken b done ∧
        step.Fails (performAll b done) ∧ (replay p).run b = brokenOff b done step := by
  induction p generalizing b with
  | nil => exact Or.inl ⟨unbroken_nil b, rfl⟩
  | cons step rest ih =>
      have hend := h step List.mem_cons_self
      by_cases hfails : step.Fails b
      · right
        exact ⟨[], step, rest, rfl, unbroken_nil b, hfails,
          run_replay_cons_of_failure hend hfails rest⟩
      · rw [run_replay_cons hend hfails]
        rcases ih h.tail (step.perform b) with
          ⟨hunbroken, hrun⟩ | ⟨done, later, behind, rfl, hunbroken, hlater, hrun⟩
        · left
          refine ⟨hunbroken.cons hfails, ?_⟩
          rw [hrun, performed_after]
        · right
          refine ⟨step :: done, later, behind, rfl, hunbroken.cons hfails, hlater, ?_⟩
          rw [hrun, brokenOff_after]

/-!
# Whole programs
-/

/-- What the replay of a program on a bus comes to. -/
structure Replayed (b : Bus) (p : Program) (o : Outcome Bus Unit) : Prop where
  steps : (Unbroken b p.body ∧ o = performed b p.body) ∨
    exists done step rest, p.body = done ++ step :: rest ∧ Unbroken b done ∧
      step.Fails (performAll b done) ∧ o = brokenOff b done step
  succeeds : o.result = .ok () <-> Unbroken b p.body
  addressed : forall e, e ∈ o.events -> e.isTransaction = true ->
    exists step ok, step ∈ p.body ∧ e = .write b.device step.address [step.value] ok ∧
      step.address ≠ pauseAddress ∧ step.address ≠ endAddress

theorem Step.event_of_isTransaction {device : UInt8} {ok : Bool}
    (h : (step.event device ok).isTransaction = true) :
    step.address ≠ pauseAddress ∧
      step.event device ok = .write device step.address [step.value] ok := by
  unfold event at h ⊢
  by_cases hpause : step.address = pauseAddress
  · rw [if_pos hpause] at h
    cases h
  · exact ⟨hpause, if_neg hpause⟩

theorem run_replay_cases (p : Program) (b : Bus) :
    (Unbroken b p.body ∧ (replay p).run b = performed b p.body) ∨
      exists done step rest, p.body = done ++ step :: rest ∧ Unbroken b done ∧
        step.Fails (performAll b done) ∧ (replay p).run b = brokenOff b done step := by
  have hbody := run_replay_of_endless p.endless_body b
  rw [replay_body] at hbody
  exact hbody

/-- The events of a replay are those of steps before the end. -/
theorem exists_step_of_mem {e : Event} (he : e ∈ ((replay p).run b).events) :
    exists step ok, step ∈ p.body ∧ e = step.event b.device ok := by
  rcases run_replay_cases p b with ⟨-, hrun⟩ | ⟨done, last, rest, hsplit, -, -, hrun⟩
  · rw [hrun] at he
    rcases List.mem_map.mp he with ⟨step, hstep, rfl⟩
    exact ⟨step, true, hstep, rfl⟩
  · rw [hrun] at he
    rw [hsplit]
    rcases List.mem_append.mp he with he | he
    · rcases List.mem_map.mp he with ⟨step, hstep, rfl⟩
      exact ⟨step, true, List.mem_append_left _ hstep, rfl⟩
    · rw [List.mem_singleton.mp he]
      exact ⟨last, false, List.mem_append_right _ List.mem_cons_self, rfl⟩

theorem replayed_run (p : Program) (b : Bus) : Replayed b p ((replay p).run b) := by
  constructor
  case steps => exact run_replay_cases p b
  case succeeds =>
      rcases run_replay_cases p b with
        ⟨hunbroken, hrun⟩ | ⟨done, step, rest, hsplit, -, hfails, hrun⟩
      · rw [hrun]
        exact ⟨fun _ => hunbroken, fun _ => rfl⟩
      · rw [hrun]
        constructor
        · intro hok
          cases hok
        · intro hunbroken
          exact (hunbroken done step rest hsplit hfails).elim
  case addressed =>
      intro e he htransaction
      rcases exists_step_of_mem he with ⟨step, ok, hstep, rfl⟩
      rcases Step.event_of_isTransaction htransaction with ⟨hpause, hwrite⟩
      exact ⟨step, ok, hstep, hwrite, hpause, p.endless_body step hstep⟩

/--
A program is replayed step by step on every bus; what stands behind its end has
no effect, and without an end it runs to its last step and can be continued.
-/
theorem replayed_and_continued (p : Program) :
    (forall b, Replayed b p ((replay p).run b)) ∧
    (forall last rest, last.address = endAddress ->
      replay (p ++ last :: rest) = replay p) ∧
    (Endless p -> p.body = p ∧
      forall q, replay (p ++ q) = (replay p >>= fun _ => replay q)) := by
  refine ⟨p.replayed_run, ?_, ?_⟩
  · intro last rest hlast
    exact replay_append_end p hlast rest
  · intro hendless
    exact ⟨body_of_endless hendless, replay_append hendless⟩

/-- The second write fails after the pause; the steps behind the end are not tried. -/
theorem replayed_second_write_failed :
    let steps : Program := [⟨0x0100, 0x01⟩, pause 10, ⟨0x0101, 0x02⟩]
    let faults : Faults := { Faults.none with single := [1] }
    let b := (Bus.idle 0x36 .empty).plan faults
    ((replay (steps ++ stop :: steps)).run b).events =
        [.write 0x36 0x0100 [0x01] true, .pauseMilliseconds 10,
          .write 0x36 0x0101 [0x02] false] ∧
      Endless steps ∧ ¬ Unbroken b steps ∧
      replay (steps ++ [stop]) = (replay steps >>= fun _ => replay [stop]) := by
  intro steps faults b
  have hendless : Endless steps := by decide
  rcases replayed_and_continued steps with ⟨hreplayed, hbehind, hcontinued⟩
  rcases hcontinued hendless with ⟨hbody, hcontinued⟩
  refine ⟨?_, hendless, ?_, hcontinued [stop]⟩
  · rw [hbehind stop steps rfl]
    rfl
  · intro hunbroken
    rw [← hbody] at hunbroken
    have hok := (hreplayed b).succeeds.mpr hunbroken
    exact nomatch hok

end Program
end ImageSensor
