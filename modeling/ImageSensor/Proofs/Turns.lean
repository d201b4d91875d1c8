import ImageSensor.Proofs.Axes
import ImageSensor.Proofs.Deferral
import ImageSensor.Proofs.Headroom

/-!
# Turns in a row

Turns that all succeed leave along each axis what the last turn along it asked
for, or what its register held before if there was none.  Nothing else about
the turns matters, so those along one axis commute with those along the other.
-/

namespace ImageSensor

/-!
# The last turn along each axis
-/

/-- What the last turn along an axis asks for. -/
def Turn.last? (axis : Axis) : List Turn -> Option Bool
  | [] => none
  | t :: rest => (last? axis rest).or (if t.axis = axis then some t.on else none)

theorem Turn.last?_ne_none (t : Turn) (rest : List Turn) :
    last? t.axis (t :: rest) ≠ none := by
  simp [last?]

theorem Turn.last?_swap {axis : Axis} {t t' : Turn} (h : t.axis ≠ t'.axis)
    (before after : List Turn) :
    last? axis (before ++ t :: t' :: after) = last? axis (before ++ t' :: t :: after) := by
  induction before with
  | nil =>
      simp only [List.nil_append, last?, Option.or_assoc]
      by_cases ht : t.axis = axis
      · have ht' : t'.axis ≠ axis := fun ht' => h (ht.trans ht'.symm)
        simp [ht']
      · simp [ht]
  | cons head rest ih =>
      simp only [List.cons_append, last?]
      rw [ih]

/-- The orientation after several turns. -/
def Orientation.turnedAll (o : Orientation) (turns : List Turn) : Orientation :=
  turns.foldl turned o

theorem Orientation.along_turnedAll (o : Orientation) (turns : List Turn) (axis : Axis) :
    (o.turnedAll turns).along axis = (Turn.last? axis turns).getD (o.along axis) := by
  induction turns generalizing o with
  | nil => rfl
  | cons t rest ih =>
      show ((o.turned t).turnedAll rest).along axis = _
      rw [ih, along_turned, Turn.last?]
      cases Turn.last? axis rest with
      | some on => rfl
      | none => by_cases h : axis = t.axis <;> simp [h, eq_comm]

theorem Orientation.turnedAll_eq (o : Orientation) {turns others : List Turn}
    (h : forall axis, Turn.last? axis others = Turn.last? axis turns) :
    o.turnedAll others = o.turnedAll turns := by
  apply ext_along
  intro axis
  rw [along_turnedAll, along_turnedAll, h]

/-!
# Turns that succeed
-/

namespace Device

variable {d : Device}

/-- The device with one orientation asked for, and one put into the sensor. -/
def facing (d : Device) (asked held : Orientation) (n : Nat) : Device :=
  { d with
    session := { d.session with orientation := held }
    controls := { d.controls with orientation := asked }
    rig :=
      { d.rig with
        bus :=
          { d.rig.bus with
            attempts := n
            file := d.rig.bus.file.load (Register.orientationWrites held) } } }

theorem facing_facing (d : Device) (asked held asked' held' : Orientation) (n n' : Nat) :
    (d.facing asked held n).facing asked' held' n' = d.facing asked' held' n' := by
  simp only [facing, RegisterFile.load_orientationWrites]

/-- A turn all of whose transfers succeed, whatever the registers held. -/
theorem run_turn_of_clean {t : Turn} (hused : 0 < d.rig.usage.count.toNat)
    (hroom : d.Roomy) (hclean : Clean ((applyControl t.request).run d).events) :
    ((applyControl t.request).run d).result = .ok () ∧
      exists n, ((applyControl t.request).run d).state =
        d.facing (d.controls.orientation.turned t) (d.rig.bus.file.orientation.turned t) n := by
  rcases exists_steered_applyControl t hused hroom with ⟨passed, hsteered⟩
  have hall := hsteered.clean.mp hclean
  rcases hsteered.state with ⟨n, hstate⟩
  refine ⟨hsteered.result.mpr hall, n, ?_⟩
  rw [hstate, hall, Axis.writes_of_all _ hall]
  rfl

end Device

namespace Scenario

open Device

def turnSteps (turns : List Turn) : List Step :=
  asks (turns.map Turn.request)

variable {d : Device}

theorem turned {t : Turn} (hused : 0 < d.rig.usage.count.toNat) (hroom : d.Roomy)
    (hclean : Clean (Moment.mk d (.operation (.applyControl t.request))).events) :
    let m := Moment.mk d (.operation (.applyControl t.request))
    m.outcome.result = .ok (.answer .done) ∧
      exists n, m.after =
        d.facing (d.controls.orientation.turned t) (d.rig.bus.file.orientation.turned t) n := by
  have hperform := Step.perform_of_request
    (show (Step.operation (.applyControl t.request)).request? = some t.request from rfl)
  simp only [Moment.events, Moment.after, Moment.outcome, hperform, Action.events_map,
    Action.result_map, Action.state_map] at hclean ⊢
  rcases run_turn_of_clean hused hroom hclean with ⟨hresult, hstate⟩
  rw [hresult]
  exact ⟨rfl, hstate⟩

theorem turnedAll_facing {asked held : Orientation} {n : Nat} {turns : List Turn}
    (hused : 0 < d.rig.usage.count.toNat) (hroom : d.Roomy)
    (hclean : Clean (log (moments (d.facing asked held n) (turnSteps turns)))) :
    (forall r, r ∈ results (d.facing asked held n) (turnSteps turns) ->
      r = .ok (.answer .done)) ∧
    exists n', performAll (d.facing asked held n) (turnSteps turns) =
      d.facing (asked.turnedAll turns) (held.turnedAll turns) n' := by
  induction turns generalizing asked held n with
  | nil => exact ⟨(fun r hr => nomatch hr), n, rfl⟩
  | cons t rest ih =>
      rcases clean_append.mp hclean with ⟨hfirst, hrest⟩
      rcases turned (d := d.facing asked held n) hused hroom hfirst with ⟨hresult, n', hafter⟩
      have hread : (d.facing asked held n).rig.bus.file.orientation = held :=
        RegisterFile.orientation_load d.rig.bus.file held
      rw [hread, facing_facing] at hafter
      rw [hafter] at hrest
      rcases ih hrest with ⟨hresults, n'', hend⟩
      rw [← hafter] at hresults hend
      refine ⟨?_, n'', hend⟩
      intro r hr
      rcases List.mem_cons.mp hr with rfl | hr
      · exact hresult
      · exact hresults r hr

theorem turnedAll {turns : List Turn} (hturns : turns ≠ [])
    (hused : 0 < d.rig.usage.count.toNat) (hroom : d.Roomy)
    (hclean : Clean (log (moments d (turnSteps turns)))) :
    (forall r, r ∈ results d (turnSteps turns) -> r = .ok (.answer .done)) ∧
    exists n, performAll d (turnSteps turns) =
      d.facing (d.controls.orientation.turnedAll turns)
        (d.rig.bus.file.orientation.turnedAll turns) n := by
  cases turns with
  | nil => exact (hturns rfl).elim
  | cons t rest =>
      rcases clean_append.mp hclean with ⟨hfirst, hrest⟩
      rcases turned hused hroom hfirst with ⟨hresult, n, hafter⟩
      rw [hafter] at hrest
      rcases turnedAll_facing hused hroom hrest with ⟨hresults, n', hend⟩
      rw [← hafter] at hresults hend
      refine ⟨?_, n', hend⟩
      intro r hr
      rcases List.mem_cons.mp hr with rfl | hr
      · exact hresult
      · exact hresults r hr

end Scenario

/-!
# Turns of a device in use
-/

open Scenario

/-- The devices differ at most in how many transactions were attempted. -/
def Device.Alike (d e : Device) : Prop :=
  exists n, d = e.withBus { e.rig.bus with attempts := n }

theorem Device.alike_facing (d : Device) (asked held : Orientation) (n n' : Nat) :
    (d.facing asked held n).Alike (d.facing asked held n') :=
  ⟨n, rfl⟩

theorem Device.get_facing (d : Device) (asked held : Orientation) (n : Nat) (axis : Axis) :
    (d.facing asked held n).rig.bus.file.get axis.register = (held.along axis).toUInt8 := by
  cases axis <;> rfl

/--
Whatever the registers held, turns without a failed transfer leave the last
value along each axis, and the device is the same after all turns with the same
last values; so turns along different axes commute.
-/
theorem turnedAll_of_run {c : Config} {rig : Rig} (husage : rig.usage = .zero)
    {history : List Moment} {d : Device}
    (hrun : Run (fun _ step => step.Exclusive) (Device.attach c rig).state history d)
    (hused : 0 < d.rig.usage.count.toNat) (bus : Bus) {turns : List Turn}
    (hturns : turns ≠ [])
    (hclean : Clean (log (moments (d.withBus bus) (turnSteps turns)))) :
    let e := performAll (d.withBus bus) (turnSteps turns)
    let last := fun axis : Axis =>
      (Turn.last? axis turns).getD (bus.file.get axis.register &&& 1 != 0)
    (forall r, r ∈ results (d.withBus bus) (turnSteps turns) -> r = .ok (.answer .done)) ∧
    (forall axis : Axis, e.rig.bus.file.get axis.register = (last axis).toUInt8) ∧
    (forall axis, e.session.orientation.along axis = last axis) ∧
    (forall others, Clean (log (moments (d.withBus bus) (turnSteps others))) ->
      (forall axis, Turn.last? axis others = Turn.last? axis turns) ->
      (performAll (d.withBus bus) (turnSteps others)).Alike e) ∧
    (forall before after t t', turns = before ++ t :: t' :: after -> t.axis ≠ t'.axis ->
      Clean (log (moments (d.withBus bus) (turnSteps (before ++ t' :: t :: after)))) ->
      (performAll (d.withBus bus) (turnSteps (before ++ t' :: t :: after))).Alike e) := by
  have hcounted : Device.Counted [] (d.withBus bus) := hrun.counted (fun h => h) husage
  have hroom := Device.roomy_of_counted hcounted
  have hlast : forall axis, (bus.file.orientation.turnedAll turns).along axis =
      (Turn.last? axis turns).getD (bus.file.get axis.register &&& 1 != 0) := by
    intro axis
    rw [Orientation.along_turnedAll, RegisterFile.along_orientation]
  rcases turnedAll (d := d.withBus bus) hturns hused hroom hclean with ⟨hresults, n, hend⟩
  have hsame : forall others, Clean (log (moments (d.withBus bus) (turnSteps others))) ->
      (forall axis, Turn.last? axis others = Turn.last? axis turns) ->
      (performAll (d.withBus bus) (turnSteps others)).Alike
        (performAll (d.withBus bus) (turnSteps turns)) := by
    intro others hothers heq
    have hsome : others ≠ [] := by
      rintro rfl
      cases turns with
      | nil => exact hturns rfl
      | cons t rest => exact t.last?_ne_none rest (heq t.axis).symm
    rcases turnedAll (d := d.withBus bus) hsome hused hroom hothers with ⟨-, n', hend'⟩
    rw [hend, hend', Orientation.turnedAll_eq _ heq, Orientation.turnedAll_eq _ heq]
    exact Device.alike_facing _ _ _ _ _
  intro e last
  refine ⟨hresults, ?_, ?_, hsame, ?_⟩
  · intro axis
    show (performAll _ _).rig.bus.file.get axis.register = _
    rw [hend, Device.get_facing]
    exact congrArg Bool.toUInt8 (hlast axis)
  · intro axis
    show (performAll _ _).session.orientation.along axis = _
    rw [hend]
    exact hlast axis
  · rintro before after t t' rfl hne hswapped
    apply hsame _ hswapped
    intro axis
    exact (Turn.last?_swap hne before after).symm

/-- A boot stage left more than one bit in the registers; of these the lowest counts. -/
theorem turnedAll_over_stale_bytes :
    let d := (Device.attach .booted .sound).state
    let stale := { d.rig.bus with
      file := d.rig.bus.file.load [(Register.mirror, 0xfe), (Register.flip, 0x81)] }
    let turns := [Turn.mk .horizontal false, Turn.mk .horizontal true]
    0 < d.rig.usage.count.toNat ∧
    Clean (log (moments (d.withBus stale) (turnSteps turns))) ∧
    forall axis : Axis,
      (performAll (d.withBus stale) (turnSteps turns)).rig.bus.file.get axis.register = 1 ∧
      (performAll (d.withBus stale) (turnSteps turns)).session.orientation.along axis =
        true := by
  intro d stale turns
  have hused : 0 < d.rig.usage.count.toNat := by decide +kernel
  have hclean : Clean (log (moments (d.withBus stale) (turnSteps turns))) := by
    decide +kernel
  have hlast : forall axis, (Turn.last? axis turns).getD
      (stale.file.get axis.register &&& 1 != 0) = true := by
    intro axis
    cases axis with
    | horizontal => rfl
    | vertical =>
        have hflip : stale.file.get Axis.vertical.register = 0x81 :=
          RegisterFile.get_set_same _ _ _
        rw [hflip]
        decide
  have hturns : turns ≠ [] := fun hnone => nomatch hnone
  rcases turnedAll_of_run (d := d) rfl Run.start hused stale hturns hclean with
    ⟨-, hfile, horientation, -⟩
  refine ⟨hused, hclean, ?_⟩
  intro axis
  exact ⟨(hfile axis).trans (congrArg Bool.toUInt8 (hlast axis)),
    (horientation axis).trans (hlast axis)⟩
end ImageSensor
