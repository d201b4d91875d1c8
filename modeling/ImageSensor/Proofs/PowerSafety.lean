import ImageSensor.Proofs.Accounting

/-!
# Safety of the supply

Clock, supplies and lines are commanded in a safe order through the whole life
of a device without a boot stage: while it is attached, over every managed run
that does not switch the stream past the session, and when it is given up.
-/

namespace ImageSensor

open Scenario

namespace Device

theorem powerSafe_of_leads {w : Watch} {past : List Event} {v : Levels}
    (hleads : w.Leads past v) (hstart : w.start = .off) (hguarded : w.guarded = true) :
    PowerSafe w.lines past ∧ Levels.ofLog past = v := by
  rcases hleads with ⟨hend, hsafe⟩
  rw [hstart] at hend hsafe
  exact ⟨(hsafe hguarded).powerSafe, hend⟩

/-- Whether or not a sensor was attached, its power was safe and is off again. -/
theorem powerSafe_attach {c : Config} (rig : Rig) (hboot : c.fastBoot = false) :
    PowerSafe rig.lines (attach c rig).events ∧
      Levels.ofLog (attach c rig).events = .off := by
  have hstart := unpowered_initial true false c rig hboot
  have hleads :
      Watch.Leads ⟨rig.lines, .off, true, false⟩ (attach c rig).events .off := by
    cases hres : (attach c rig).result with
    | ok _ => exact (contract_bringUp.result hstart hres).leads
    | error failure =>
        have hend := contract_bringUp.failure hstart hres
        cases failure with
        | reported error => exact hend.leads
        | overflow kind => exact hend.elim
  exact powerSafe_of_leads hleads rfl rfl

theorem powerSafe_detach {w : Watch} {n : Nat} {h : Holders} {past : List Event}
    {d : Device} (hd : Conducted w n h past d) (hboot : h.boot = false)
    (hstart : w.start = .off) (hguarded : w.guarded = true) :
    PowerSafe w.lines (past ++ (detach.run d).events) ∧
      Levels.ofLog (past ++ (detach.run d).events) = .off := by
  have hend := (contract_detach hboot).anyFailure
    (E := fun _ past _ => w.Leads past .off) |>.always hd
  exact powerSafe_of_leads hend hstart hguarded

end Device

/-- The steps that leave the stream to the session. -/
def Scenario.Step.Supervised (d : Device) (step : Step) : Prop :=
  step.Managed d ∧ ¬ step.IsQuickSwitch

theorem powerSafe_of_run {c : Config} {rig : Rig} (hboot : c.fastBoot = false)
    (husage : rig.usage = .zero) :
    PowerSafe rig.lines (Device.attach c rig).events ∧
    ((Device.attach c rig).result ≠ .ok () ->
      Levels.ofLog (Device.attach c rig).events = .off) ∧
    ((Device.attach c rig).result = .ok () ->
      forall history d,
        Run (fun d step => step.Supervised d) (Device.attach c rig).state history d ->
        PowerSafe rig.lines ((Device.attach c rig).events ++ log history) ∧
        PowerSafe rig.lines ((Device.attach c rig).events ++ log history ++
          (Device.detach.run d).events) ∧
        Levels.ofLog ((Device.attach c rig).events ++ log history ++
          (Device.detach.run d).events) = .off) := by
  rcases Device.powerSafe_attach rig hboot with ⟨hsafe, hoff⟩
  refine ⟨hsafe, fun _ => hoff, ?_⟩
  intro hok history d hrun
  have hstart := Device.settled_attach true hboot husage hok
  rcases hrun.settled_of_no_boot hstart rfl rfl
    (fun _ _ hstep => ⟨hstep.1, fun _ => hstep.2⟩) with ⟨h, hnone, hd⟩
  have hend := Device.powerSafe_detach hd hnone rfl rfl
  exact ⟨(Device.powerSafe_of_leads hd.leads rfl rfl).1, hend⟩

/-- On a rig without supplies the clock is stopped again. -/
theorem powerSafe_of_run_streaming :
    (exists history d,
      Run (fun d step => step.Supervised d)
        (Device.attach .standard .sound).state history d ∧
      d.session.streaming = true ∧
      Levels.ofLog ((Device.attach .standard .sound).events ++ log history ++
        (Device.detach.run d).events) = .off) ∧
    exists rig : Rig,
      rig.board.refusesSupplies = true ∧
      Levels.ofLog (Device.attach .standard rig).events = .off := by
  constructor
  · have hrun : Run (fun d step => step.Supervised d)
        (Device.attach .standard .sound).state _ _ :=
      Run.next Run.start (.operation (.setStream true))
        ⟨trivial, fun ⟨_, hstep⟩ => nomatch hstep⟩
    have hsafe := (@powerSafe_of_run .standard .sound rfl rfl).2.2 rfl
    exact ⟨_, _, hrun, rfl, (hsafe _ _ hrun).2.2⟩
  · have hfailed := (@powerSafe_of_run .standard
      { Rig.sound with board := { Board.sound with refusesSupplies := true } }
      rfl rfl).2.1
    exact ⟨_, rfl, hfailed (fun hok => nomatch hok)⟩

end ImageSensor
