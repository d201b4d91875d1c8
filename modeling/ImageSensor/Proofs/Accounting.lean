import ImageSensor.Proofs.Attaching
import ImageSensor.Proofs.Run

/-!
# One reference for each user

Without a boot stage, the usage count of a managed device is the number of the
host's two requests that are granted: power and stream.  The device is powered
exactly while the count is positive, and what builds on power is there only
under power.  No fault of the bus, the clock or the supplies changes that.
-/

namespace ImageSensor

/-- The count says who uses the device, and the session says the same. -/
structure Accounted (d : Device) : Prop where
  users : d.rig.usage.count.toNat =
    d.session.hostPower.toNat + d.session.streaming.toNat
  active : d.session.active = true <-> d.rig.usage.count ≠ 0
  programmed : d.session.programmed = true -> d.session.active = true
  streaming : d.session.streaming = true ->
    d.session.active = true ∧ d.session.programmed = true
  off : d.session.powerState = .off <-> d.rig.usage.count = 0

theorem UInt32.ne_zero_iff_toNat_pos (a : UInt32) : a ≠ 0 <-> 0 < a.toNat := by
  rw [Nat.pos_iff_ne_zero, ne_eq, ne_eq, ← UInt32.toNat_inj]
  rfl

/-- A sensor that neither streams nor is powered is off, and no other is. -/
theorem Session.powerState_eq_off_iff (s : Session) :
    s.powerState = .off <-> s.streaming = false ∧ s.active = false := by
  unfold powerState
  cases s.streaming <;> cases s.active <;> cases s.programmed <;> simp

namespace Device

theorem Settled.accounted {w : Watch} {h : Holders} {past : List Event}
    {d : Device} (hd : Settled w h past d) (hboot : h.boot = false) :
    Accounted d := by
  have hfast : d.session.fastBoot = false := hd.fastBoot.trans hboot
  have husers : h.users = d.session.hostPower.toNat + d.session.streaming.toNat := by
    rw [hd.hostPower, hd.streaming]
    simp [Holders.users, Holders.waiting, hboot]
  have hactive : d.session.active = true <-> d.rig.usage.count ≠ 0 := by
    rw [UInt32.ne_zero_iff_toNat_pos, hd.active, hd.users, decide_eq_true_iff]
  have hstreaming : d.session.streaming = true -> 0 < h.users := by
    intro hstream
    rw [husers, hstream]
    exact Nat.succ_pos _
  constructor
  · rw [hd.users, husers]
  · exact hactive
  · intro hprogrammed
    rw [hd.active, decide_eq_true_iff]
    exact hd.programmed hprogrammed
  · intro hstream
    have hpos := hstreaming hstream
    constructor
    · rw [hd.active, decide_eq_true_iff]
      exact hpos
    · exact hd.streamed hpos (hd.streaming.symm.trans hstream) hboot
  · rw [Session.powerState_eq_off_iff]
    constructor
    · intro hoff
      by_cases hcount : d.rig.usage.count = 0
      · exact hcount
      · have hon := hactive.mpr hcount
        rw [hoff.2] at hon
        cases hon
    · intro hcount
      have hidle : ¬ d.session.active = true := fun hon => hactive.mp hon hcount
      constructor
      · rw [Bool.eq_false_iff]
        intro hstream
        apply hidle
        rw [hd.active, decide_eq_true_iff]
        exact hstreaming hstream
      · exact Bool.eq_false_iff.mpr hidle

theorem settled_attach (guarded : Bool) {c : Config} {rig : Rig}
    (hboot : c.fastBoot = false) (husage : rig.usage = .zero)
    (hok : (attach c rig).result = .ok ()) :
    Settled ⟨rig.lines, .off, guarded, false⟩ (.initial false)
      (attach c rig).events (attach c rig).state := by
  have hstart := unpowered_initial guarded false c rig hboot
  rw [husage] at hstart
  exact (contract_bringUp.result hstart hok).conducted rfl

end Device

open Scenario

theorem accounted_of_run {c : Config} {rig : Rig} (hboot : c.fastBoot = false)
    (husage : rig.usage = .zero) (hok : (Device.attach c rig).result = .ok ())
    {history : List Moment} {d : Device}
    (hrun : Run (fun d step => step.Managed d) (Device.attach c rig).state history d) :
    Accounted d := by
  have hstart := Device.settled_attach false hboot husage hok
  rcases hrun.settled_of_no_boot hstart rfl rfl
    (fun _ _ hstep => ⟨hstep, fun hfalse => nomatch hfalse⟩) with ⟨h, hnone, hd⟩
  exact hd.accounted hnone

theorem accounted_of_run_streaming :
    exists history d,
      Run (fun d step => step.Managed d)
        (Device.attach .standard .sound).state history d ∧
      d.session.streaming = true ∧ d.rig.usage.count = 2 ∧ Accounted d := by
  have hok : (Device.attach .standard .sound).result = .ok () := rfl
  have hrun : Run (fun d step => step.Managed d)
      (Device.attach .standard .sound).state _ _ :=
    Run.next (Run.next Run.start (.operation (.setPower true)) trivial)
      (.operation (.setStream true)) trivial
  exact ⟨_, _, hrun, rfl, rfl, accounted_of_run rfl rfl hok hrun⟩

end ImageSensor
