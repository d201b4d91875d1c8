import ImageSensor.Device.Attachment
import ImageSensor.Proofs.Tuning
import ImageSensor.Proofs.Users

/-!
# Attaching and giving up a device

A device that is attached was powered up once and is powered down again, or it
has the one user that stands for the boot stage.  A device that is given up is
powered down, whoever its users are.
-/

namespace ImageSensor

namespace Levels

/-- What a boot stage leaves behind: everything is up but the clock. -/
def handedOver (l : Lines) : Levels :=
  { on l with clock := false }

theorem ordered_handedOver (l : Lines) : (handedOver l).Ordered l :=
  ordered_on l

end Levels

namespace Holders

/-- Nobody but a boot stage, if there was one. -/
def initial (boot : Bool) : Holders :=
  ⟨false, false, boot, false⟩

end Holders

/-- The standard configuration of a sensor that a boot stage has set up. -/
def Config.booted : Config :=
  { Config.standard with fastBoot := true }

/-- A rig on which everything works, with a genuine sensor. -/
def Rig.sound : Rig where
  bus := Bus.idle 0x36 (RegisterFile.empty.set Register.chipId 0x04)
  board := Board.sound
  lines := Lines.wired
  usage := .zero

namespace Device

variable {w : Watch} {n : Nat} {h : Holders} {α : Type}

theorem unpowered_initial (guarded held : Bool) (c : Config) (rig : Rig)
    (hboot : c.fastBoot = false) :
    Unpowered ⟨rig.lines, .off, guarded, held⟩ rig.usage.count.toNat (.initial false) []
      (initial c rig) where
  users := rfl
  active := rfl
  programmed := rfl
  holders := by
    show Holders.mk false false c.fastBoot false = _
    rw [hboot]
    rfl
  boot := rfl
  lines := rfl
  leads := ⟨rfl, fun _ => trivial⟩

theorem Powered.tuned {log es : List Event} {d d' : Device}
    (hd : Powered w n h log d) (ht : Tuned d es d') :
    Powered w n h (log ++ es) d' := by
  rcases ht with ⟨⟨bus, programmed, frameLength, orientation, rfl⟩, -, hes⟩
  have hrest := Levels.Leads.of_busActivity (Levels.full_on w.lines)
    (Levels.ordered_on w.lines) hes
  exact ⟨hd.users, hd.active, hd.holders, hd.lines, hd.leads.append hrest⟩

/-- Without a boot stage the device is off again, whether or not it was attached. -/
theorem contract_bringUp :
    Action.Contract bringUp (Unpowered w n h) (fun _ => Unpowered w n h)
      (Action.reported (Unpowered w n h)) := by
  apply Action.Contract.knowing (c := h.boot = false) (fun _ _ hd => hd.boot)
  intro hboot
  have hoff := contract_powerOff (w := w) (n := n) (h := h)
    fun hb => nomatch hboot.symm.trans hb
  rw [Holders.left_of_no_boot hboot] at hoff
  apply Action.Contract.bind contract_powerOn
  intro _
  apply Action.Contract.inspect_knowing (c := fun session => session.fastBoot = false)
  · intro log d hd
    exact (congrArg Holders.boot hd.holders).trans hboot
  intro session hfast
  rw [if_neg (by simp [hfast])]
  apply Action.Contract.bind (M := fun _ => Powered w n h)
  · apply Action.Contract.onError (F := Action.reported (Powered w n h))
    · have hidentify : Action.Contract identify (Powered w n h)
          (fun _ => Powered w n h) (Action.reported (Powered w n h)) :=
        tuned_identify.contract fun _ _ _ _ hd ht => hd.tuned ht
      exact hidentify
    · intro _
      exact hoff.anyFailure
    · intro _ _ _ hfalse
      exact hfalse
  · intro _
    exact hoff.anyFailure

/-!
# Under a boot stage's set-up

Nothing is asked of a sensor that is set up already; the clock completes its
power, and the boot stage becomes its user.
-/

structure HandedOver (w : Watch) (log : List Event) (d : Device) : Prop where
  users : d.rig.usage.count.toNat = 0
  holders : d.session.holders = .initial true
  lines : d.rig.lines = w.lines
  leads : w.Leads log (.handedOver w.lines)

theorem handedOver_initial (guarded held : Bool) {c : Config} {rig : Rig}
    (hboot : c.fastBoot = true) (husage : rig.usage = .zero) :
    HandedOver ⟨rig.lines, .handedOver rig.lines, guarded, held⟩ []
      (initial c rig) where
  users := by
    show rig.usage.count.toNat = 0
    rw [husage]
    rfl
  holders := by
    show Holders.mk false false c.fastBoot false = _
    rw [hboot]
    rfl
  lines := rfl
  leads := ⟨rfl, fun _ => trivial⟩

theorem contract_powerOn_handedOver :
    Action.Contract powerOn (HandedOver w) (fun _ => Powered w 0 (.initial true))
      (fun _ _ _ => True) := by
  intro log d hd
  have hfast : d.session.fastBoot = true := congrArg Holders.boot hd.holders
  cases hclock : d.rig.board.refusesClock with
  | true => simp [powerOn, Action.run_bind, Rig.run_startClock, hclock]
  | false =>
      have hes := Rig.leads_startEvents_granted (Levels.ordered_handedOver w.lines) rfl
        hclock d.config.clockRate
      rw [run_powerOn_of_boot hfast hclock]
      exact ⟨hd.users, rfl, hd.holders, hd.lines, hd.leads.append hes⟩

theorem contract_get_powered :
    Action.Contract (onRig Rig.get) (Powered w n h) (fun _ => Powered w (n + 1) h)
      (fun _ _ _ => True) := by
  intro log d hd
  rw [run_onRig]
  rcases Rig.run_get_cases d.rig with ⟨kind, hget⟩ | ⟨usage, hcount, hget⟩
  · rw [hget]
    trivial
  · rw [hd.users] at hcount
    rw [hget]
    have hmove := Rig.leads_usage (Levels.ordered_on w.lines) .get
      (some (decide (d.rig.usage.count.toNat = 0))) usage.count
    exact ⟨hcount, hd.active, hd.holders, hd.lines, hd.leads.append hmove⟩

theorem contract_bringUp_handedOver :
    Action.Contract bringUp (HandedOver w) (fun _ => Powered w 1 (.initial true))
      (fun _ _ _ => True) := by
  apply Action.Contract.bind contract_powerOn_handedOver
  intro _
  apply Action.Contract.inspect_knowing (c := fun session => session.fastBoot = true)
  · intro log d hd
    exact congrArg Holders.boot hd.holders
  intro session hfast
  rw [if_pos hfast]
  apply Action.Contract.bind contract_get_powered
  intro _
  exact Action.Contract.pure fun _ _ hd => hd

theorem attach_of_boot (guarded : Bool) {c : Config} {rig : Rig}
    (hboot : c.fastBoot = true) (husage : rig.usage = .zero)
    (hok : (attach c rig).result = .ok ()) :
    Conducted ⟨rig.lines, .handedOver rig.lines, guarded, false⟩ 1 (.initial true)
      (attach c rig).events (attach c rig).state := by
  have hend := contract_bringUp_handedOver.result
    (handedOver_initial guarded false hboot husage) hok
  exact hend.conducted rfl rfl

/-!
# Giving up
-/

/-- Whoever the users are, in the end the levels are off. -/
theorem contract_detach (hboot : h.boot = false) :
    Action.Contract detach (Conducted w n h) (fun _ log _ => w.Leads log .off)
      Action.never := by
  apply Action.Contract.inspect
  intro session
  apply Action.Contract.when
  · intro hactive
    apply (contract_powerOff (w := w) (n := n) (h := h) ?_).consequence
    · intro log d hd
      have hon : d.session.active = true := by
        rw [hd.2]
        exact hactive
      refine ⟨hd.1.users, hon, hd.1.holders, hd.1.lines, ?_⟩
      rw [← hd.1.lines, ← levels_of_active hon]
      exact hd.1.leads
    · intro _ _ _ hd
      exact hd.leads
    · intro _ _ _ hfalse
      exact hfalse
    · intro hb
      exact nomatch hboot.symm.trans hb
  · intro hactive log d hd
    have hoff : d.session.active = false := by
      rw [hd.2]
      exact hactive
    rw [← levels_of_inactive hoff]
    exact hd.1.leads

end Device
end ImageSensor
