import ImageSensor.Proofs.Attaching
import Mathlib.Algebra.Order.Floor.Div
import Mathlib.Algebra.Order.Ring.Nat

/-!
# The start-up delay

The last pause of a power-up is meant to cover the clock cycles that the sensor
needs before its first bus access.  It is the number of these cycles divided by
the whole cycles in a microsecond, rounded up.  From one megahertz on the part
of a cycle that is dropped in the divisor only makes the pause longer.  Below
one megahertz there is no whole cycle in a microsecond, one is taken all the
same, and the pause is too short.
-/

namespace ImageSensor
namespace Rig

/-- A pause lasts at least some cycles of a clock. -/
def Covers (microseconds hertz cycles : UInt32) : Prop :=
  cycles.toNat * 1000000 ≤ microseconds.toNat * hertz.toNat

instance (microseconds hertz cycles : UInt32) : Decidable (Covers microseconds hertz cycles) :=
  inferInstanceAs (Decidable (_ ≤ _))

section

variable {cycles hertz : UInt32}

/-- No microsecond has more cycles than were counted for it. -/
theorem cyclesPerMicrosecond_mul_le (h : 1000000 ≤ hertz.toNat) :
    cyclesPerMicrosecond hertz * 1000000 ≤ hertz.toNat := by
  unfold cyclesPerMicrosecond
  omega

theorem cyclesPerMicrosecond_of_slow (h : hertz.toNat < 1000000) :
    cyclesPerMicrosecond hertz = 1 := by
  unfold cyclesPerMicrosecond
  omega

theorem covers_ceilDiv {delay : UInt32} (h : 1000000 ≤ hertz.toNat)
    (hdelay : delay.toNat = cycles.toNat ⌈/⌉ cyclesPerMicrosecond hertz) :
    Covers delay hertz cycles := by
  have hrounded : cycles.toNat ≤ cyclesPerMicrosecond hertz * delay.toNat := by
    rw [hdelay]
    exact le_smul_ceilDiv (cyclesPerMicrosecond_pos hertz)
  calc cycles.toNat * 1000000
      ≤ cyclesPerMicrosecond hertz * delay.toNat * 1000000 := Nat.mul_le_mul_right _ hrounded
    _ = delay.toNat * (cyclesPerMicrosecond hertz * 1000000) := by
        rw [Nat.mul_comm (cyclesPerMicrosecond hertz), Nat.mul_assoc]
    _ ≤ delay.toNat * hertz.toNat := Nat.mul_le_mul_left _ (cyclesPerMicrosecond_mul_le h)

/-- A microsecond for each cycle is too short for a clock under one megahertz. -/
theorem not_covers_self (hcycles : 0 < cycles.toNat) (h : hertz.toNat < 1000000) :
    ¬ Covers cycles hertz cycles :=
  Nat.not_le.mpr (Nat.mul_lt_mul_of_pos_left h hcycles)

theorem covers_iff_of_ceilDiv {delay : UInt32} (hcycles : 0 < cycles.toNat)
    (hdelay : delay.toNat = cycles.toNat ⌈/⌉ cyclesPerMicrosecond hertz) :
    Covers delay hertz cycles <-> 1000000 ≤ hertz.toNat := by
  constructor
  · intro hcovers
    by_contra hslow
    rw [Nat.not_le] at hslow
    rw [cyclesPerMicrosecond_of_slow hslow, ceilDiv_one, UInt32.toNat_inj] at hdelay
    subst hdelay
    exact not_covers_self hcycles hslow hcovers
  · intro h
    exact covers_ceilDiv h hdelay

end

end Rig

namespace Device

/--
At every clock rate the start-up delay is a word, and a power-up that is granted
ends with it.  It covers the start-up of the sensor from one megahertz on, and
at no rate below.
-/
theorem ready_covers_iff (hertz : UInt32) :
    exists ready,
      Rig.coveringDelay Rig.readyCycles hertz = .ok ready ∧
      ready.toNat = Rig.readyCycles.toNat ⌈/⌉ max (hertz.toNat / 1000000) 1 ∧
      (Rig.Covers ready hertz Rig.readyCycles <-> 1000000 ≤ hertz.toNat) ∧
      forall d : Device, d.config.clockRate = hertz -> d.session.fastBoot = false ->
        d.rig.board.refusesClock = false -> d.rig.board.refusesSupplies = false ->
        (powerOn.run d).result = .ok () ∧
        (powerOn.run d).events.getLast? = some (.pauseMicroseconds ready) := by
  rcases Rig.exists_coveringDelay (Rig.readyCycles_add_lt hertz) with ⟨ready, hready, hdelay⟩
  refine ⟨ready, hready, hdelay, Rig.covers_iff_of_ceilDiv (by decide) hdelay, ?_⟩
  rintro d rfl hboot hclock hsupplies
  rw [run_powerOn_of_granted hboot hclock hsupplies hready]
  refine ⟨rfl, ?_⟩
  rw [List.getLast?_append, Lines.riseEvents, List.getLast?_append]
  rfl

/-- Just under two megahertz only one cycle is counted for a microsecond. -/
theorem ready_covers_under_two_megahertz :
    Rig.Covers 8192 1999999 Rig.readyCycles ∧
    (powerOn.run (initial { Config.standard with clockRate := 1999999 } .sound)).events.getLast? =
      some (.pauseMicroseconds 8192) := by
  rcases ready_covers_iff 1999999 with ⟨ready, hready, -, hcovers, hlast⟩
  have hword : Rig.coveringDelay Rig.readyCycles 1999999 = .ok 8192 := by decide +kernel
  rw [hword] at hready
  cases hready
  exact ⟨hcovers.mpr (by decide), (hlast _ rfl rfl rfl rfl).2⟩

/-- At half a megahertz the sensor gets half the time it needs. -/
theorem ready_uncovered_at_half_megahertz :
    Rig.coveringDelay Rig.readyCycles 500000 = .ok 8192 ∧
    (powerOn.run (initial { Config.standard with clockRate := 500000 } .sound)).events.getLast? =
      some (.pauseMicroseconds 8192) ∧
    ¬ forall hertz : UInt32, 0 < hertz.toNat ->
        exists ready, Rig.coveringDelay Rig.readyCycles hertz = .ok ready ∧
          Rig.Covers ready hertz Rig.readyCycles := by
  have hword : Rig.coveringDelay Rig.readyCycles 500000 = .ok 8192 := by decide +kernel
  refine ⟨hword, rfl, ?_⟩
  intro hall
  rcases hall 500000 (by decide) with ⟨ready, hready, hcovers⟩
  rw [hword] at hready
  cases hready
  exact absurd hcovers (by decide)

end Device
end ImageSensor
