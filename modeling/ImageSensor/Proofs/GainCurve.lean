import ImageSensor.Proofs.ControlLimits
import Mathlib.Algebra.Order.Field.Basic
import Mathlib.Algebra.Order.Field.Rat
import Mathlib.Order.Bounds.Basic
import Mathlib.Tactic.Linarith
import Mathlib.Tactic.NormNum
import Mathlib.Tactic.Ring

/-!
# The gain that a request gets

The points of the table lie on a line: a bound is fifty times the sixteenths
that its fields encode, so that 800 units of a bound make a gain of one.  A
request is served by the least point whose bound covers it, or else by the
last; gain and ramp bias therefore never fall as the request rises.  The unit
of the requests is 1500, though, and so nearly all requests are served with a
gain well above the multiple of the unit that they ask for.
-/

namespace ImageSensor
namespace Gain

namespace Fields

/--
The gain that the fields encode: two to the power of bits 8 and 7 of the ramp
gain, times one and as many sixteenths as bits 6 to 0 say.
-/
def factor (f : Fields) : Rat :=
  2 ^ (2 * f.extension.toNat + f.coarse.toNat / 128) *
    (1 + (f.coarse.toNat % 128 : Nat) / 16)

theorem factor_eq (f : Fields) : f.factor = f.sixteenths / 16 := by
  have hpower : f.ramp / 128 = 2 * f.extension.toNat + f.coarse.toNat / 128 := by
    unfold ramp
    omega
  have hsteps : f.ramp % 128 = f.coarse.toNat % 128 := by
    unfold ramp
    omega
  unfold factor sixteenths
  rw [hpower, hsteps, Nat.shiftLeft_eq]
  push_cast
  ring

end Fields

/-!
# The table
-/

/-- The points by ascending bound, along which the ramp bias does not fall. -/
theorem pairwise_table :
    table.Pairwise fun p q => p.bound < q.bound ∧ p.fields.compound ≤ q.fields.compound := by
  decide

section

variable {p q : Point}

theorem bound_eq_sixteenths (hp : p ∈ table) :
    p.bound.toNat = 50 * p.fields.sixteenths := by
  revert p
  decide

theorem extension_cases (hp : p ∈ table) :
    p.fields.extension = 0 ∨ p.fields.extension = 1 := by
  revert p
  decide

theorem bound_le_last (hp : p ∈ table) : p.bound.toNat ≤ 25600 := by
  revert p
  decide

theorem factor_eq_bound (hp : p ∈ table) : p.fields.factor = p.bound.toNat / 800 := by
  rw [Fields.factor_eq, bound_eq_sixteenths hp]
  push_cast
  ring

theorem factor_lt_factor_iff (hp : p ∈ table) (hq : q ∈ table) :
    p.fields.factor < q.fields.factor <-> p.bound.toNat < q.bound.toNat := by
  rw [factor_eq_bound hp, factor_eq_bound hq, div_lt_div_iff_of_pos_right (by norm_num),
    Nat.cast_lt]

theorem factor_le_factor_iff (hp : p ∈ table) (hq : q ∈ table) :
    p.fields.factor ≤ q.fields.factor <-> p.bound.toNat ≤ q.bound.toNat := by
  rw [factor_eq_bound hp, factor_eq_bound hq, div_le_div_iff_of_pos_right (by norm_num),
    Nat.cast_le]

theorem compound_le_of_bound_le (hp : p ∈ table) (hq : q ∈ table) (h : p.bound ≤ q.bound) :
    p.fields.compound ≤ q.fields.compound := by
  have hsorted := List.pairwise_iff_getElem.mp pairwise_table
  rcases List.getElem_of_mem hp with ⟨i, hi, rfl⟩
  rcases List.getElem_of_mem hq with ⟨j, hj, rfl⟩
  rcases Nat.lt_trichotomy i j with hij | rfl | hij
  · exact (hsorted i j hi hj hij).2
  · exact UInt8.le_refl _
  · have hbelow := (hsorted j i hj hi hij).1
    exact (UInt32.not_le.mpr hbelow h).elim

end

/-!
# The point that serves a request
-/

theorem toNat_clamp (gain : UInt32) :
    (clamp gain).toNat = max 1500 (min gain.toNat 47999) := by
  have hminimum : minimum.toNat = 1500 := rfl
  have hmaximum : (maximum - 1).toNat = 47999 := rfl
  rw [clamp, UInt32.toNat_min, UInt32.toNat_max]
  omega

/--
A point serves a request if no lower one covers it; the last point serves the
requests that no point covers.
-/
structure Serves (gain : UInt32) (p : Point) : Prop where
  mem : p ∈ table
  least : forall q, q ∈ table -> (clamp gain).toNat ≤ q.bound.toNat ->
    p.bound.toNat ≤ q.bound.toNat
  covers : (clamp gain).toNat ≤ p.bound.toNat ∨ p.bound.toNat = 25600

theorem exists_serves (gain : UInt32) :
    exists p, Serves gain p ∧ encode gain = p.fields := by
  unfold encode
  cases hfind : table.find? fun point => decide (clamp gain ≤ point.bound) with
  | none =>
      refine ⟨last, ⟨List.getLast_mem _, ?_, Or.inr rfl⟩, rfl⟩
      intro q hq hcovers
      have hnot := List.find?_eq_none.mp hfind q hq
      exact (hnot (decide_eq_true (UInt32.le_iff_toNat_le.mpr hcovers))).elim
  | some p =>
      rcases List.find?_eq_some_iff_append.mp hfind with
        ⟨hcovers, before, behind, htable, hbefore⟩
      have hcovers := UInt32.le_iff_toNat_le.mp (of_decide_eq_true hcovers)
      have hsorted := pairwise_table
      rw [htable] at hsorted
      refine ⟨p, ⟨List.mem_of_find?_eq_some hfind, ?_, Or.inl hcovers⟩, rfl⟩
      intro q hq hqcovers
      rw [htable, List.mem_append, List.mem_cons] at hq
      rcases hq with hq | rfl | hq
      · have hnot := hbefore q hq
        rw [Bool.not_eq_true', decide_eq_false_iff_not, UInt32.le_iff_toNat_le] at hnot
        exact (hnot hqcovers).elim
      · exact Nat.le_refl _
      · have hp := (List.pairwise_cons.mp (List.pairwise_append.mp hsorted).2.1).1 q hq
        exact Nat.le_of_lt (UInt32.lt_iff_toNat_lt.mp hp.1)

theorem Serves.eq_last {gain : UInt32} {p : Point} (h : Serves gain p)
    (hbeyond : 25600 < (clamp gain).toNat) : p.bound.toNat = 25600 := by
  have hlast := bound_le_last h.mem
  rcases h.covers with hcovers | hbound
  · omega
  · exact hbound

/-- A higher request is served by the same point or by a higher one. -/
theorem Serves.mono {low high : UInt32} {p q : Point} (hp : Serves low p)
    (hq : Serves high q) (h : low ≤ high) : p.bound.toNat ≤ q.bound.toNat := by
  rcases hq.covers with hcovers | hlast
  · apply hp.least q hq.mem
    have hclamp : (clamp low).toNat ≤ (clamp high).toNat := by
      rw [UInt32.le_iff_toNat_le] at h
      rw [toNat_clamp, toNat_clamp]
      omega
    exact Nat.le_trans hclamp hcovers
  · rw [hlast]
    exact bound_le_last hp.mem

/-!
# The curve
-/

/-- The bounds of the table from some number on. -/
def boundsFrom (c : Nat) : Set Nat :=
  {bound | exists p, p ∈ table ∧ p.bound.toNat = bound ∧ c ≤ bound}

/-- The gains that the table encodes, from some gain on. -/
def factorsFrom (least : Rat) : Set Rat :=
  {factor | exists p, p ∈ table ∧ p.fields.factor = factor ∧ least ≤ factor}

/--
The fields encode the least gain of the table that serves a request, the
request being brought into range first.
-/
structure OnCurve (c : Nat) (f : Fields) : Prop where
  least : (boundsFrom c).Nonempty -> IsLeast (boundsFrom c) (50 * f.sixteenths)
  beyond : ¬ (boundsFrom c).Nonempty -> 50 * f.sixteenths = 25600
  enough : c ≤ 25600 -> (c : Rat) / 800 ≤ f.factor
  sparing : forall p, p ∈ table -> p.fields.factor < f.factor -> p.fields.factor < c / 800
  saturates : 25600 < c -> f.factor = 32
  extension : f.extension = 0 ∨ f.extension = 1

theorem Serves.onCurve {gain : UInt32} {p : Point} (h : Serves gain p) :
    OnCurve (clamp gain).toNat p.fields := by
  have hbound := bound_eq_sixteenths h.mem
  have hfactor := factor_eq_bound h.mem
  have hcovers : (clamp gain).toNat ≤ 25600 -> (clamp gain).toNat ≤ p.bound.toNat := by
    intro hreach
    rcases h.covers with hcovers | hlast
    · exact hcovers
    · omega
  constructor
  case least =>
      rintro ⟨bound, q, hq, rfl, hqcovers⟩
      have hreach := Nat.le_trans hqcovers (bound_le_last hq)
      rw [← hbound]
      refine ⟨⟨p, h.mem, rfl, hcovers hreach⟩, ?_⟩
      rintro bound ⟨r, hr, rfl, hrcovers⟩
      exact h.least r hr hrcovers
  case beyond =>
      intro hnone
      rw [← hbound]
      rcases h.covers with hcovers | hlast
      · exact (hnone ⟨p.bound.toNat, p, h.mem, rfl, hcovers⟩).elim
      · exact hlast
  case enough =>
      intro hreach
      have hcast : ((clamp gain).toNat : Rat) ≤ p.bound.toNat := by
        exact_mod_cast hcovers hreach
      rw [hfactor]
      linarith
  case sparing =>
      intro q hq hless
      rw [factor_lt_factor_iff hq h.mem] at hless
      have hshort : q.bound.toNat < (clamp gain).toNat := by
        by_contra hqcovers
        have hleast := h.least q hq (Nat.not_lt.mp hqcovers)
        omega
      have hcast : (q.bound.toNat : Rat) < (clamp gain).toNat := by
        exact_mod_cast hshort
      rw [factor_eq_bound hq]
      linarith
  case saturates =>
      intro hbeyond
      rw [hfactor, h.eq_last hbeyond]
      norm_num
  case extension => exact extension_cases h.mem

/--
Every request is served with the least gain of the table that covers it, as far
as the table goes; gain and ramp bias do not fall as the request rises.
-/
theorem onCurve_encode :
    (forall gain : UInt32, OnCurve (max 1500 (min gain.toNat 47999)) (encode gain)) ∧
    forall low high : UInt32, low ≤ high ->
      (encode low).sixteenths ≤ (encode high).sixteenths ∧
      (encode low).compound ≤ (encode high).compound := by
  constructor
  · intro gain
    rcases exists_serves gain with ⟨p, hserves, hfields⟩
    rw [hfields, ← toNat_clamp]
    exact hserves.onCurve
  · intro low high hle
    rcases exists_serves low with ⟨p, hp, hlow⟩
    rcases exists_serves high with ⟨q, hq, hhigh⟩
    have hrises := hp.mono hq hle
    rw [hlow, hhigh]
    constructor
    · rw [bound_eq_sixteenths hp.mem, bound_eq_sixteenths hq.mem] at hrises
      omega
    · exact compound_le_of_bound_le hp.mem hq.mem (UInt32.le_iff_toNat_le.mpr hrises)

/-- The ninth bit is reached in the middle of the table. -/
theorem onCurve_encode_ninth_bit :
    encode 13600 = ⟨0xf8, 0x0, 0x32⟩ ∧ encode 13601 = ⟨0x39, 0x1, 0x32⟩ ∧
      (encode 13600).sixteenths ≤ (encode 13601).sixteenths ∧
      (encode 13600).compound ≤ (encode 13601).compound :=
  ⟨by decide, by decide, onCurve_encode.2 13600 13601 (by decide)⟩

/-!
# The unit of the requests
-/

/-- Above the first point, another has more than half of the bound. -/
theorem exists_below {p : Point} (hp : p ∈ table) (h : 800 < p.bound.toNat) :
    exists q, q ∈ table ∧ q.bound.toNat < p.bound.toNat ∧
      8 * p.bound.toNat ≤ 15 * q.bound.toNat := by
  revert p
  decide

theorem last_of_bound_lt {p : Point} (hp : p ∈ table) (h : 25200 < p.bound.toNat) :
    p.bound.toNat = 25600 := by
  revert p
  decide

section

variable {gain : UInt32} {p : Point}

theorem isLeast_factorsFrom_iff {least : Rat} (hp : p ∈ table) :
    IsLeast (factorsFrom least) p.fields.factor <->
      least ≤ p.fields.factor ∧
        forall q, q ∈ table -> least ≤ q.fields.factor -> p.bound.toNat ≤ q.bound.toNat := by
  constructor
  · rintro ⟨⟨-, -, -, hleast⟩, hlower⟩
    refine ⟨hleast, ?_⟩
    intro q hq hqleast
    exact (factor_le_factor_iff hp hq).mp (hlower ⟨q, hq, rfl, hqleast⟩)
  · rintro ⟨hleast, hlower⟩
    refine ⟨⟨p, hp, rfl, hleast⟩, ?_⟩
    rintro factor ⟨q, hq, rfl, hqleast⟩
    exact (factor_le_factor_iff hp hq).mpr (hlower q hq hqleast)

theorem unit_le_factor_iff (hp : p ∈ table) :
    (gain.toNat : Rat) / unit.toNat ≤ p.fields.factor <->
      8 * gain.toNat ≤ 15 * p.bound.toNat := by
  have hunit : unit.toNat = 1500 := rfl
  rw [factor_eq_bound hp, hunit, div_le_div_iff₀ (by norm_num) (by norm_num)]
  norm_cast
  omega

theorem eight_hundred_le_factor_iff (hp : p ∈ table) (c : Nat) :
    (c : Rat) / 800 ≤ p.fields.factor <-> c ≤ p.bound.toNat := by
  rw [factor_eq_bound hp, div_le_div_iff_of_pos_right (by norm_num), Nat.cast_le]

theorem toNat_clamp_of_accepted (h : ControlSet.gainRange.contains gain = true) :
    1500 ≤ gain.toNat ∧ gain.toNat ≤ 48000 ∧ (clamp gain).toNat = min gain.toNat 47999 := by
  rcases Range.contains_iff.mp h with ⟨hlowest, hhighest⟩
  have hminimum : ControlSet.gainRange.lowest.toNat = 1500 := rfl
  have hmaximum : ControlSet.gainRange.highest.toNat = 48000 := rfl
  rw [toNat_clamp]
  omega

/-- A point that serves a request is the least that covers it, as far as there is one. -/
theorem Serves.isLeast (h : Serves gain p)
    (haccepted : ControlSet.gainRange.contains gain = true) :
    IsLeast (factorsFrom ((min gain.toNat 25600 : Nat) / 800 : Rat)) p.fields.factor := by
  rcases toNat_clamp_of_accepted haccepted with ⟨-, -, hclamp⟩
  have hlast := bound_le_last h.mem
  rw [isLeast_factorsFrom_iff h.mem, eight_hundred_le_factor_iff h.mem]
  constructor
  · rcases h.covers with hcovers | hbound <;> omega
  · intro q hq hcovers
    rw [eight_hundred_le_factor_iff hq] at hcovers
    by_cases hreach : gain.toNat ≤ 25600
    · apply h.least q hq
      omega
    · omega

theorem Serves.isLeast_unit_iff (h : Serves gain p)
    (haccepted : ControlSet.gainRange.contains gain = true) :
    IsLeast (factorsFrom ((gain.toNat : Rat) / unit.toNat)) p.fields.factor <->
      47250 < gain.toNat := by
  rcases toNat_clamp_of_accepted haccepted with ⟨hlowest, hhighest, hclamp⟩
  rw [isLeast_factorsFrom_iff h.mem, unit_le_factor_iff h.mem]
  constructor
  · rintro ⟨-, hleast⟩
    by_contra hlow
    -- a point under the one that serves would do
    have hbelow : exists q, q ∈ table ∧ q.bound.toNat < p.bound.toNat ∧
        8 * gain.toNat ≤ 15 * q.bound.toNat := by
      rcases h.covers with hcovers | hbound
      · rcases exists_below h.mem (by omega) with ⟨q, hq, hless, hhalf⟩
        have hlast := bound_le_last h.mem
        exact ⟨q, hq, hless, by omega⟩
      · have hnext : (⟨25200, ⟨0x6e, 0x1, 0x32⟩⟩ : Point) ∈ table := by decide
        refine ⟨_, hnext, ?_⟩
        show 25200 < p.bound.toNat ∧ 8 * gain.toNat ≤ 15 * 25200
        omega
    rcases hbelow with ⟨q, hq, hless, hserves⟩
    have hcontra := hleast q hq ((unit_le_factor_iff hq).mpr hserves)
    omega
  · intro hhigh
    have hlast := h.eq_last (by omega)
    refine ⟨by omega, ?_⟩
    intro q hq hqleast
    rw [unit_le_factor_iff hq] at hqleast
    have hqlast := last_of_bound_lt hq (by omega)
    omega

end

/--
An accepted request is served with the least gain of the table that is no less
than one for every 800 units, up to the last; the least that is no less than
one for every unit is what it gets near the top of the range only.
-/
theorem isLeast_factor_iff (gain : UInt32)
    (haccepted : ControlSet.gainRange.contains gain = true) :
    IsLeast (factorsFrom ((min gain.toNat 25600 : Nat) / 800 : Rat)) (encode gain).factor ∧
      (IsLeast (factorsFrom ((gain.toNat : Rat) / unit.toNat)) (encode gain).factor <->
        47250 < gain.toNat) := by
  rcases exists_serves gain with ⟨p, hserves, hfields⟩
  rw [hfields]
  exact ⟨hserves.isLeast haccepted, hserves.isLeast_unit_iff haccepted⟩

/-- Twice the unit is served with more than four, the top of the range as asked for. -/
theorem isLeast_factor_iff_top :
    ControlSet.gainRange.contains 3000 = true ∧ (encode 3000).factor = 17 / 4 ∧
      ¬ IsLeast (factorsFrom (3000 / unit.toNat)) (encode 3000).factor ∧
    ControlSet.gainRange.contains 47251 = true ∧ (encode 47251).factor = 32 ∧
      IsLeast (factorsFrom (47251 / unit.toNat)) (encode 47251).factor := by
  have htwice : ControlSet.gainRange.contains 3000 = true := by decide
  have htop : ControlSet.gainRange.contains 47251 = true := by decide
  have hfirst : (encode 3000).sixteenths = 68 := by decide
  have hsecond : (encode 47251).sixteenths = 512 := by decide
  refine ⟨htwice, ?_, ?_, htop, ?_, ?_⟩
  · rw [Fields.factor_eq, hfirst]
    norm_num
  · intro hunit
    have hcontra := (isLeast_factor_iff 3000 htwice).2.mp hunit
    revert hcontra
    decide
  · rw [Fields.factor_eq, hsecond]
    norm_num
  · exact (isLeast_factor_iff 47251 htop).2.mpr (by decide)

/-- The unit itself is served with nearly two, although the table encodes one. -/
theorem unit_above_one :
    ¬ forall gain : UInt32, ControlSet.gainRange.contains gain = true ->
      IsLeast (factorsFrom ((gain.toNat : Rat) / unit.toNat)) (encode gain).factor := by
  intro hall
  let lowest : Point := ⟨800, ⟨0x00, 0x0, 0x1f⟩⟩
  have hlowest : lowest ∈ table := by decide
  have hone : lowest.fields.sixteenths = 16 := by decide
  have hunit : (encode unit).sixteenths = 30 := by decide
  have hcovers : (unit.toNat : Rat) / unit.toNat ≤ lowest.fields.factor :=
    (unit_le_factor_iff hlowest).mpr (by decide)
  have hleast := (hall unit (by decide)).2 ⟨lowest, hlowest, rfl, hcovers⟩
  rw [Fields.factor_eq, Fields.factor_eq, hunit, hone] at hleast
  norm_num at hleast

end Gain
end ImageSensor
