/-!
# Checked word arithmetic

Geometry, timing and counts are 32-bit words.  A sum or difference that leaves
that range is not reduced modulo the word size: it ends the computation with
an `Overflow` that names the operation.  The lemmas give each operation in
terms of the numbers the words stand for.
-/

namespace ImageSensor

/-- The operation whose result does not fit into 32 bits. -/
inductive Overflow where
  | add
  | subtract
deriving DecidableEq

/-- A computation on words that may overflow. -/
abbrev Checked (α : Type) : Type :=
  Except Overflow α

namespace Checked

/-- The sum of two words, if it is a word. -/
def add (a b : UInt32) : Checked UInt32 :=
  if a.toNat + b.toNat < UInt32.size then .ok (a + b) else .error .add

/-- The difference of two words, if it is not negative. -/
def sub (a b : UInt32) : Checked UInt32 :=
  if b ≤ a then .ok (a - b) else .error .subtract

/-- How far two words lie apart, which is always a word. -/
def distance (a b : UInt32) : UInt32 :=
  if b < a then a - b else b - a

/-!
# Meaning in natural numbers
-/

theorem add_eq_ok_iff {a b c : UInt32} :
    add a b = .ok c <-> a.toNat + b.toNat = c.toNat := by
  unfold add
  have hc : c.toNat < UInt32.size := c.toNat_lt_size
  split
  case isTrue h =>
      constructor
      · intro hsum
        injection hsum with hsum
        rw [← hsum, UInt32.toNat_add, Nat.mod_eq_of_lt h]
      · intro hsum
        congr 1
        apply UInt32.toNat.inj
        rw [UInt32.toNat_add, Nat.mod_eq_of_lt h, hsum]
  case isFalse h =>
      constructor
      · intro hsum
        cases hsum
      · intro hsum
        omega

theorem exists_add {a b : UInt32} (h : a.toNat + b.toNat < UInt32.size) :
    exists s, add a b = .ok s ∧ s.toNat = a.toNat + b.toNat := by
  refine ⟨a + b, if_pos h, ?_⟩
  rw [UInt32.toNat_add, Nat.mod_eq_of_lt h]

theorem exists_sub {a b : UInt32} (h : b.toNat ≤ a.toNat) :
    exists d, sub a b = .ok d ∧ d.toNat = a.toNat - b.toNat := by
  have hle : b ≤ a := UInt32.le_iff_toNat_le.mpr h
  exact ⟨a - b, if_pos hle, UInt32.toNat_sub_of_le a b hle⟩

theorem toNat_distance (a b : UInt32) :
    (distance a b).toNat = (a.toNat - b.toNat) + (b.toNat - a.toNat) := by
  unfold distance
  split
  case isTrue h =>
      have hlt : b.toNat < a.toNat := UInt32.lt_iff_toNat_lt.mp h
      rw [UInt32.toNat_sub_of_le a b (UInt32.le_iff_toNat_le.mpr (by omega))]
      omega
  case isFalse h =>
      have hle : a.toNat ≤ b.toNat :=
        Nat.le_of_not_lt fun hlt => h (UInt32.lt_iff_toNat_lt.mpr hlt)
      rw [UInt32.toNat_sub_of_le b a (UInt32.le_iff_toNat_le.mpr hle)]
      omega

end Checked
end ImageSensor
