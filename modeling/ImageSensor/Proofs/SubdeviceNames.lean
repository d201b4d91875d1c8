import ImageSensor.Config
import Mathlib.Logic.Function.Defs

/-!
# Subdevice names

The name that a sensor is listed under tells the index of its module, the side
it faces and its bus device, and nothing else about its configuration.  The
leading zero of a small index does not change the number that the digits stand
for.  No digit is an underscore, so the first underscore of a name ends the
index, and what comes after the sensor's own name is the bus device, even if
that looks like a subdevice name itself.
-/

namespace ImageSensor

theorem Facing.letter_injective : Function.Injective letter := by
  intro s t h
  cases s <;> cases t
  · rfl
  · exact absurd h (by decide)
  · exact absurd h (by decide)
  · rfl

/-!
# Marked ends
-/

section

variable {mark : Char} {front front' rest rest' : List Char}

theorem eq_nil_and_eq_of_mark_cons (hfront : mark ∉ front)
    (h : mark :: rest = front ++ mark :: rest') : front = [] ∧ rest = rest' := by
  cases front with
  | nil => exact ⟨rfl, (List.cons.inj h).2⟩
  | cons c front =>
      rcases List.cons.inj h with ⟨rfl, -⟩
      exact absurd List.mem_cons_self hfront

/-- What stands before the first mark of a text, and what stands after it, are determined. -/
theorem eq_and_eq_of_append_mark (hfront : mark ∉ front) (hfront' : mark ∉ front')
    (h : front ++ mark :: rest = front' ++ mark :: rest') :
    front = front' ∧ rest = rest' := by
  -- One front extends the other, by characters among which there is no mark.
  rcases List.append_eq_append_iff.mp h with ⟨more, rfl, hrest⟩ | ⟨more, rfl, hrest⟩
  · rcases eq_nil_and_eq_of_mark_cons
      (fun hmark => hfront' (List.mem_append_right front hmark)) hrest with ⟨rfl, rfl⟩
    exact ⟨(List.append_nil front).symm, rfl⟩
  · rcases eq_nil_and_eq_of_mark_cons
      (fun hmark => hfront (List.mem_append_right front' hmark)) hrest with ⟨rfl, rfl⟩
    exact ⟨List.append_nil front', rfl⟩

end

namespace Config

/-!
# Padded indices
-/

theorem toList_twoDigits (n : Nat) :
    (twoDigits n).toList = if n < 10 then '0' :: Nat.toDigits 10 n else Nat.toDigits 10 n := by
  unfold twoDigits
  split <;> simp

/-- A leading zero leaves the number that the digits stand for. -/
theorem ofDigitChars_twoDigits (n : Nat) :
    Nat.ofDigitChars 10 (twoDigits n).toList 0 = n := by
  rw [toList_twoDigits]
  split
  · rw [Nat.ofDigitChars_cons]
    exact Nat.ofDigitChars_ten_toDigits
  · exact Nat.ofDigitChars_ten_toDigits

theorem twoDigits_injective : Function.Injective twoDigits := by
  intro m n h
  rw [← ofDigitChars_twoDigits m, h, ofDigitChars_twoDigits]

theorem underscore_notMem_twoDigits (n : Nat) : '_' ∉ (twoDigits n).toList := by
  rw [toList_twoDigits]
  split <;> simp

/-!
# Whole names
-/

theorem toList_subdeviceName (c : Config) (device : String) :
    (c.subdeviceName device).toList =
      'm' :: ((twoDigits c.camera.index.toNat).toList ++ '_' :: c.camera.facing.letter ::
        (('_' :: sensorName.toList ++ [' ']) ++ device.toList)) := by
  simp [subdeviceName]

/--
Two sensors are listed under one name exactly if their modules have one index,
face one side and are one bus device.
-/
theorem subdeviceName_eq_iff (a b : Config) (x y : String) :
    a.subdeviceName x = b.subdeviceName y <->
      a.camera.index = b.camera.index ∧ a.camera.facing = b.camera.facing ∧ x = y := by
  constructor
  · intro h
    have htext := congrArg String.toList h
    rw [toList_subdeviceName, toList_subdeviceName] at htext
    rcases eq_and_eq_of_append_mark (underscore_notMem_twoDigits _)
      (underscore_notMem_twoDigits _) (List.cons.inj htext).2 with ⟨hdigits, hrest⟩
    rcases List.cons.inj hrest with ⟨hletter, hdevice⟩
    have hindex : a.camera.index.toNat = b.camera.index.toNat :=
      twoDigits_injective (String.toList_inj.mp hdigits)
    exact ⟨UInt32.toNat_inj.mp hindex, Facing.letter_injective hletter,
      String.toList_inj.mp (List.append_cancel_left hdevice)⟩
  · rintro ⟨hindex, hfacing, rfl⟩
    rw [subdeviceName, subdeviceName, hindex, hfacing]

example : ({ standard with camera := ⟨1, .front, "", ""⟩ }).subdeviceName "m01_f_mia1321 x" =
    "m01_f_mia1321 m01_f_mia1321 x" := by
  decide

end Config
end ImageSensor
