/-
**Rounding up to a multiple, and the mask that computes it.**

`roundUp unit size` is the least multiple of `unit` that is at least `size` (`roundUp_isLeast`). For
a power of two, machine code computes it with a mask: add `unit - 1`, clear the low bits.
`and_not_mask_toNat` says that clearing them in `w` bits is rounding down, at every width, so the
two agree whenever the addition does not wrap.
-/

import Mathlib.Algebra.Ring.Nat
import Mathlib.Order.Bounds.Defs

namespace Rounding

/-- The least multiple of `unit` that is at least `size`. -/
def roundUp (unit size : Nat) : Nat := (size + (unit - 1)) / unit * unit

theorem dvd_roundUp (unit size : Nat) : unit ∣ roundUp unit size :=
  Nat.dvd_mul_left _ _

theorem le_roundUp {unit : Nat} (positive : 0 < unit) (size : Nat) : size ≤ roundUp unit size := by
  have split := Nat.div_add_mod (size + (unit - 1)) unit
  have small := Nat.mod_lt (size + (unit - 1)) positive
  unfold roundUp
  rw [Nat.mul_comm]
  omega

/-- No multiple lies between a size and its rounding. -/
theorem roundUp_le {unit : Nat} (positive : 0 < unit) {size bound : Nat} (multiple : unit ∣ bound)
    (above : size ≤ bound) : roundUp unit size ≤ bound := by
  obtain ⟨count, rfl⟩ := multiple
  unfold roundUp
  rw [Nat.mul_comm]
  refine Nat.mul_le_mul_left unit (Nat.le_of_lt_succ ((Nat.div_lt_iff_lt_mul positive).mpr ?_))
  rw [Nat.succ_mul, Nat.mul_comm count]
  omega

theorem roundUp_isLeast {unit : Nat} (positive : 0 < unit) (size : Nat) :
    IsLeast {bound | unit ∣ bound ∧ size ≤ bound} (roundUp unit size) :=
  ⟨⟨dvd_roundUp unit size, le_roundUp positive size⟩, fun _ bound =>
    roundUp_le positive bound.1 bound.2⟩

theorem eq_roundUp_of_isLeast {unit : Nat} (positive : 0 < unit) {size value : Nat}
    (least : IsLeast {bound | unit ∣ bound ∧ size ≤ bound} value) : value = roundUp unit size := by
  have rounded := roundUp_isLeast positive size
  exact Nat.le_antisymm (least.2 rounded.1) (rounded.2 least.1)

theorem roundUp_mono {unit : Nat} (positive : 0 < unit) {size larger : Nat}
    (ordered : size ≤ larger) : roundUp unit size ≤ roundUp unit larger :=
  roundUp_le positive (dvd_roundUp unit larger)
    (Nat.le_trans ordered (le_roundUp positive larger))

/-- A multiple is its own rounding. -/
theorem roundUp_of_dvd {unit : Nat} (positive : 0 < unit) {size : Nat} (multiple : unit ∣ size) :
    roundUp unit size = size :=
  Nat.le_antisymm (roundUp_le positive multiple (Nat.le_refl size)) (le_roundUp positive size)

/-- A multiple bounds a size exactly when it bounds its rounding. -/
theorem roundUp_le_iff {unit : Nat} (positive : 0 < unit) {size bound : Nat}
    (multiple : unit ∣ bound) : roundUp unit size ≤ bound ↔ size ≤ bound :=
  ⟨Nat.le_trans (le_roundUp positive size), roundUp_le positive multiple⟩

/-- Cutting a bound down to a multiple loses no multiple below it. -/
theorem le_sub_mod_iff {unit : Nat} (positive : 0 < unit) {value bound : Nat}
    (multiple : unit ∣ value) : value ≤ bound - bound % unit ↔ value ≤ bound := by
  refine ⟨fun below => Nat.le_trans below (Nat.sub_le _ _), fun below => ?_⟩
  obtain ⟨count, rfl⟩ := multiple
  have quotient : count ≤ bound / unit := by
    rw [Nat.le_div_iff_mul_le positive, Nat.mul_comm]
    exact below
  have split := Nat.div_add_mod bound unit
  have scaled := Nat.mul_le_mul_left unit quotient
  omega

/-- **Clearing the low bits is rounding down**, at every width. -/
theorem and_not_mask_toNat {width shift value : Nat} (small : value < 2 ^ width) :
    (BitVec.ofNat width value &&& ~~~ BitVec.ofNat width (2 ^ shift - 1)).toNat =
      value / 2 ^ shift * 2 ^ shift := by
  apply Nat.eq_of_testBit_eq
  intro bit
  rw [BitVec.testBit_toNat, BitVec.getLsbD_and, BitVec.getLsbD_not, BitVec.getLsbD_ofNat,
    BitVec.getLsbD_ofNat, Nat.testBit_two_pow_sub_one, Nat.testBit_mul_two_pow,
    Nat.testBit_div_two_pow]
  by_cases low : shift ≤ bit
  · rw [Nat.sub_add_cancel low]
    by_cases inside : bit < width
    · simp [low, inside]
    · have wide : value < 2 ^ bit :=
        Nat.lt_of_lt_of_le small (Nat.pow_le_pow_right Nat.two_pos (Nat.le_of_not_lt inside))
      simp [inside, Nat.testBit_lt_two_pow wide]
  · simp [low, Nat.lt_of_not_le low]

end Rounding
