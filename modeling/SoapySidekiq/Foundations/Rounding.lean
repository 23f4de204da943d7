import Mathlib.Data.Int.ConditionallyCompleteOrder
import Mathlib.Algebra.Order.Floor.Ring
import Mathlib.Algebra.Order.Field.Basic
import Mathlib.Order.Lattice
import Mathlib.Tactic.Linarith
import Mathlib.Tactic.NormNum
import Mathlib.Tactic.Ring

/-! # Rounding half away from zero, and clamping

`std::round` and `std::clamp` on exact numbers. Rounding is monotone and fixes the integers, so it
commutes with clamping to integer bounds. -/
set_option autoImplicit false

namespace Rounding

/-! ## Clamping -/

section Clamp
variable {α β : Type} [LinearOrder α] [LinearOrder β]

def clamp (v lo hi : α) : α := if v < lo then lo else if hi < v then hi else v

theorem clamp_eq {v lo hi : α} (h : lo ≤ hi) : clamp v lo hi = max lo (min v hi) := by
  unfold clamp
  split
  · rename_i hlo
    rw [max_eq_left (le_trans (min_le_left _ _) hlo.le)]
  · rename_i hlo
    have hlo : lo ≤ v := le_of_not_gt hlo
    split
    · rename_i hhi
      rw [min_eq_right hhi.le, max_eq_right h]
    · rename_i hhi
      rw [min_eq_left (le_of_not_gt hhi), max_eq_right hlo]

theorem le_clamp {v lo hi : α} (h : lo ≤ hi) : lo ≤ clamp v lo hi := by
  rw [clamp_eq h]
  exact le_max_left _ _

theorem clamp_le {v lo hi : α} (h : lo ≤ hi) : clamp v lo hi ≤ hi := by
  rw [clamp_eq h]
  exact max_le h (min_le_right _ _)

theorem clamp_of_mem {v lo hi : α} (hlo : lo ≤ v) (hhi : v ≤ hi) : clamp v lo hi = v := by
  rw [clamp, if_neg (not_lt.mpr hlo), if_neg (not_lt.mpr hhi)]

theorem clamp_mono {v w lo hi : α} (h : lo ≤ hi) (hvw : v ≤ w) : clamp v lo hi ≤ clamp w lo hi := by
  rw [clamp_eq h, clamp_eq h]
  exact max_le_max_left _ (min_le_min_right _ hvw)

/-- A monotone map commutes with clamping. -/
theorem map_clamp {f : α → β} (hf : Monotone f) {v lo hi : α} (h : lo ≤ hi) :
    f (clamp v lo hi) = clamp (f v) (f lo) (f hi) := by
  rw [clamp_eq h, clamp_eq (hf h), hf.map_max, hf.map_min]

end Clamp

/-! ## Rounding -/

section Round
variable {α : Type} [Field α] [LinearOrder α] [IsStrictOrderedRing α] [FloorRing α]

/-- The nearest integer; a tie goes away from zero. -/
def roundHalfAway (x : α) : ℤ := if 0 ≤ x then ⌊x + 1 / 2⌋ else ⌈x - 1 / 2⌉

@[simp] theorem roundHalfAway_intCast (n : ℤ) : roundHalfAway (n : α) = n := by
  unfold roundHalfAway
  split
  · rw [Int.floor_intCast_add, Int.floor_eq_zero_iff.mpr, add_zero]
    constructor <;> norm_num
  · rw [Int.ceil_eq_iff]
    constructor <;> linarith

theorem roundHalfAway_nonneg {x : α} (h : 0 ≤ x) : 0 ≤ roundHalfAway x := by
  rw [roundHalfAway, if_pos h]
  exact Int.floor_nonneg.mpr (by linarith)

theorem roundHalfAway_mono : Monotone (roundHalfAway : α → ℤ) := by
  intro x y hxy
  unfold roundHalfAway
  by_cases hx : 0 ≤ x
  · rw [if_pos hx, if_pos (hx.trans hxy)]
    exact Int.floor_le_floor (by linarith)
  · rw [if_neg hx]
    by_cases hy : 0 ≤ y
    · rw [if_pos hy]
      calc ⌈x - 1 / 2⌉ ≤ 0 := Int.ceil_le.mpr (by push_cast; linarith)
        _ ≤ ⌊y + 1 / 2⌋ := Int.floor_nonneg.mpr (by linarith)
    · rw [if_neg hy]
      exact Int.ceil_le_ceil (by linarith)

theorem roundHalfAway_neg (x : α) : roundHalfAway (-x) = -roundHalfAway x := by
  have hzero : roundHalfAway (0 : α) = 0 := by exact_mod_cast roundHalfAway_intCast (α := α) 0
  rcases lt_trichotomy x 0 with hneg | rfl | hpos
  · have hfloor : ⌊-x + 1 / 2⌋ = -⌈x - 1 / 2⌉ := by rw [← Int.floor_neg]; congr 1; ring
    rw [roundHalfAway, roundHalfAway, if_pos (by linarith), if_neg (by linarith), hfloor]
  · rw [neg_zero, hzero, neg_zero]
  · have hceil : ⌈-x - 1 / 2⌉ = -⌊x + 1 / 2⌋ := by rw [← Int.ceil_neg]; congr 1; ring
    rw [roundHalfAway, roundHalfAway, if_neg (by linarith), if_pos hpos.le, hceil]

theorem clamp_neg {x hi : α} (h : 0 ≤ hi) : clamp (-x) (-hi) hi = -clamp x (-hi) hi := by
  unfold clamp
  split_ifs <;> linarith

theorem abs_roundHalfAway_sub_le (x : α) : |(roundHalfAway x : α) - x| ≤ 1 / 2 := by
  unfold roundHalfAway
  rw [abs_le]
  split
  · have h₁ := Int.floor_le (x + 1 / 2)
    have h₂ := Int.lt_floor_add_one (x + 1 / 2)
    constructor <;> linarith
  · have h₁ := Int.le_ceil (x - 1 / 2)
    have h₂ := Int.ceil_lt_add_one (x - 1 / 2)
    constructor <;> linarith

/-- Rounding a number that is clamped to integers is clamping the rounded number. -/
theorem roundHalfAway_clamp {x : α} {lo hi : ℤ} (h : lo ≤ hi) :
    roundHalfAway (clamp x (lo : α) (hi : α)) = clamp (roundHalfAway x) lo hi := by
  rw [map_clamp roundHalfAway_mono (by exact_mod_cast h), roundHalfAway_intCast,
    roundHalfAway_intCast]

/-- Conversion to an integer type discards the fraction. -/
def truncate (x : α) : ℤ := if 0 ≤ x then ⌊x⌋ else ⌈x⌉

@[simp] theorem truncate_intCast (n : ℤ) : truncate (n : α) = n := by
  simp [truncate]

end Round

end Rounding
