import Mathlib.Data.Rat.Floor
import Mathlib.Algebra.Order.Floor.Semifield
import Mathlib.Tactic.Ring
import Mathlib.Tactic.Linarith
import Mathlib.Tactic.FieldSimp
import Mathlib.Tactic.Positivity

/-! # Floors of sums of fractions

Two truncated quotients `a / b` and `c / d` and their remainders determine the floor of the exact
sum `a/b + c/d`: the integer parts add up and one unit is carried when the fractional parts reach
one. The carry is decided by comparing one remainder with a rounded-up threshold, so the two
fractions are never put over a common denominator. -/
set_option autoImplicit false

namespace FloorSum

/-! ## The carry -/

theorem sum_split (a b c d : ℕ) :
    a * d + c * b = (a % b * d + c % d * b) + (a / b + c / d) * (b * d) := by
  have ha : b * (a / b) + a % b = a := Nat.div_add_mod a b
  have hc : d * (c / d) + c % d = c := Nat.div_add_mod c d
  calc a * d + c * b
      = (b * (a / b) + a % b) * d + (d * (c / d) + c % d) * b := by rw [ha, hc]
    _ = (a % b * d + c % d * b) + (a / b + c / d) * (b * d) := by ring

theorem fractions_lt (a b c d : ℕ) (hb : 0 < b) (hd : 0 < d) :
    a % b * d + c % d * b < 2 * (b * d) := by
  have h1 : a % b * d < b * d := Nat.mul_lt_mul_of_pos_right (Nat.mod_lt a hb) hd
  have h2 : c % d * b < d * b := Nat.mul_lt_mul_of_pos_right (Nat.mod_lt c hd) hb
  rw [Nat.mul_comm d b] at h2
  omega

/-- The floor of `a/b + c/d` from the two truncated quotients and their remainders. -/
theorem add_div_floor (a b c d : ℕ) (hb : 0 < b) (hd : 0 < d) :
    (a * d + c * b) / (b * d) =
      a / b + c / d + if b * d ≤ a % b * d + c % d * b then 1 else 0 := by
  have hpos : 0 < b * d := Nat.mul_pos hb hd
  rw [sum_split, Nat.add_mul_div_right _ _ hpos, Nat.add_comm]
  congr 1
  have hlt := fractions_lt a b c d hb hd
  by_cases hc : b * d ≤ a % b * d + c % d * b
  · rw [if_pos hc]
    exact Nat.div_eq_of_lt_le (by omega) (by omega)
  · rw [if_neg hc]
    exact Nat.div_eq_of_lt (by omega)

/-- No carry can come from a fraction that is zero. -/
theorem no_carry_left (b d y : ℕ) (hb : 0 < b) (hy : y < d) : ¬ b * d ≤ 0 * d + y * b := by
  have h : y * b < d * b := Nat.mul_lt_mul_of_pos_right hy hb
  rw [Nat.mul_comm d b] at h
  omega

theorem no_carry_right (b d x : ℕ) (hd : 0 < d) (hx : x < b) : ¬ b * d ≤ x * d + 0 * b := by
  have h : x * d < b * d := Nat.mul_lt_mul_of_pos_right hx hd
  omega

/-! ## The rounded-up threshold -/

/-- Rounding a quotient up, as the truncated quotient plus one when a remainder is left. -/
def ceilDiv (t d : ℕ) : ℕ := t / d + if t % d ≠ 0 then 1 else 0

theorem ceilDiv_le_iff (t d x : ℕ) (hd : 0 < d) : ceilDiv t d ≤ x ↔ t ≤ x * d := by
  have hsplit : d * (t / d) + t % d = t := Nat.div_add_mod t d
  have hmod : t % d < d := Nat.mod_lt t hd
  unfold ceilDiv
  by_cases hz : t % d = 0
  · have ht : t = t / d * d := by rw [Nat.mul_comm]; omega
    simp only [hz, ne_eq, not_true_eq_false, if_false, Nat.add_zero]
    constructor
    · intro h
      rw [ht]
      exact Nat.mul_le_mul_right d h
    · intro h
      exact Nat.div_le_of_le_mul (by rw [Nat.mul_comm]; exact h)
  · simp only [ne_eq, hz, not_false_eq_true, if_true]
    constructor
    · intro h
      have hmul : (t / d + 1) * d ≤ x * d := Nat.mul_le_mul_right d h
      rw [Nat.add_mul, Nat.mul_comm (t / d) d] at hmul
      omega
    · intro h
      by_contra hx
      have hle : x * d ≤ t / d * d := Nat.mul_le_mul_right d (by omega)
      rw [Nat.mul_comm (t / d) d] at hle
      omega

/-- Two proper fractions `x/b` and `y/d` reach one exactly when `x` reaches `(d - y) * b / d`
rounded up. -/
theorem carry_iff_threshold (b d x y : ℕ) (hd : 0 < d) (hy : y ≤ d) :
    ceilDiv ((d - y) * b) d ≤ x ↔ b * d ≤ x * d + y * b := by
  rw [ceilDiv_le_iff _ _ _ hd, Nat.sub_mul, Nat.mul_comm d b]
  have hle : y * b ≤ b * d := by rw [Nat.mul_comm b d]; exact Nat.mul_le_mul_right b hy
  omega

/-! ## Rational readings -/

/-- The floor of a sum of two rational quotients, over a common denominator. -/
theorem floor_add_div (a b c d : ℕ) (hb : 0 < b) (hd : 0 < d) :
    ⌊(a : ℚ) / (b : ℚ) + (c : ℚ) / (d : ℚ)⌋₊ = (a * d + c * b) / (b * d) := by
  have hb' : (b : ℚ) ≠ 0 := by exact_mod_cast hb.ne'
  have hd' : (d : ℚ) ≠ 0 := by exact_mod_cast hd.ne'
  have h : (a : ℚ) / b + (c : ℚ) / d = ((a * d + c * b : ℕ) : ℚ) / ((b * d : ℕ) : ℚ) := by
    push_cast
    field_simp
  rw [h]
  exact Nat.floor_div_eq_div _ _

end FloorSum
