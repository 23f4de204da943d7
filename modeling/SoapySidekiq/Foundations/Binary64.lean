import Mathlib.Algebra.Order.Field.Rat
import Mathlib.Data.Nat.Size
import Mathlib.Tactic.Positivity
import Mathlib.Tactic.Ring
import Mathlib.Tactic.NormNum

/-! # Doubles as dyadic rationals

A finite double is an integer of at most 53 bits times a power of two. `frexp` and `ldexp` only move
the exponent, so they are exact. -/
set_option autoImplicit false

namespace Binary64

structure Finite where
  mantissa : ℤ
  exponent : ℤ
  bound : mantissa.natAbs < 2 ^ 53

inductive Value where
  | nan
  | infinite (negative : Bool)
  | finite (number : Finite)

namespace Finite

def value (d : Finite) : ℚ := d.mantissa * 2 ^ d.exponent

def ldexp (d : Finite) (n : ℤ) : Finite := { d with exponent := d.exponent + n }

/-- The mantissa in `[1/2, 1)` and the exponent; zero has exponent 0. -/
def frexp (d : Finite) : Finite × ℤ :=
  if d.mantissa = 0 then (d, 0)
  else ({ d with exponent := -d.mantissa.natAbs.size }, d.exponent + d.mantissa.natAbs.size)

/-- Conversion to an integer type: truncation toward zero. -/
def truncate (d : Finite) : ℤ :=
  if 0 ≤ d.exponent then d.mantissa * 2 ^ d.exponent.toNat
  else d.mantissa.tdiv (2 ^ (-d.exponent).toNat)

theorem mantissa_pos {d : Finite} (h : 0 < d.value) : 0 < d.mantissa := by
  have hpow : (0 : ℚ) < 2 ^ d.exponent := zpow_pos (by norm_num) _
  exact_mod_cast pos_of_mul_pos_left h hpow.le

/-- The 53 leading bits of a positive number, as `frexp` and `ldexp` extract them. -/
theorem frexp_digits {d : Finite} (h : 0 < d.value) :
    ∃ n : ℕ, 2 ^ 52 ≤ n ∧ n < 2 ^ 53 ∧ (d.frexp.1.ldexp 53).truncate = n ∧
      d.value = n * 2 ^ (d.frexp.2 - 53) := by
  have hpos := mantissa_pos h
  obtain ⟨m, hm⟩ := Int.eq_ofNat_of_zero_le hpos.le
  have hbound := d.bound
  rw [hm, Int.natAbs_natCast] at hbound
  have hm0 : 0 < m := by omega
  have hsize : m.size ≤ 53 := Nat.size_le.mpr hbound
  have hsize0 : 0 < m.size := Nat.size_pos.mpr hm0
  have hlow : 2 ^ (m.size - 1) ≤ m := Nat.lt_size.mp (by omega)
  have hhigh : m < 2 ^ m.size := Nat.lt_size_self m
  refine ⟨m * 2 ^ (53 - m.size), ?_, ?_, ?_, ?_⟩
  · calc 2 ^ 52 = 2 ^ (m.size - 1) * 2 ^ (53 - m.size) := by
          rw [← Nat.pow_add]; congr 1; omega
      _ ≤ m * 2 ^ (53 - m.size) := Nat.mul_le_mul_right _ hlow
  · calc m * 2 ^ (53 - m.size) < 2 ^ m.size * 2 ^ (53 - m.size) :=
          Nat.mul_lt_mul_of_pos_right hhigh (by positivity)
      _ = 2 ^ 53 := by rw [← Nat.pow_add]; congr 1; omega
  · have hexp : 0 ≤ -(m.size : ℤ) + 53 := by omega
    have hnat : (-(m.size : ℤ) + 53).toNat = 53 - m.size := by omega
    have hne : (m : ℤ) ≠ 0 := by omega
    simp only [frexp, hm, hne, if_false, Int.natAbs_natCast, ldexp, truncate, hexp, if_true, hnat]
    push_cast
    rfl
  · have hne : (m : ℤ) ≠ 0 := by omega
    have hsplit : d.exponent + (m.size : ℤ) - 53 = d.exponent - ((53 - m.size : ℕ) : ℤ) := by omega
    simp only [frexp, value, hm, hne, if_false, Int.natAbs_natCast]
    rw [hsplit, zpow_sub₀ (by norm_num : (2 : ℚ) ≠ 0), zpow_natCast]
    push_cast
    rw [mul_assoc, mul_div_cancel₀ _ (by positivity)]

end Finite

end Binary64
