import Mathlib.Data.Int.ConditionallyCompleteOrder
import Mathlib.Algebra.Order.Floor.Ring
import Mathlib.Algebra.Order.Field.Power
import Mathlib.Data.Int.Log
import Mathlib.Data.Rat.Floor
import Mathlib.Tactic.FieldSimp
import Mathlib.Tactic.Linarith
import Mathlib.Tactic.Positivity

/-! # Rounding to a binary floating format

Round to nearest, ties to even, in a format of a given precision with gradual underflow. The exponents
are not bounded above, so a result stands for a finite number only below the format's maximum. Rounding
is monotone and odd, fixes the numbers of the format, and errs by half a unit in the last place. -/
set_option autoImplicit false

/-! ## Rounding half to even -/

namespace Rounding

/-- The nearest integer; a tie goes to the even one. -/
def roundHalfEven (x : ℚ) : ℤ :=
  if x - ⌊x⌋ < 1 / 2 ∨ (x - ⌊x⌋ = 1 / 2 ∧ ⌊x⌋ % 2 = 0) then ⌊x⌋ else ⌊x⌋ + 1

@[simp] theorem roundHalfEven_intCast (n : ℤ) : roundHalfEven n = n := by
  simp [roundHalfEven]

theorem abs_roundHalfEven_sub_le (x : ℚ) : |(roundHalfEven x : ℚ) - x| ≤ 1 / 2 := by
  have hle := Int.floor_le x
  have hlt := Int.lt_floor_add_one x
  unfold roundHalfEven
  rw [abs_le]
  split
  · next h => rcases h with h | ⟨h, -⟩ <;> constructor <;> linarith
  · next h =>
    rw [not_or, not_lt] at h
    push_cast
    constructor <;> linarith [h.1]

theorem roundHalfEven_mono : Monotone roundHalfEven := by
  intro x y hxy
  have hfloor := Int.floor_le_floor hxy
  rcases hfloor.lt_or_eq with hlt | heq
  · have hx : roundHalfEven x ≤ ⌊x⌋ + 1 := by unfold roundHalfEven; split <;> omega
    have hy : ⌊y⌋ ≤ roundHalfEven y := by unfold roundHalfEven; split <;> omega
    omega
  · have hfract : x - ⌊x⌋ ≤ y - ⌊x⌋ := by linarith
    unfold roundHalfEven
    rw [← heq]
    split
    · split <;> omega
    · next hx =>
      rw [if_neg]
      rw [not_or, not_and_or, not_lt] at hx ⊢
      refine ⟨hx.1.trans hfract, hx.2.imp_left fun hne heq' => hne ?_⟩
      linarith [hx.1]

theorem roundHalfEven_neg (x : ℚ) : roundHalfEven (-x) = -roundHalfEven x := by
  by_cases hint : x = ⌊x⌋
  · rw [hint, ← Int.cast_neg, roundHalfEven_intCast, roundHalfEven_intCast]
  · have hfloor : ⌊-x⌋ = -⌊x⌋ - 1 := by
      rw [Int.floor_eq_iff]
      have hle := Int.floor_le x
      have hne : (⌊x⌋ : ℚ) < x := lt_of_le_of_ne hle fun h => hint h.symm
      have hlt := Int.lt_floor_add_one x
      push_cast
      constructor <;> linarith
    unfold roundHalfEven
    rw [hfloor]
    push_cast
    rcases lt_trichotomy (x - ⌊x⌋) (1 / 2) with h | h | h
    · rw [if_neg, if_pos (.inl h)]
      · omega
      · rintro (h' | ⟨h', -⟩) <;> linarith
    · have htie : -x - (-(⌊x⌋ : ℚ) - 1) = 1 / 2 := by linarith
      simp only [htie, h, lt_irrefl, false_or, true_and]
      split <;> split <;> omega
    · rw [if_pos (.inl (by linarith)), if_neg]
      · omega
      · rintro (h' | ⟨h', -⟩) <;> linarith

end Rounding

open Rounding

/-! ## Formats -/

structure BinaryFormat where
  precision : ℕ
  /-- The exponent of the least positive number. -/
  exponentMin : ℤ
  precision_pos : 0 < precision

namespace BinaryFormat
variable {f : BinaryFormat}

/-- The exponent of the last place of a number. -/
def exponent (f : BinaryFormat) (x : ℚ) : ℤ :=
  max (Int.log 2 |x| + 1 - f.precision) f.exponentMin

def round (f : BinaryFormat) (x : ℚ) : ℚ :=
  roundHalfEven (x / 2 ^ f.exponent x) * 2 ^ f.exponent x

theorem two_zpow_pos (e : ℤ) : (0 : ℚ) < 2 ^ e := zpow_pos (by norm_num) e

theorem zpow_two_le {a b : ℤ} (h : a ≤ b) : (2 : ℚ) ^ a ≤ 2 ^ b := zpow_le_zpow_right₀ (by norm_num) h

@[simp] theorem exponent_neg (x : ℚ) : f.exponent (-x) = f.exponent x := by
  rw [exponent, exponent, abs_neg]

theorem round_neg (x : ℚ) : f.round (-x) = -f.round x := by
  rw [round, round, exponent_neg, neg_div, roundHalfEven_neg]
  push_cast
  ring

/-! ## Numbers of the format -/

@[simp] theorem round_zero : f.round 0 = 0 := by
  have hzero : roundHalfEven 0 = 0 := by simpa using roundHalfEven_intCast 0
  simp [round, hzero]

theorem round_of_multiple {x : ℚ} {n : ℤ} (h : x = n * 2 ^ f.exponent x) : f.round x = x := by
  have hdiv : x / 2 ^ f.exponent x = n := by
    rw [div_eq_iff (two_zpow_pos _).ne', ← h]
  rw [round, hdiv, roundHalfEven_intCast, ← h]

/-- An integer of at most as many bits as the precision. -/
theorem round_intCast {n : ℤ} (hn : |n| < 2 ^ f.precision) (hmin : f.exponentMin ≤ 0) :
    f.round n = n := by
  have hexp : f.exponent n ≤ 0 := by
    refine max_le ?_ hmin
    by_cases hzero : n = 0
    · have hpos := f.precision_pos
      simp only [hzero, Int.cast_zero, abs_zero, Int.log_zero_right]
      omega
    · have hcast : |(n : ℚ)| < 2 ^ f.precision := by exact_mod_cast hn
      have hlog : Int.log 2 |(n : ℚ)| < f.precision := by
        rw [← Int.lt_zpow_iff_log_lt (by norm_num) (abs_pos.mpr (by exact_mod_cast hzero))]
        exact_mod_cast hcast
      omega
  refine round_of_multiple (n := n * 2 ^ (-f.exponent n).toNat) ?_
  push_cast
  rw [mul_assoc, ← zpow_natCast, Int.toNat_of_nonneg (by omega), ← zpow_add₀ (by norm_num)]
  simp

/-! ## Order -/

theorem round_nonneg {x : ℚ} (h : 0 ≤ x) : 0 ≤ f.round x := by
  have hround : (0 : ℤ) ≤ roundHalfEven (x / 2 ^ f.exponent x) := by
    rw [← roundHalfEven_intCast 0]
    exact roundHalfEven_mono (by
      rw [Int.cast_zero]
      exact div_nonneg h (two_zpow_pos _).le)
  exact mul_nonneg (by exact_mod_cast hround) (two_zpow_pos _).le

/-- A power of two above the last place, in units of the last place. -/
theorem zpow_split {x : ℚ} {k : ℤ} (hk : f.exponent x ≤ k) :
    (2 : ℚ) ^ k = ((2 ^ (k - f.exponent x).toNat : ℤ) : ℚ) * 2 ^ f.exponent x := by
  push_cast
  rw [← zpow_natCast, Int.toNat_of_nonneg (by omega), ← zpow_add₀ (by norm_num), sub_add_cancel]

/-- Such a power of two bounds the rounded number if it bounds the number. -/
theorem round_le_zpow {x : ℚ} {k : ℤ} (hx : x ≤ 2 ^ k) (hk : f.exponent x ≤ k) :
    f.round x ≤ 2 ^ k := by
  rw [zpow_split hk] at hx ⊢
  have hround := roundHalfEven_mono ((div_le_iff₀ (two_zpow_pos _)).mpr hx)
  rw [roundHalfEven_intCast] at hround
  exact mul_le_mul_of_nonneg_right (by exact_mod_cast hround) (two_zpow_pos _).le

theorem zpow_le_round {x : ℚ} {k : ℤ} (hx : 2 ^ k ≤ x) (hk : f.exponent x ≤ k) :
    2 ^ k ≤ f.round x := by
  rw [zpow_split hk] at hx ⊢
  have hround := roundHalfEven_mono ((le_div_iff₀ (two_zpow_pos _)).mpr hx)
  rw [roundHalfEven_intCast] at hround
  exact mul_le_mul_of_nonneg_right (by exact_mod_cast hround) (two_zpow_pos _).le

theorem round_le_of_same {x y : ℚ} (hxy : x ≤ y) (hexp : f.exponent x = f.exponent y) :
    f.round x ≤ f.round y := by
  have hround := roundHalfEven_mono (div_le_div_of_nonneg_right hxy (two_zpow_pos (f.exponent x)).le)
  rw [round, round, ← hexp]
  exact mul_le_mul_of_nonneg_right (by exact_mod_cast hround) (two_zpow_pos _).le

theorem round_le_of_nonneg {x y : ℚ} (hx : 0 ≤ x) (hxy : x ≤ y) : f.round x ≤ f.round y := by
  rcases hx.lt_or_eq with hpos | rfl
  · have hypos := hpos.trans_le hxy
    have hlog : Int.log 2 x ≤ Int.log 2 y := Int.log_mono_right hpos hxy
    by_cases hexp : f.exponent x = f.exponent y
    · exact round_le_of_same hxy hexp
    · -- The binades differ, and the least number of the greater one lies between.
      simp only [exponent, abs_of_pos hpos, abs_of_pos hypos] at hexp
      have hpos' := f.precision_pos
      have hlt : Int.log 2 x + 1 ≤ Int.log 2 y := by omega
      have hx' : x ≤ 2 ^ Int.log 2 y :=
        (by exact_mod_cast (Int.lt_zpow_succ_log_self (b := 2) (by norm_num) x).le :
          x ≤ 2 ^ (Int.log 2 x + 1)).trans (zpow_two_le hlt)
      have hy' : (2 : ℚ) ^ Int.log 2 y ≤ y := by
        exact_mod_cast Int.zpow_log_le_self (b := 2) (by norm_num) hypos
      refine (round_le_zpow hx' ?_).trans (zpow_le_round hy' ?_)
      · rw [exponent, abs_of_pos hpos]
        omega
      · rw [exponent, abs_of_pos hypos]
        omega
  · rw [round_zero]
    exact round_nonneg hxy

theorem round_mono : Monotone f.round := by
  intro x y hxy
  rcases le_total 0 x with hx | hx
  · exact round_le_of_nonneg hx hxy
  · rcases le_total 0 y with hy | hy
    · have hneg := round_nonneg (f := f) (neg_nonneg.mpr hx)
      rw [round_neg] at hneg
      linarith [round_nonneg (f := f) hy]
    · have hneg := round_le_of_nonneg (f := f) (neg_nonneg.mpr hy) (neg_le_neg hxy)
      rw [round_neg, round_neg] at hneg
      linarith

/-! ## Error -/

/-- Half a unit in the last place. -/
theorem abs_round_sub_le_unit (x : ℚ) : |f.round x - x| ≤ 2 ^ f.exponent x / 2 := by
  have hsplit : f.round x - x =
      (roundHalfEven (x / 2 ^ f.exponent x) - x / 2 ^ f.exponent x) * 2 ^ f.exponent x := by
    rw [round, sub_mul, div_mul_cancel₀ _ (two_zpow_pos _).ne']
  rw [hsplit, abs_mul, abs_of_pos (two_zpow_pos _)]
  have herror := mul_le_mul_of_nonneg_right
    (abs_roundHalfEven_sub_le (x / 2 ^ f.exponent x)) (two_zpow_pos (f.exponent x)).le
  linarith

/-- The error relative to the number, or half the least positive number. -/
theorem abs_round_sub_le (x : ℚ) :
    |f.round x - x| ≤ |x| / 2 ^ f.precision + 2 ^ f.exponentMin / 2 := by
  have hleast := two_zpow_pos f.exponentMin
  rcases eq_or_ne x 0 with rfl | hne
  · simp only [round_zero, sub_self, abs_zero, zero_div, zero_add]
    linarith
  have hrelative : 0 ≤ |x| / 2 ^ f.precision := by positivity
  refine (abs_round_sub_le_unit x).trans ?_
  rcases le_total (Int.log 2 |x| + 1 - f.precision) f.exponentMin with hle | hle
  · rw [exponent, max_eq_right hle]
    linarith
  · have hlog : (2 : ℚ) ^ Int.log 2 |x| ≤ |x| := by
      exact_mod_cast Int.zpow_log_le_self (b := 2) (by norm_num) (abs_pos.mpr hne)
    have hscaled := div_le_div_of_nonneg_right hlog (by positivity : (0 : ℚ) ≤ 2 ^ f.precision)
    have hhalf : (2 : ℚ) ^ Int.log 2 |x| * 2 / 2 ^ f.precision / 2 =
        2 ^ Int.log 2 |x| / 2 ^ f.precision := by ring
    rw [exponent, max_eq_left hle, zpow_sub₀ (by norm_num), zpow_add₀ (by norm_num), zpow_one,
      zpow_natCast, hhalf]
    linarith

end BinaryFormat
