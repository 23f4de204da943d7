import Mathlib.Data.Nat.Cast.Field
import Mathlib.Data.Nat.Prime.Basic
import SoapySidekiq.Foundations.Binary64
import SoapySidekiq.Time.TimestampExact

/-! # Actual rates

`TimestampRate::fromActualRate`: the SDK's rate, a double, as a reduced fraction. The conversion
through such a rate is then exact like that of an integer clock. -/
set_option autoImplicit false

namespace SoapySidekiq

open Binary64

theorem shiftRight_one (v : UInt64) : (v >>> 1).toNat = v.toNat / 2 := by
  rw [UInt64.toNat_shiftRight]
  exact Nat.shiftRight_eq_div_pow _ 1

/-- The rate at half the numerator and half the denominator. -/
def TimestampRate.halved (r : TimestampRate) (h : 1 < r.denominator) : TimestampRate where
  numerator := r.numerator >>> 1
  denominator := r.denominator >>> 1
  denominator_pos := by
    have hlt : 1 < r.denominator.toNat := UInt64.lt_iff_toNat_lt.mp h
    rw [UInt64.lt_iff_toNat_lt, shiftRight_one]
    exact Nat.div_pos hlt (by decide)

/-- The loop that reduces the fraction: every pass halves the denominator, which stops at 1. -/
def TimestampRate.reduce (r : TimestampRate) : TimestampRate :=
  if h : 1 < r.denominator ∧ r.numerator &&& 1 = 0 then (r.halved h.1).reduce else r
termination_by r.denominator.toNat
decreasing_by
  have hlt : 1 < r.denominator.toNat := UInt64.lt_iff_toNat_lt.mp h.1
  change (r.denominator >>> 1).toNat < r.denominator.toNat
  rw [shiftRight_one]
  exact Nat.div_lt_self (by omega) (by decide)

/-- `std::numeric_limits<double>::digits`. -/
def digits : ℤ := 53

theorem one_shiftLeft (n : UInt64) : ((1 : UInt64) <<< n).toNat = 2 ^ (n.toNat % 64) := by
  rw [UInt64.toNat_shiftLeft, Nat.shiftLeft_eq]
  change 1 * 2 ^ (n.toNat % 64) % 2 ^ 64 = _
  rw [Nat.one_mul]
  exact Nat.mod_eq_of_lt (Nat.pow_lt_pow_right (by decide) (Nat.mod_lt _ (by decide)))

/-- The fraction before its reduction. -/
def TimestampRate.ofDigits (numerator : UInt64) (exponent : ℤ) : TimestampRate :=
  if digits ≤ exponent then ⟨numerator <<< UInt64.ofInt (exponent - digits), 1, UInt64.zero_lt_one⟩
  else ⟨numerator, 1 <<< UInt64.ofInt (digits - exponent), by
    rw [UInt64.lt_iff_toNat_lt, one_shiftLeft]
    exact Nat.two_pow_pos _⟩

/-- `TimestampRate::fromActualRate`. -/
def TimestampRate.fromActualRate (frequency : Binary64.Value) : Except Exception TimestampRate :=
  match frequency with
  | .finite f =>
    if f.value < 1 ∨ 2 ^ 32 ≤ f.value then
      .error (.invalidArgument "Actual RF rate must be finite and in [1, 2^32)") else
    let (mantissa, exponent) := f.frexp
    .ok (TimestampRate.ofDigits (UInt64.ofInt (mantissa.ldexp digits).truncate) exponent).reduce
  | _ => .error (.invalidArgument "Actual RF rate must be finite and in [1, 2^32)")

namespace TimestampRate

/-! ## Reduction -/

theorem halved_rate {r : TimestampRate} (h : 1 < r.denominator) (hn : r.numerator.toNat % 2 = 0)
    (hd : r.denominator.toNat % 2 = 0) : (r.halved h).rate = r.rate := by
  have hnumerator : (r.halved h).numerator.toNat = r.numerator.toNat / 2 := shiftRight_one _
  have hdenominator : (r.halved h).denominator.toNat = r.denominator.toNat / 2 := shiftRight_one _
  unfold rate
  rw [hnumerator, hdenominator, Nat.cast_div (Nat.dvd_of_mod_eq_zero hn) (by norm_num),
    Nat.cast_div (Nat.dvd_of_mod_eq_zero hd) (by norm_num)]
  exact div_div_div_cancel_right₀ (by norm_num) _ _

/-- A positive rate in lowest terms, whose denominator is a power of two up to `2 ^ j`. -/
structure Reduced (r : TimestampRate) (j : ℕ) : Prop where
  positive : 0 < r.numerator.toNat
  lowest : r.numerator.toNat.Coprime r.denominator.toNat
  power : ∃ k ≤ j, r.denominator.toNat = 2 ^ k

theorem reduce_spec (j : ℕ) (r : TimestampRate) (hd : r.denominator.toNat = 2 ^ j)
    (hn : 0 < r.numerator.toNat) : r.reduce.Reduced j ∧ r.reduce.rate = r.rate := by
  have heven : r.numerator &&& 1 = 0 ↔ r.numerator.toNat % 2 = 0 := by
    rw [← UInt64.toNat_inj, UInt64.toNat_and]
    exact Eq.congr_left (Nat.and_one_is_mod _)
  have hone : 1 < r.denominator ↔ 1 < r.denominator.toNat := UInt64.lt_iff_toNat_lt
  induction j generalizing r with
  | zero =>
    have hstop : ¬(1 < r.denominator ∧ r.numerator &&& 1 = 0) := by
      rw [hone, hd]
      simp
    rw [reduce, dif_neg hstop]
    exact ⟨⟨hn, by rw [hd]; exact Nat.coprime_one_right _, 0, le_rfl, hd⟩, rfl⟩
  | succ j ih =>
    rw [reduce]
    split
    · rename_i h
      have hzero := heven.mp h.2
      have hnumerator : (r.halved h.1).numerator.toNat = r.numerator.toNat / 2 := shiftRight_one _
      have hdenominator : (r.halved h.1).denominator.toNat = 2 ^ j := by
        rw [show (r.halved h.1).denominator.toNat = r.denominator.toNat / 2 from shiftRight_one _,
          hd, Nat.pow_succ, Nat.mul_div_cancel _ (by decide)]
      obtain ⟨hreduced, hrate⟩ := ih (r.halved h.1) hdenominator (by rw [hnumerator]; omega)
        (by
          rw [← UInt64.toNat_inj, UInt64.toNat_and]
          exact Eq.congr_left (Nat.and_one_is_mod _))
        UInt64.lt_iff_toNat_lt
      obtain ⟨hpositive, hlowest, k, hk, hpower⟩ := hreduced
      refine ⟨⟨hpositive, hlowest, k, by omega, hpower⟩, hrate.trans (halved_rate h.1 hzero ?_)⟩
      rw [hd, Nat.pow_succ]
      exact Nat.mul_mod_left _ _
    · rename_i h
      have hodd : r.numerator.toNat % 2 ≠ 0 := by
        intro hzero
        refine h ⟨hone.mpr ?_, heven.mpr hzero⟩
        rw [hd]
        exact Nat.one_lt_two_pow (by omega)
      refine ⟨⟨hn, ?_, j + 1, le_rfl, hd⟩, rfl⟩
      rw [hd]
      apply Nat.Coprime.pow_right
      rw [Nat.coprime_two_right, Nat.odd_iff]
      omega

/-! ## The whole conversion -/

/-- A rate in `[1, 2^32)` has its binary point inside the 53 digits. -/
theorem exponent_range {n : ℕ} {exponent : ℤ} {value : ℚ} (hlow : 2 ^ 52 ≤ n) (hhigh : n < 2 ^ 53)
    (hvalue : value = n * 2 ^ (exponent - 53)) (h1 : 1 ≤ value) (h2 : value < 2 ^ 32) :
    1 ≤ exponent ∧ exponent ≤ 32 := by
  have htwo : (1 : ℚ) < 2 := by norm_num
  have hpow : (0 : ℚ) < 2 ^ (exponent - 53) := zpow_pos (by norm_num) _
  have hshift : ∀ k : ℕ, (2 : ℚ) ^ k * 2 ^ (exponent - 53) = 2 ^ (exponent - 53 + k) := by
    intro k
    rw [zpow_add₀ (by norm_num), zpow_natCast, mul_comm]
  constructor
  · have hlt : (1 : ℚ) < 2 ^ (exponent - 53 + (53 : ℕ)) := by
      rw [← hshift]
      calc (1 : ℚ) ≤ n * 2 ^ (exponent - 53) := hvalue ▸ h1
        _ < 2 ^ 53 * 2 ^ (exponent - 53) := by
          apply mul_lt_mul_of_pos_right _ hpow
          exact_mod_cast hhigh
    have := (one_lt_zpow_iff_right₀ htwo).mp hlt
    omega
  · have hlt : (2 : ℚ) ^ (exponent - 53 + (52 : ℕ)) < 2 ^ (32 : ℤ) := by
      rw [← hshift]
      calc (2 : ℚ) ^ 52 * 2 ^ (exponent - 53) ≤ n * 2 ^ (exponent - 53) := by
            apply mul_le_mul_of_nonneg_right _ hpow.le
            exact_mod_cast hlow
        _ < 2 ^ (32 : ℤ) := by rw [← hvalue]; exact_mod_cast h2
    have := (zpow_lt_zpow_iff_right₀ htwo).mp hlt
    omega

theorem toNat_ofInt {m : ℕ} (h : m < 2 ^ 64) : (UInt64.ofInt (m : ℤ)).toNat = m := by
  have hmod : ((m : ℤ) % 2 ^ 64).toNat = m := by omega
  rw [UInt64.ofInt, hmod, Word64.toNat_ofNat h]

theorem ofDigits_fraction {n k : ℕ} {exponent : ℤ} (hn : n < 2 ^ 64) (hk : 53 - exponent = k)
    (hpos : 0 < k) (hlt : k < 64) :
    (ofDigits (UInt64.ofInt n) exponent).numerator.toNat = n ∧
      (ofDigits (UInt64.ofInt n) exponent).denominator.toNat = 2 ^ k := by
  have hbelow : ¬digits ≤ exponent := by unfold digits; omega
  rw [ofDigits, if_neg hbelow]
  refine ⟨toNat_ofInt hn, ?_⟩
  change ((1 : UInt64) <<< UInt64.ofInt (53 - exponent)).toNat = 2 ^ k
  rw [hk, one_shiftLeft, toNat_ofInt (by omega), Nat.mod_eq_of_lt hlt]

theorem fromActualRate_exact {f : Finite} (h1 : 1 ≤ f.value) (h2 : f.value < 2 ^ 32) :
    ∃ r, fromActualRate (.finite f) = .ok r ∧ r.Reduced 52 ∧ r.rate = f.value := by
  obtain ⟨n, hlow, hhigh, htruncate, hvalue⟩ := Finite.frexp_digits (zero_lt_one.trans_le h1)
  obtain ⟨he1, he2⟩ := exponent_range hlow hhigh hvalue h1 h2
  have hrange : ¬(f.value < 1 ∨ 2 ^ 32 ≤ f.value) := by
    rintro (h | h)
    · exact absurd h1 (not_le.mpr h)
    · exact absurd h2 (not_lt.mpr h)
  simp only [fromActualRate, if_neg hrange, show (digits : ℤ) = 53 from rfl, htruncate]
  generalize f.frexp.2 = exponent at *
  obtain ⟨k, hk⟩ := Int.eq_ofNat_of_zero_le (show 0 ≤ 53 - exponent by omega)
  obtain ⟨hnumerator, hdenominator⟩ := ofDigits_fraction (n := n) (by omega) hk (by omega) (by omega)
  obtain ⟨⟨hpositive, hlowest, j, hj, hpower⟩, hrate⟩ :=
    reduce_spec k (ofDigits (UInt64.ofInt n) exponent) hdenominator (by rw [hnumerator]; omega)
  refine ⟨_, rfl, ⟨hpositive, hlowest, j, by omega, hpower⟩, hrate.trans ?_⟩
  have hneg : exponent - 53 = -(k : ℤ) := by omega
  rw [rate, hnumerator, hdenominator, hvalue, hneg, zpow_neg, zpow_natCast, div_eq_mul_inv]
  push_cast
  rfl

theorem fromActualRate_invalid {frequency : Binary64.Value}
    (h : ¬∃ f, frequency = .finite f ∧ 1 ≤ f.value ∧ f.value < 2 ^ 32) :
    fromActualRate frequency =
      .error (.invalidArgument "Actual RF rate must be finite and in [1, 2^32)") := by
  cases frequency with
  | finite f =>
    have hrange : f.value < 1 ∨ 2 ^ 32 ≤ f.value := by
      by_contra hc
      rw [not_or, not_lt, not_le] at hc
      exact h ⟨f, rfl, hc⟩
    simp only [fromActualRate, if_pos hrange]
  | nan => rfl
  | infinite => rfl

/-- A conversion by an exact rate: the floor with its fraction, or an overflow. -/
theorem convert_rate (arith : Arithmetic) {r : TimestampRate} (hr : 0 < r.numerator.toNat)
    (ticks : UInt64) :
    (∀ phase, r.convert arith ticks = .ok phase ↔
        ⌊(ticks.toNat : ℚ) * 10 ^ 9 / r.rate⌋ ≤ int64Max ∧
          phase.nanoseconds = ⌊(ticks.toNat : ℚ) * 10 ^ 9 / r.rate⌋ ∧
          phase.remainder < phase.denominator ∧ phase.denominator = r.numerator ∧
          (phase.remainder.toNat : ℚ) / phase.denominator.toNat =
            Int.fract ((ticks.toNat : ℚ) * 10 ^ 9 / r.rate)) ∧
      ((∃ what, r.convert arith ticks = .error (.overflowError what)) ↔
        (int64Max : ℤ) < ⌊(ticks.toNat : ℚ) * 10 ^ 9 / r.rate⌋) ∧
      Trapping.convert arith r ticks = some (r.convert arith ticks) := by
  have hvalid : r.valid = true := by
    simp only [valid, bne_iff_ne]
    exact fun h => by simp [h] at hr
  obtain ⟨htrap, hconvert⟩ := convert_exact arith r hvalid ticks
  have hfloor : ⌊(ticks.toNat : ℚ) * 10 ^ 9 / r.rate⌋ = (r.floorNs ticks.toNat : ℤ) := by
    rw [exactNs_eq, Rat.floor_natCast_div_natCast]
    rfl
  have hmod : r.scaledTicks ticks.toNat % r.numerator.toNat < r.numerator.toNat := Nat.mod_lt _ hr
  have hword := Word64.toNat_ofNat (hmod.trans r.numerator.toNat_lt)
  have hfract : Int.fract ((ticks.toNat : ℚ) * 10 ^ 9 / r.rate) =
      ((r.scaledTicks ticks.toNat % r.numerator.toNat : ℕ) : ℚ) / (r.numerator.toNat : ℚ) := by
    rw [exactNs_eq, Int.fract_div_natCast_eq_div_natCast_mod]
  rw [hfloor, hfract]
  refine ⟨fun phase => ?_, ?_, htrap⟩ <;> rw [hconvert] <;>
    by_cases hle : r.floorNs ticks.toNat ≤ int64Max
  · rw [if_pos hle, Except.ok.injEq]
    constructor
    · rintro rfl
      refine ⟨by exact_mod_cast hle, rfl, ?_, rfl, by rw [hword]⟩
      rw [UInt64.lt_iff_toNat_lt, hword]
      exact hmod
    · rintro ⟨-, hns, -, hden, hrem⟩
      have hne : (r.numerator.toNat : ℚ) ≠ 0 := by exact_mod_cast hr.ne'
      rw [hden] at hrem
      have hremainder : phase.remainder.toNat = r.scaledTicks ticks.toNat % r.numerator.toNat := by
        exact_mod_cast (div_left_inj' hne).mp hrem
      obtain ⟨ns, rem, den⟩ := phase
      simp only at hns hden hremainder
      rw [hns, hden, ← hremainder, UInt64.ofNat_toNat]
  · rw [if_neg hle]
    simp [hle]
  · rw [if_pos hle]
    simp [hle]
  · rw [if_neg hle]
    simp [Nat.lt_of_not_le hle]

/-- Every rate that the SDK can report keeps its exact value through the whole conversion. -/
theorem actual_rate_exact (frequency : Binary64.Value) :
    ((∃ what, fromActualRate frequency = .error (.invalidArgument what)) ↔
        ¬∃ f, frequency = .finite f ∧ 1 ≤ f.value ∧ f.value < 2 ^ 32) ∧
      ∀ f, frequency = .finite f → 1 ≤ f.value → f.value < 2 ^ 32 →
        ∃ r, fromActualRate frequency = .ok r ∧ 0 < r.numerator ∧ 0 < r.denominator ∧
          r.numerator.toNat.Coprime r.denominator.toNat ∧
          (∃ k ≤ 52, r.denominator.toNat = 2 ^ k) ∧ r.rate = f.value ∧
          ∀ (arith : Arithmetic) (ticks : UInt64),
            (∀ phase, r.convert arith ticks = .ok phase ↔
              ⌊(ticks.toNat : ℚ) * 10 ^ 9 / f.value⌋ ≤ int64Max ∧
                phase.nanoseconds = ⌊(ticks.toNat : ℚ) * 10 ^ 9 / f.value⌋ ∧
                phase.remainder < phase.denominator ∧ phase.denominator = r.numerator ∧
                (phase.remainder.toNat : ℚ) / phase.denominator.toNat =
                  Int.fract ((ticks.toNat : ℚ) * 10 ^ 9 / f.value)) ∧
            ((∃ what, r.convert arith ticks = .error (.overflowError what)) ↔
              (int64Max : ℤ) < ⌊(ticks.toNat : ℚ) * 10 ^ 9 / f.value⌋) ∧
            Trapping.convert arith r ticks = some (r.convert arith ticks) := by
  refine ⟨⟨?_, fun h => ⟨_, fromActualRate_invalid h⟩⟩, ?_⟩
  · rintro ⟨what, herror⟩ ⟨f, rfl, h1, h2⟩
    obtain ⟨r, hr, -⟩ := fromActualRate_exact h1 h2
    rw [hr] at herror
    cases herror
  · rintro f rfl h1 h2
    obtain ⟨r, hr, ⟨hpositive, hlowest, hpower⟩, hrate⟩ := fromActualRate_exact h1 h2
    refine ⟨r, hr, UInt64.lt_iff_toNat_lt.mpr hpositive, r.denominator_pos, hlowest, hpower, hrate,
      fun arith ticks => ?_⟩
    rw [← hrate]
    exact convert_rate arith hpositive ticks

end TimestampRate

end SoapySidekiq
