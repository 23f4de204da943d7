import SoapySidekiq.Time.Trapping

/-! # Exactness of the tick conversion

`multiplyDivide` is the truncated quotient and the remainder of the full product in both builds,
and `convert` returns the floor of `ticks * 10^9 / rate` with its exact fractional phase, or throws
`overflow_error` exactly when that floor does not fit in `int64_t`. -/
set_option autoImplicit false

namespace SoapySidekiq

/-! ## Product division -/

/-- `r` is the truncated quotient and the remainder of `n` by `d`. -/
def Divides (d : UInt64) (n : ℕ) (r : ProductDivision) : Prop :=
  r.quotient.toNat = n / d.toNat ∧ r.remainder.toNat = n % d.toNat

theorem Divides.split {d : UInt64} {n : ℕ} {r : ProductDivision} (h : Divides d n r) :
    d.toNat * r.quotient.toNat + r.remainder.toNat = n := by
  rw [h.1, h.2]
  exact Nat.div_add_mod n d.toNat

theorem Divides.of_split {d : UInt64} {n : ℕ} {r : ProductDivision}
    (h : d.toNat * r.quotient.toNat + r.remainder.toNat = n) (hr : r.remainder.toNat < d.toNat) :
    Divides d n r := by
  have hd : 0 < d.toNat := by omega
  constructor
  · rw [← h, Nat.mul_add_div hd, Nat.div_eq_of_lt hr, Nat.add_zero]
  · rw [← h, Nat.mul_add_mod, Nat.mod_eq_of_lt hr]

theorem wideMultiplyDivide_divides (value multiplier divisor : UInt64)
    (hv : value.toNat < divisor.toNat) :
    Divides divisor (value.toNat * multiplier.toNat)
      (wideMultiplyDivide value multiplier divisor) := by
  have hq := Word64.fraction_le value.toNat multiplier.toNat divisor.toNat hv.le
  have hm := multiplier.toNat_lt
  have hr : value.toNat * multiplier.toNat % divisor.toNat < divisor.toNat :=
    Nat.mod_lt _ (by omega)
  have hd := divisor.toNat_lt
  exact ⟨Word64.toNat_ofNat (by omega), Word64.toNat_ofNat (by omega)⟩

/-- Doubling in place of `2 * n`: neither half wraps while the quotient still fits. -/
theorem doublePhase_exact {d : UInt64} {n : ℕ} {r : ProductDivision} (hd : 0 < d.toNat)
    (h : Divides d n r) (hq : 2 * n / d.toNat < 2 ^ 64) :
    Trapping.doublePhase d r = some (doublePhase d r) ∧ Divides d (2 * n) (doublePhase d r) := by
  have hsplit := h.split
  have hr : r.remainder.toNat < d.toNat := by rw [h.2]; exact Nat.mod_lt n hd
  have hlt := d.toNat_lt
  have hq2 : 2 * r.quotient.toNat ≤ 2 * n / d.toNat := by
    rw [h.1]
    exact Nat.mul_div_le_mul_div_assoc 2 n d.toNat
  have htwo : r.quotient.toNat * (2 : UInt64).toNat < 2 ^ 64 := by
    change r.quotient.toNat * 2 < 2 ^ 64
    omega
  have hdbl : (r.quotient * 2).toNat = r.quotient.toNat * 2 := Word64.toNat_mul htwo
  have hroom : (d - r.remainder).toNat = d.toNat - r.remainder.toNat := Word64.toNat_sub hr.le
  have hcase : 2 * n = d.toNat * (2 * r.quotient.toNat) + 2 * r.remainder.toNat := by
    rw [← hsplit]; ring
  simp only [Trapping.doublePhase, doublePhase, Word64.trapMul_eq htwo,
    Word64.trapSub_eq hr.le, Option.bind_eq_bind, Option.bind_some]
  by_cases hge : r.remainder ≥ d - r.remainder
  · have hge' := (Word64.ge_sub_iff hr.le).mp hge
    have hone : 2 * r.quotient.toNat + 1 ≤ 2 * n / d.toNat := by
      rw [Nat.le_div_iff_mul_le hd, hcase, Nat.add_mul, Nat.one_mul, Nat.mul_comm d.toNat]
      omega
    have hfit : (r.quotient * 2).toNat + (1 : UInt64).toNat < 2 ^ 64 := by
      rw [hdbl]; change r.quotient.toNat * 2 + 1 < 2 ^ 64; omega
    have hinc : (r.quotient * 2 + 1).toNat = r.quotient.toNat * 2 + 1 := by
      rw [Word64.toNat_add hfit, hdbl]; rfl
    have hle : (d - r.remainder).toNat ≤ r.remainder.toNat := by omega
    have hsub := Word64.toNat_sub hle
    simp only [if_pos hge, Word64.trapAdd_eq hfit, Word64.trapSub_eq hle, Option.bind_some]
    refine ⟨rfl, Divides.of_split ?_ ?_⟩
    · simp only [hinc, hsub, hroom, hcase, Nat.mul_add, Nat.mul_one]
      rw [Nat.mul_comm r.quotient.toNat 2]
      omega
    · simp only [hsub, hroom]; omega
  · have hlt' : 2 * r.remainder.toNat < d.toNat := by
      have := mt (Word64.ge_sub_iff hr.le).mpr hge
      omega
    have hfit : r.remainder.toNat * (2 : UInt64).toNat < 2 ^ 64 := by
      change r.remainder.toNat * 2 < 2 ^ 64; omega
    have hrem : (r.remainder * 2).toNat = r.remainder.toNat * 2 := Word64.toNat_mul hfit
    simp only [if_neg hge, Word64.trapMul_eq hfit, Option.bind_some]
    refine ⟨rfl, Divides.of_split ?_ ?_⟩
    · simp only [hdbl, hrem, hcase]
      ring
    · simp only [hrem]; omega

theorem addPhase_exact {v d : UInt64} {n : ℕ} {r : ProductDivision} (hv : v.toNat < d.toNat)
    (h : Divides d n r) (hq : (n + v.toNat) / d.toNat < 2 ^ 64) :
    Trapping.addPhase v d r = some (addPhase v d r) ∧
      Divides d (n + v.toNat) (addPhase v d r) := by
  have hd : 0 < d.toNat := by omega
  have hsplit := h.split
  have hr : r.remainder.toNat < d.toNat := by rw [h.2]; exact Nat.mod_lt n hd
  have hlt := d.toNat_lt
  have hroom : (d - v).toNat = d.toNat - v.toNat := Word64.toNat_sub hv.le
  simp only [Trapping.addPhase, addPhase, Word64.trapSub_eq hv.le, Option.bind_eq_bind,
    Option.bind_some]
  by_cases hge : r.remainder ≥ d - v
  · have hge' := (Word64.ge_sub_iff hv.le).mp hge
    have hone : r.quotient.toNat + 1 ≤ (n + v.toNat) / d.toNat := by
      rw [Nat.le_div_iff_mul_le hd, Nat.add_mul, Nat.one_mul, Nat.mul_comm]
      omega
    have hfit : r.quotient.toNat + (1 : UInt64).toNat < 2 ^ 64 := by
      change r.quotient.toNat + 1 < 2 ^ 64; omega
    have hinc : (r.quotient + 1).toNat = r.quotient.toNat + 1 := Word64.toNat_add hfit
    have hle : (d - v).toNat ≤ r.remainder.toNat := by omega
    have hsub := Word64.toNat_sub hle
    simp only [if_pos hge, Word64.trapAdd_eq hfit, Word64.trapSub_eq hle, Option.bind_some]
    refine ⟨rfl, Divides.of_split ?_ ?_⟩
    · simp only [hinc, hsub, hroom, Nat.mul_add, Nat.mul_one]
      omega
    · simp only [hsub, hroom]; omega
  · have hlt' : v.toNat + r.remainder.toNat < d.toNat := by
      have := mt (Word64.ge_sub_iff hv.le).mpr hge
      omega
    have hfit : r.remainder.toNat + v.toNat < 2 ^ 64 := by omega
    have hrem := Word64.toNat_add hfit
    simp only [if_neg hge, Word64.trapAdd_eq hfit, Option.bind_some]
    refine ⟨rfl, Divides.of_split ?_ ?_⟩
    · simp only [hrem]; omega
    · simp only [hrem]; omega

/-- The multiplier bits above `n` determine the pair, so each pass extends the prefix by one. -/
theorem portablePass_exact {value multiplier divisor : UInt64} (hv : value.toNat < divisor.toNat)
    {n : ℕ} {r : ProductDivision}
    (h : Divides divisor (value.toNat * (multiplier.toNat >>> (n + 1))) r) :
    Divides divisor (2 * (value.toNat * (multiplier.toNat >>> (n + 1)))) (doublePhase divisor r) ∧
      Trapping.portablePass value multiplier divisor n r =
        some (portablePass value multiplier divisor n r) ∧
      Divides divisor (value.toNat * (multiplier.toNat >>> n))
        (portablePass value multiplier divisor n r) := by
  have hm := multiplier.toNat_lt
  have hshift : multiplier.toNat >>> n =
      2 * (multiplier.toNat >>> (n + 1)) + (multiplier.toNat.testBit n).toNat := by
    rw [Nat.shiftRight_succ, Nat.testBit_eq_decide_div_mod_eq, ← Nat.shiftRight_eq_div_pow]
    have := Nat.div_add_mod (multiplier.toNat >>> n) 2
    rcases Nat.mod_two_eq_zero_or_one (multiplier.toNat >>> n) with hz | hz <;>
      simp [hz] <;> omega
  have hle : multiplier.toNat >>> n ≤ multiplier.toNat := Nat.shiftRight_le _ _
  obtain ⟨htrap, hdouble⟩ : _ ∧
      Divides divisor (2 * (value.toNat * (multiplier.toNat >>> (n + 1)))) (doublePhase divisor r) := by
    apply doublePhase_exact (by omega) h
    have hq := Word64.fraction_le value.toNat (2 * (multiplier.toNat >>> (n + 1))) divisor.toNat hv.le
    rw [← Nat.mul_assoc, Nat.mul_comm 2, Nat.mul_assoc]
    omega
  refine ⟨hdouble, ?_⟩
  simp only [Trapping.portablePass, portablePass, htrap, Option.bind_eq_bind, Option.bind_some]
  cases hbit : multiplier.toNat.testBit n with
  | false =>
    simp only [Bool.false_eq_true, if_false]
    rw [hshift, hbit]
    refine ⟨rfl, ?_⟩
    convert hdouble using 1
    simp only [Bool.toNat_false]
    ring
  | true =>
    simp only [if_true]
    have hsum : value.toNat * (multiplier.toNat >>> n) =
        2 * (value.toNat * (multiplier.toNat >>> (n + 1))) + value.toNat := by
      rw [hshift, hbit]
      simp only [Bool.toNat_true]
      ring
    rw [hsum]
    apply addPhase_exact hv hdouble
    have hq := Word64.fraction_le value.toNat (multiplier.toNat >>> n) divisor.toNat hv.le
    rw [← hsum]
    omega

theorem portableLoop_exact (value multiplier divisor : UInt64)
    (hv : value.toNat < divisor.toNat) (n : ℕ) (r : ProductDivision)
    (h : Divides divisor (value.toNat * (multiplier.toNat >>> n)) r) :
    Trapping.portableLoop value multiplier divisor n r =
        some (portableLoop value multiplier divisor n r) ∧
      Divides divisor (value.toNat * multiplier.toNat)
        (portableLoop value multiplier divisor n r) := by
  induction n generalizing r with
  | zero => exact ⟨rfl, h⟩
  | succ n ih =>
    obtain ⟨-, htrap, hpass⟩ := portablePass_exact hv h
    simp only [Trapping.portableLoop, htrap, Option.bind_eq_bind, Option.bind_some]
    exact ih _ hpass

/-- The loop over all bits of the multiplier that can be set. -/
theorem portableLoop_all (value multiplier divisor : UInt64) (hv : value.toNat < divisor.toNat)
    (n : ℕ) (hn : multiplier.toNat < 2 ^ n) :
    Trapping.portableLoop value multiplier divisor n ⟨0, 0⟩ =
        some (portableLoop value multiplier divisor n ⟨0, 0⟩) ∧
      Divides divisor (value.toNat * multiplier.toNat)
        (portableLoop value multiplier divisor n ⟨0, 0⟩) := by
  apply portableLoop_exact value multiplier divisor hv
  have hzero : multiplier.toNat >>> n = 0 := by
    rw [Nat.shiftRight_eq_div_pow]
    exact Nat.div_eq_of_lt hn
  rw [hzero, Nat.mul_zero]
  exact ⟨(Nat.zero_div _).symm, (Nat.zero_mod _).symm⟩

/-- Both bodies of `multiplyDivide` are exact when `value` is below `divisor`. -/
theorem multiplyDivide_exact (arith : Arithmetic) (value multiplier divisor : UInt64)
    (hv : value.toNat < divisor.toNat) :
    Trapping.multiplyDivide arith value multiplier divisor =
        some (multiplyDivide arith value multiplier divisor) ∧
      Divides divisor (value.toNat * multiplier.toNat)
        (multiplyDivide arith value multiplier divisor) := by
  cases arith with
  | int128 =>
    have hq := Word64.fraction_le value.toNat multiplier.toNat divisor.toNat hv.le
    exact ⟨if_pos (hq.trans_lt multiplier.toNat_lt),
      wideMultiplyDivide_divides value multiplier divisor hv⟩
  | portable => exact portableLoop_all value multiplier divisor hv 64 multiplier.toNat_lt

theorem multiplyDivide_divides (arith : Arithmetic) (value multiplier divisor : UInt64)
    (hv : value.toNat < divisor.toNat) :
    Divides divisor (value.toNat * multiplier.toNat)
      (multiplyDivide arith value multiplier divisor) :=
  (multiplyDivide_exact arith value multiplier divisor hv).2

/-! ## Whole seconds and the rest, in nanoseconds -/

theorem seconds_limit : ((9223372036854775807 : UInt64) / 1000000000).toNat = 9223372036 := by decide

theorem trapMul_billion {seconds : UInt64} (h : seconds.toNat ≤ 9223372036) :
    Word64.trapMul seconds 1000000000 = some (seconds * 1000000000) ∧
      (seconds * 1000000000).toNat = seconds.toNat * 1000000000 := by
  have hfit : seconds.toNat * (1000000000 : UInt64).toNat < 2 ^ 64 := by
    change seconds.toNat * 1000000000 < 2 ^ 64
    omega
  exact ⟨Word64.trapMul_eq hfit, Word64.toNat_mul hfit⟩

theorem nanosecond_guard (whole quotient : UInt64) (h : whole.toNat ≤ int64Max) :
    Word64.trapSub 9223372036854775807 whole = some (9223372036854775807 - whole) ∧
      (quotient > 9223372036854775807 - whole ↔ int64Max < whole.toNat + quotient.toNat) :=
  ⟨Word64.trapSub_eq h, Word64.gt_sub_iff h⟩

theorem nanosecond_sum {whole quotient : UInt64} (h : whole.toNat + quotient.toNat ≤ int64Max) :
    Word64.trapAdd whole quotient = some (whole + quotient) ∧
      castInt64 (whole + quotient) = ((whole.toNat + quotient.toNat : ℕ) : ℤ) := by
  have hfit : whole.toNat + quotient.toNat < 2 ^ 64 := by unfold int64Max at h; omega
  have hsum := Word64.toNat_add hfit
  refine ⟨Word64.trapAdd_eq hfit, ?_⟩
  rw [castInt64_of_le (by rw [hsum]; exact h), hsum]

/-! ## Conversion -/

namespace TimestampRate

/-- `ticks * 10^9` over the numerator, in units of `10^-9 / rate` seconds. -/
def scaledTicks (r : TimestampRate) (ticks : ℕ) : ℕ := ticks * r.denominator.toNat * 1000000000

/-- The floor of the exact time of `ticks`, in nanoseconds. -/
def floorNs (r : TimestampRate) (ticks : ℕ) : ℕ := r.scaledTicks ticks / r.numerator.toNat

theorem numerator_pos {r : TimestampRate} (hv : r.valid = true) : 0 < r.numerator.toNat := by
  have hne : r.numerator ≠ 0 := by simpa [valid] using hv
  rcases Nat.eq_zero_or_pos r.numerator.toNat with h | h
  · exact absurd (UInt64.toNat_inj.mp h) hne
  · exact h

theorem denominator_toNat_pos (r : TimestampRate) : 0 < r.denominator.toNat :=
  Word64.toNat_pos r.denominator_pos

/-- Whole seconds and the fraction of a second, from the truncated division of the ticks. -/
theorem floorNs_split (r : TimestampRate) (hv : r.valid = true) (ticks : ℕ) :
    r.floorNs ticks =
      (ticks / r.numerator.toNat * r.denominator.toNat +
        ticks % r.numerator.toNat * r.denominator.toNat / r.numerator.toNat) * 1000000000 +
      ticks % r.numerator.toNat * r.denominator.toNat % r.numerator.toNat * 1000000000 /
        r.numerator.toNat := by
  have hn := numerator_pos hv
  unfold floorNs scaledTicks
  rw [Word64.mul_div_split _ _ _ hn, Word64.mul_div_split ticks _ _ hn, Word64.mul_mod_split ticks]

/-- The conversion never wraps, and its three guards together are the bound on the floor. -/
theorem convert_exact (arith : Arithmetic) (r : TimestampRate) (hv : r.valid = true)
    (ticks : UInt64) :
    Trapping.convert arith r ticks = some (r.convert arith ticks) ∧
      r.convert arith ticks =
        if r.floorNs ticks.toNat ≤ int64Max then
          .ok ⟨r.floorNs ticks.toNat,
            UInt64.ofNat (r.scaledTicks ticks.toNat % r.numerator.toNat), r.numerator⟩
        else .error (.overflowError "Timestamp does not fit in nanoseconds") := by
  have hn := numerator_pos hv
  have hd := denominator_toNat_pos r
  have hn64 := r.numerator.toNat_lt
  have hmod : (ticks % r.numerator).toNat = ticks.toNat % r.numerator.toNat := UInt64.toNat_mod _ _
  have hdiv : (ticks / r.numerator).toNat = ticks.toNat / r.numerator.toNat := UInt64.toNat_div _ _
  have hsplit := floorNs_split r hv ticks.toNat
  obtain ⟨hfrtrap, hfr⟩ := multiplyDivide_exact arith (ticks % r.numerator) r.denominator r.numerator
    (by rw [hmod]; exact Nat.mod_lt _ hn)
  rw [hmod] at hfr
  have hfrlt : (multiplyDivide arith (ticks % r.numerator) r.denominator r.numerator).remainder.toNat
      < r.numerator.toNat := by rw [hfr.2]; exact Nat.mod_lt _ hn
  obtain ⟨hphtrap, hph⟩ := multiplyDivide_exact arith
    (multiplyDivide arith (ticks % r.numerator) r.denominator r.numerator).remainder
    1000000000 r.numerator hfrlt
  simp only [convert, Trapping.convert, hv, Bool.not_true, Bool.false_eq_true, if_false, hfrtrap,
    Option.bind_eq_bind, Option.bind_some]
  generalize multiplyDivide arith (ticks % r.numerator) r.denominator r.numerator = fraction at *
  generalize multiplyDivide arith fraction.remainder 1000000000 r.numerator = phase at *
  have hphq : fraction.remainder.toNat * 1000000000 / r.numerator.toNat = phase.quotient.toNat :=
    hph.1.symm
  rw [← hfr.1, ← hfr.2, hphq] at hsplit
  have hbig : phase.quotient.toNat ≤ 1000000000 := by
    rw [← hphq]; exact Word64.fraction_le _ _ _ hfrlt.le
  -- The three guards are the bounds `seconds ≤ limit`, before and after the fraction, and the last.
  by_cases h1 : ticks / r.numerator > 9223372036854775807 / 1000000000 / r.denominator
  · have h1' := (Word64.gt_div_iff hd).mp h1
    rw [seconds_limit, hdiv] at h1'
    rw [if_pos h1, if_pos h1, if_neg (by unfold int64Max; omega)]
    exact ⟨rfl, rfl⟩
  have h1' : (ticks / r.numerator).toNat * r.denominator.toNat ≤ 9223372036 := by
    rw [← seconds_limit]
    exact Nat.le_of_not_lt (mt (Word64.gt_div_iff hd).mpr h1)
  have hfit1 : (ticks / r.numerator).toNat * r.denominator.toNat < 2 ^ 64 := by omega
  have hsec := Word64.toNat_mul hfit1
  rw [if_neg h1, if_neg h1, Word64.trapMul_eq hfit1, Option.bind_some]
  rw [← hsec] at h1'
  rw [← hdiv, ← hsec] at hsplit
  generalize ticks / r.numerator * r.denominator = seconds at *
  have hroom : seconds.toNat ≤ ((9223372036854775807 : UInt64) / 1000000000).toNat := by
    rw [seconds_limit]; exact h1'
  rw [Word64.trapSub_eq hroom, Option.bind_some]
  by_cases h2 : fraction.quotient > 9223372036854775807 / 1000000000 - seconds
  · have h2' := (Word64.gt_sub_iff hroom).mp h2
    rw [seconds_limit] at h2'
    rw [if_pos h2, if_pos h2, if_neg (by unfold int64Max; omega)]
    exact ⟨rfl, rfl⟩
  have h2' : seconds.toNat + fraction.quotient.toNat ≤ 9223372036 := by
    rw [← seconds_limit]
    exact Nat.le_of_not_lt (mt (Word64.gt_sub_iff hroom).mpr h2)
  have hfit2 : seconds.toNat + fraction.quotient.toNat < 2 ^ 64 := by omega
  have hadd := Word64.toNat_add hfit2
  rw [if_neg h2, if_neg h2, Word64.trapAdd_eq hfit2, Option.bind_some, hphtrap, Option.bind_some]
  rw [← hadd] at h2' hsplit
  generalize seconds + fraction.quotient = seconds at *
  obtain ⟨hmul, hns⟩ := trapMul_billion h2'
  rw [hmul, Option.bind_some]
  rw [← hns] at hsplit
  obtain ⟨hsub, hguard⟩ := nanosecond_guard (seconds * 1000000000) phase.quotient
    (by rw [hns]; unfold int64Max; omega)
  rw [hsub, Option.bind_some]
  rw [← hsplit] at hguard
  by_cases h3 : phase.quotient > 9223372036854775807 - seconds * 1000000000
  · rw [if_pos h3, if_pos h3, if_neg (Nat.not_le.mpr (hguard.mp h3))]
    exact ⟨rfl, rfl⟩
  have hfit : r.floorNs ticks.toNat ≤ int64Max := Nat.le_of_not_lt (mt hguard.mpr h3)
  obtain ⟨hsum, hcast⟩ := nanosecond_sum (hsplit ▸ hfit)
  have hrem : phase.remainder =
      UInt64.ofNat (r.scaledTicks ticks.toNat % r.numerator.toNat) := by
    apply UInt64.toNat_inj.mp
    rw [Word64.toNat_ofNat ((Nat.mod_lt _ hn).trans hn64), hph.2, hfr.2]
    unfold scaledTicks
    rw [Word64.mul_mod_split (ticks.toNat * r.denominator.toNat),
      Word64.mul_mod_split ticks.toNat]
    rfl
  rw [if_neg h3, if_neg h3, if_pos hfit, hsum, Option.bind_some, hcast, ← hsplit, hrem]
  exact ⟨rfl, rfl⟩

theorem convert_eq (arith : Arithmetic) (r : TimestampRate) (hv : r.valid = true)
    (ticks : UInt64) :
    r.convert arith ticks =
      if r.floorNs ticks.toNat ≤ int64Max then
        .ok ⟨r.floorNs ticks.toNat,
          UInt64.ofNat (r.scaledTicks ticks.toNat % r.numerator.toNat), r.numerator⟩
      else .error (.overflowError "Timestamp does not fit in nanoseconds") :=
  (convert_exact arith r hv ticks).2

/-- The exact time of `ticks` in nanoseconds, as one fraction. -/
theorem exactNs_eq (r : TimestampRate) (ticks : ℕ) :
    (ticks : ℚ) * 10 ^ 9 / r.rate =
      ((r.scaledTicks ticks : ℕ) : ℚ) / ((r.numerator.toNat : ℕ) : ℚ) := by
  unfold rate scaledTicks
  push_cast
  rw [div_div_eq_mul_div]
  ring

theorem floorNs_eq_floor (r : TimestampRate) (ticks : ℕ) :
    r.floorNs ticks = ⌊(ticks : ℚ) * 10 ^ 9 / r.rate⌋₊ := by
  rw [exactNs_eq, Nat.floor_div_eq_div]
  rfl

end TimestampRate

end SoapySidekiq
