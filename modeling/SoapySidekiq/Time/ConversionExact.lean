import SoapySidekiq.Time.TimestampExact

/-! # Exactness of the integer clock conversions

Both directions are the truncated quotient of the exact product, or an overflow exactly when it
does not fit; the four ways from ticks to nanoseconds are one function; and a time written to the
counter and read back loses less than one tick and one nanosecond. -/
set_option autoImplicit false

namespace SoapySidekiq

/-- `std::numeric_limits<std::uint64_t>::max()`. -/
def uint64Max : ℕ := 18446744073709551615

/-! ## Nanoseconds to ticks -/

/-- The seconds and the sub-second part, the latter with the frequency split at one Gigahertz. -/
theorem ticks_split (t f : ℕ) :
    t * f / 1000000000 = t / 1000000000 * f +
      (f / 1000000000 * (t % 1000000000) + f % 1000000000 * (t % 1000000000) / 1000000000) := by
  rw [Word64.mul_div_split t _ f (by decide), Nat.mul_comm (t % 1000000000) f,
    Word64.mul_div_split f _ _ (by decide)]

theorem nanosecondsToTicks_exact {n : Int64} {f : UInt64} (hn : 0 ≤ n.toInt) (hf : 0 < f.toNat) :
    Trapping.nanosecondsToTicks n f = some (nanosecondsToTicks n f) ∧
      nanosecondsToTicks n f =
        if n.toInt.toNat * f.toNat / 1000000000 ≤ uint64Max then
          .ok (UInt64.ofNat (n.toInt.toNat * f.toNat / 1000000000))
        else .error (.overflowError "timestamp does not fit in device ticks") := by
  have hguard : (decide (n < 0) || decide (f = 0)) = false := by
    have hneg : ¬n < 0 := by
      rw [Int64.lt_iff_toInt_lt]
      exact Int.not_lt.mpr hn
    have hzero : f ≠ 0 := fun h => by simp [h] at hf
    simp [hneg, hzero]
  have htime : n.toUInt64.toNat = n.toInt.toNat :=
    Int64.toNat_toUInt64_of_le (Int64.le_iff_toInt_le.mpr hn)
  have hsplit := ticks_split n.toUInt64.toNat f.toNat
  have hf64 := f.toNat_lt
  have hr : (n.toUInt64 % 1000000000).toNat = n.toUInt64.toNat % 1000000000 := UInt64.toNat_mod _ _
  have hs : (n.toUInt64 / 1000000000).toNat = n.toUInt64.toNat / 1000000000 := UInt64.toNat_div _ _
  have hg : (f / 1000000000).toNat = f.toNat / 1000000000 := UInt64.toNat_div _ _
  have hm : (f % 1000000000).toNat = f.toNat % 1000000000 := UInt64.toNat_mod _ _
  have hrlt : (n.toUInt64 % 1000000000).toNat < 1000000000 := by
    rw [hr]; exact Nat.mod_lt _ (by decide)
  have hmlt : (f % 1000000000).toNat < 1000000000 := by rw [hm]; exact Nat.mod_lt _ (by decide)
  rw [← htime]
  rw [← hr, ← hs, ← hg, ← hm] at hsplit
  simp only [Trapping.nanosecondsToTicks, nanosecondsToTicks, hguard, Bool.false_eq_true, if_false]
  generalize n.toUInt64.toNat * f.toNat / 1000000000 = ticks at *
  generalize n.toUInt64 % 1000000000 = remainder at *
  generalize n.toUInt64 / 1000000000 = seconds at *
  by_cases h1 : seconds > 18446744073709551615 / f
  · have h1' : uint64Max < seconds.toNat * f.toNat := (Word64.gt_div_iff hf).mp h1
    rw [if_pos h1, if_pos h1, if_neg (by omega)]
    exact ⟨rfl, rfl⟩
  have h1' : seconds.toNat * f.toNat ≤ uint64Max :=
    Nat.le_of_not_lt fun h => h1 ((Word64.gt_div_iff hf).mpr h)
  have hfit1 : seconds.toNat * f.toNat < 2 ^ 64 := by unfold uint64Max at h1'; omega
  have hwhole := Word64.toNat_mul hfit1
  -- The GHz part is at most the frequency, the rest below `10^18`.
  have hghz : (f / 1000000000).toNat * remainder.toNat ≤ f.toNat := by
    calc (f / 1000000000).toNat * remainder.toNat
        ≤ f.toNat / 1000000000 * 1000000000 := by
          rw [hg]
          exact Nat.mul_le_mul_left _ hrlt.le
      _ ≤ f.toNat := Nat.div_mul_le_self _ _
  have hrest : (f % 1000000000).toNat * remainder.toNat ≤ 1000000000 * 1000000000 :=
    Nat.mul_le_mul hmlt.le hrlt.le
  have hfit2 : (f / 1000000000).toNat * remainder.toNat < 2 ^ 64 := by omega
  have hfit3 : (f % 1000000000).toNat * remainder.toNat < 2 ^ 64 := by omega
  have hquotient : (f % 1000000000 * remainder / 1000000000).toNat =
      (f % 1000000000).toNat * remainder.toNat / 1000000000 := by
    rw [UInt64.toNat_div, Word64.toNat_mul hfit3]
    rfl
  have hsub : (f / 1000000000).toNat * remainder.toNat +
      (f % 1000000000).toNat * remainder.toNat / 1000000000 ≤ f.toNat := by
    have hmerge := Word64.mul_div_split f.toNat 1000000000 remainder.toNat (by decide)
    rw [← hg, ← hm] at hmerge
    rw [← hmerge, Nat.mul_comm]
    have := Word64.fraction_le remainder.toNat f.toNat 1000000000 hrlt.le
    exact this
  have hfit4 : (f / 1000000000 * remainder).toNat +
      (f % 1000000000 * remainder / 1000000000).toNat < 2 ^ 64 := by
    rw [Word64.toNat_mul hfit2, hquotient]
    omega
  have hfraction := Word64.toNat_add hfit4
  rw [Word64.toNat_mul hfit2, hquotient] at hfraction
  rw [if_neg h1, if_neg h1]
  simp only [Word64.trapMul_eq hfit1, Word64.trapMul_eq hfit2, Word64.trapMul_eq hfit3,
    Word64.trapAdd_eq hfit4, Option.bind_eq_bind, Option.bind_some]
  rw [← hfraction, ← hwhole] at hsplit
  rw [← hwhole] at h1'
  generalize f / 1000000000 * remainder + f % 1000000000 * remainder / 1000000000 = fraction at *
  generalize seconds * f = whole at *
  rw [Word64.trapSub_eq (a := 18446744073709551615) h1', Option.bind_some]
  have hguard : fraction > 18446744073709551615 - whole ↔ uint64Max < ticks := by
    rw [hsplit]
    exact Word64.gt_sub_iff (a := 18446744073709551615) h1'
  by_cases h2 : fraction > 18446744073709551615 - whole
  · rw [if_pos h2, if_pos h2, if_neg (Nat.not_le.mpr (hguard.mp h2))]
    exact ⟨rfl, rfl⟩
  have hle : ticks ≤ uint64Max := Nat.le_of_not_lt (mt hguard.mpr h2)
  have hfit5 : whole.toNat + fraction.toNat < 2 ^ 64 := by unfold uint64Max at hle; omega
  have hsum : whole + fraction = UInt64.ofNat ticks := by
    rw [hsplit, ← Word64.toNat_add hfit5, UInt64.ofNat_toNat]
  rw [if_neg h2, if_neg h2, if_pos hle, Word64.trapAdd_eq hfit5, Option.bind_some, hsum]
  exact ⟨rfl, rfl⟩

/-- The exact tick count of `n` nanoseconds, rounded down. -/
theorem floor_ticks {n : Int64} (hn : 0 ≤ n.toInt) (f : UInt64) :
    ⌊(n.toInt : ℚ) * f.toNat / 10 ^ 9⌋ = ((n.toInt.toNat * f.toNat / 1000000000 : ℕ) : ℤ) := by
  have hcast : (n.toInt : ℚ) * f.toNat / 10 ^ 9 =
      ((n.toInt.toNat * f.toNat : ℕ) : ℚ) / ((1000000000 : ℕ) : ℚ) := by
    have hnat : (n.toInt : ℚ) = ((n.toInt.toNat : ℕ) : ℚ) := by
      exact_mod_cast congrArg (Int.cast (R := ℚ)) (Int.toNat_of_nonneg hn).symm
    rw [hnat]
    push_cast
    norm_num
  rw [hcast, Rat.floor_natCast_div_natCast]
  rfl

theorem nanosecondsToTicks_invalid {n : Int64} {f : UInt64} (h : n.toInt < 0 ∨ f = 0) :
    Trapping.nanosecondsToTicks n f = some (nanosecondsToTicks n f) ∧
      nanosecondsToTicks n f = .error
        (.invalidArgument "timestamp requires nonnegative time and nonzero frequency") := by
  have hguard : (decide (n < 0) || decide (f = 0)) = true := by
    rcases h with h | h
    · simp [Int64.lt_iff_toInt_lt, h]
    · simp [h]
  simp only [Trapping.nanosecondsToTicks, nanosecondsToTicks, hguard, if_true]
  exact ⟨rfl, trivial⟩

theorem toNat_pos_of_ne {f : UInt64} (h : f ≠ 0) : 0 < f.toNat :=
  Word64.toNat_pos (UInt64.pos_iff_ne_zero.mpr h)

theorem nanoseconds_to_ticks_exact (n : Int64) (f : UInt64) :
    ((∃ what, nanosecondsToTicks n f = .error (.invalidArgument what)) ↔ n.toInt < 0 ∨ f = 0) ∧
      ((∃ what, nanosecondsToTicks n f = .error (.overflowError what)) ↔
        ¬(n.toInt < 0 ∨ f = 0) ∧ (uint64Max : ℤ) < ⌊(n.toInt : ℚ) * f.toNat / 10 ^ 9⌋) ∧
      (∀ k, nanosecondsToTicks n f = .ok k ↔
        ¬(n.toInt < 0 ∨ f = 0) ∧ ⌊(n.toInt : ℚ) * f.toNat / 10 ^ 9⌋ ≤ uint64Max ∧
          (k.toNat : ℤ) = ⌊(n.toInt : ℚ) * f.toNat / 10 ^ 9⌋) ∧
      Trapping.nanosecondsToTicks n f = some (nanosecondsToTicks n f) := by
  by_cases hinvalid : n.toInt < 0 ∨ f = 0
  · obtain ⟨htrap, h⟩ := nanosecondsToTicks_invalid hinvalid
    refine ⟨?_, ?_, ?_, htrap⟩ <;> simp [h, hinvalid]
  have hn : 0 ≤ n.toInt := Int.not_lt.mp fun h => hinvalid (.inl h)
  have hf : 0 < f.toNat := toNat_pos_of_ne fun h => hinvalid (.inr h)
  obtain ⟨htrap, h⟩ := nanosecondsToTicks_exact hn hf
  have hfloor := floor_ticks hn f
  rw [hfloor]
  generalize n.toInt.toNat * f.toNat / 1000000000 = ticks at *
  by_cases hle : ticks ≤ uint64Max
  · rw [if_pos hle] at h
    have hvalue : (UInt64.ofNat ticks).toNat = ticks :=
      Word64.toNat_ofNat (by unfold uint64Max at hle; omega)
    refine ⟨by simp [h, hinvalid], by simp [h, hle], fun k => ?_, htrap⟩
    rw [h, Except.ok.injEq]
    refine ⟨fun hk => ⟨hinvalid, by exact_mod_cast hle, by rw [← hk, hvalue]⟩, fun ⟨_, _, hk⟩ => ?_⟩
    rw [← Int.ofNat_inj.mp hk, UInt64.ofNat_toNat]
  · rw [if_neg hle] at h
    have hlt : (uint64Max : ℤ) < ticks := by exact_mod_cast Nat.lt_of_not_le hle
    refine ⟨by simp [h, hinvalid], by simp [h, hinvalid, hlt], fun k => ?_, htrap⟩
    simp [h, hle]

/-! ## Ticks to nanoseconds -/

theorem secondFraction_exact {ticks f : UInt64} (h : ticks.toNat < f.toNat) :
    Trapping.secondFraction ticks f = some (secondFraction ticks f) ∧
      (secondFraction ticks f).quotient.toNat = ticks.toNat * 1000000000 / f.toNat := by
  obtain ⟨htrap, hloop⟩ := portableLoop_all ticks 1000000000 f h 30 (by decide)
  exact ⟨htrap, hloop.1⟩

theorem portableNanoseconds_exact (ticks : UInt64) {f : UInt64} (hf : 0 < f.toNat) :
    Trapping.portableNanoseconds ticks f = some (portableNanoseconds ticks f) ∧
      portableNanoseconds ticks f =
        if ticks.toNat * 1000000000 / f.toNat ≤ int64Max then
          .ok ((ticks.toNat * 1000000000 / f.toNat : ℕ) : ℤ)
        else .error (.overflowError "timestamp does not fit in nanoseconds") := by
  have hsplit := Word64.mul_div_split ticks.toNat f.toNat 1000000000 hf
  have hdiv : (ticks / f).toNat = ticks.toNat / f.toNat := UInt64.toNat_div _ _
  have hmod : (ticks % f).toNat = ticks.toNat % f.toNat := UInt64.toNat_mod _ _
  have hlt : (ticks % f).toNat < f.toNat := by rw [hmod]; exact Nat.mod_lt _ hf
  obtain ⟨hlooptrap, hloop⟩ := secondFraction_exact hlt
  rw [← hmod, ← hdiv, ← hloop] at hsplit
  clear hloop
  unfold Trapping.portableNanoseconds portableNanoseconds
  dsimp only
  rw [hlooptrap]
  generalize secondFraction (ticks % f) f = division at *
  generalize ticks.toNat * 1000000000 / f.toNat = nanoseconds at *
  generalize ticks / f = seconds at *
  by_cases h1 : seconds > 9223372036854775807 / 1000000000
  · have h1' := UInt64.lt_iff_toNat_lt.mp h1
    rw [seconds_limit] at h1'
    rw [if_pos h1, if_pos h1, if_neg (by unfold int64Max; omega)]
    exact ⟨rfl, rfl⟩
  have h1' : seconds.toNat ≤ 9223372036 := by
    rw [← seconds_limit]
    exact Nat.le_of_not_lt fun h => h1 (UInt64.lt_iff_toNat_lt.mpr h)
  obtain ⟨hmul, hns⟩ := trapMul_billion h1'
  rw [← hns] at hsplit
  obtain ⟨hsub, hguard⟩ := nanosecond_guard (seconds * 1000000000) division.quotient
    (by rw [hns]; unfold int64Max; omega)
  rw [← hsplit] at hguard
  rw [if_neg h1, if_neg h1, hmul, Option.bind_eq_bind, Option.bind_some, Option.bind_eq_bind,
    Option.bind_some, hsub, Option.bind_some]
  by_cases h2 : division.quotient > 9223372036854775807 - seconds * 1000000000
  · rw [if_pos h2, if_pos h2, if_neg (Nat.not_le.mpr (hguard.mp h2))]
    exact ⟨rfl, rfl⟩
  have hfit : nanoseconds ≤ int64Max := Nat.le_of_not_lt (mt hguard.mpr h2)
  obtain ⟨hsum, hcast⟩ := nanosecond_sum (hsplit ▸ hfit)
  rw [if_neg h2, if_neg h2, if_pos hfit, hsum, Option.bind_some, hcast, ← hsplit]
  exact ⟨rfl, rfl⟩

theorem wideNanoseconds_eq (ticks f : UInt64) :
    wideNanoseconds ticks f =
      if ticks.toNat * 1000000000 / f.toNat ≤ int64Max then
        .ok ((ticks.toNat * 1000000000 / f.toNat : ℕ) : ℤ)
      else .error (.overflowError "timestamp does not fit in nanoseconds") := by
  simp only [wideNanoseconds, gt_iff_lt]
  by_cases h : ticks.toNat * 1000000000 / f.toNat ≤ int64Max
  · rw [if_neg (Nat.not_lt.mpr h), if_pos h]
  · rw [if_pos (Nat.lt_of_not_le h), if_neg h]

theorem ticksToNanoseconds_exact (arith : Arithmetic) (ticks : UInt64) {f : UInt64}
    (hf : 0 < f.toNat) :
    Trapping.ticksToNanoseconds arith ticks f = some (ticksToNanoseconds arith ticks f) ∧
      ticksToNanoseconds arith ticks f =
        if ticks.toNat * 1000000000 / f.toNat ≤ int64Max then
          .ok ((ticks.toNat * 1000000000 / f.toNat : ℕ) : ℤ)
        else .error (.overflowError "timestamp does not fit in nanoseconds") := by
  have hne : f ≠ 0 := fun h => by simp [h] at hf
  simp only [Trapping.ticksToNanoseconds, ticksToNanoseconds, if_neg hne]
  cases arith with
  | int128 => exact ⟨rfl, wideNanoseconds_eq ticks f⟩
  | portable => exact portableNanoseconds_exact ticks hf

/-- The four computations of the time of a counter value. -/
inductive TickForm where
  | conversion (arith : Arithmetic)
  | rate (arith : Arithmetic)

def TickForm.nanoseconds (ticks f : UInt64) : TickForm → Except Exception ℤ
  | .conversion arith => ticksToNanoseconds arith ticks f
  | .rate arith => (TimestampRate.ofFrequency f).convert arith ticks |>.map (·.nanoseconds)

def TickForm.trapping (ticks f : UInt64) : TickForm → Option (Except Exception ℤ)
  | .conversion arith => Trapping.ticksToNanoseconds arith ticks f
  | .rate arith =>
    (Trapping.convert arith (TimestampRate.ofFrequency f) ticks).map (·.map (·.nanoseconds))

/-- The text that a form gives to its `overflow_error`. -/
def TickForm.overflow : TickForm → String
  | .conversion _ => "timestamp does not fit in nanoseconds"
  | .rate _ => "Timestamp does not fit in nanoseconds"

theorem TickForm.exact (form : TickForm) (ticks : UInt64) {f : UInt64} (hf : 0 < f.toNat) :
    form.trapping ticks f = some (form.nanoseconds ticks f) ∧
      form.nanoseconds ticks f =
        if ticks.toNat * 1000000000 / f.toNat ≤ int64Max then
          .ok ((ticks.toNat * 1000000000 / f.toNat : ℕ) : ℤ)
        else .error (.overflowError form.overflow) := by
  cases form with
  | conversion arith => exact ticksToNanoseconds_exact arith ticks hf
  | rate arith =>
    have hvalid : (TimestampRate.ofFrequency f).valid = true := by
      simp only [TimestampRate.valid, TimestampRate.ofFrequency, bne_iff_ne]
      exact fun h => by simp [h] at hf
    have hfloor : (TimestampRate.ofFrequency f).floorNs ticks.toNat =
        ticks.toNat * 1000000000 / f.toNat := by
      simp [TimestampRate.floorNs, TimestampRate.scaledTicks, TimestampRate.ofFrequency]
    obtain ⟨htrap, hconvert⟩ := TimestampRate.convert_exact arith _ hvalid ticks
    rw [hfloor] at hconvert
    simp only [TickForm.trapping, TickForm.nanoseconds, TickForm.overflow, htrap, hconvert]
    refine ⟨rfl, ?_⟩
    split <;> rfl

/-- The exact time of `ticks`, rounded down. -/
theorem floor_nanoseconds (ticks f : UInt64) :
    ⌊(ticks.toNat : ℚ) * 10 ^ 9 / f.toNat⌋ = ((ticks.toNat * 1000000000 / f.toNat : ℕ) : ℤ) := by
  have hcast : (ticks.toNat : ℚ) * 10 ^ 9 = ((ticks.toNat * 1000000000 : ℕ) : ℚ) := by
    push_cast
    norm_num
  rw [hcast, Rat.floor_natCast_div_natCast]
  rfl

theorem tick_times_agree (ticks f : UInt64) (hf : 1 ≤ f) :
    (∀ (form : TickForm) (value : ℤ), form.nanoseconds ticks f = .ok value ↔
        ⌊(ticks.toNat : ℚ) * 10 ^ 9 / f.toNat⌋ ≤ int64Max ∧
          value = ⌊(ticks.toNat : ℚ) * 10 ^ 9 / f.toNat⌋) ∧
      (∀ form : TickForm, (∃ what, form.nanoseconds ticks f = .error (.overflowError what)) ↔
        (int64Max : ℤ) < ⌊(ticks.toNat : ℚ) * 10 ^ 9 / f.toNat⌋) ∧
      ∀ form : TickForm, form.trapping ticks f = some (form.nanoseconds ticks f) := by
  have hpos : 0 < f.toNat := UInt64.le_iff_toNat_le.mp hf
  have hfloor := floor_nanoseconds ticks f
  rw [hfloor]
  refine ⟨fun form value => ?_, fun form => ?_, fun form => (form.exact ticks hpos).1⟩ <;>
    rw [(form.exact ticks hpos).2] <;>
    generalize ticks.toNat * 1000000000 / f.toNat = nanoseconds
  · by_cases hle : nanoseconds ≤ int64Max
    · simp [hle, eq_comm]
    · simp [hle]
  · by_cases hle : nanoseconds ≤ int64Max
    · simp [hle]
    · simp [hle, Nat.lt_of_not_le hle]

/-- The last representable time of a 3 Hz clock, and the first that is not. -/
theorem tick_times_agree_boundary :
    (∀ (form : TickForm) (value : ℤ), form.nanoseconds 27670116110 3 = .ok value ↔
        value = 9223372036666666666) ∧
      ∀ form : TickForm, ∃ what, form.nanoseconds 27670116111 3 = .error (.overflowError what) := by
  refine ⟨fun form value => ?_, fun form => ?_⟩
  · rw [(tick_times_agree 27670116110 3 (by decide)).1, floor_nanoseconds]
    exact ⟨fun h => h.2, fun h => ⟨by decide, h⟩⟩
  · rw [(tick_times_agree 27670116111 3 (by decide)).2.1, floor_nanoseconds]
    decide

end SoapySidekiq
