import SoapySidekiq.Rx.QueueRun

/-! # The portable product division

The loop of `multiplyDivide` pass by pass, and the precondition of `multiplyDivide` at each of its
calls: the callers once more, with a call that is `none` unless its value is below its divisor. -/
set_option autoImplicit false

namespace SoapySidekiq

/-! ## The loop -/

/-- The pair after the passes for the highest `k` bits of the multiplier. -/
def portablePrefix (value multiplier divisor : UInt64) : ℕ → ProductDivision
  | 0 => ⟨0, 0⟩
  | k + 1 => portablePass value multiplier divisor (63 - k) (portablePrefix value multiplier divisor k)

theorem portablePrefix_divides {value divisor : UInt64} (multiplier : UInt64)
    (hv : value.toNat < divisor.toNat) {k : ℕ} (hk : k ≤ 64) :
    Divides divisor (value.toNat * (multiplier.toNat >>> (64 - k)))
      (portablePrefix value multiplier divisor k) := by
  induction k with
  | zero =>
    have hzero : multiplier.toNat >>> 64 = 0 := by
      rw [Nat.shiftRight_eq_div_pow]
      exact Nat.div_eq_of_lt multiplier.toNat_lt
    rw [Nat.sub_zero, hzero, Nat.mul_zero]
    exact ⟨(Nat.zero_div _).symm, (Nat.zero_mod _).symm⟩
  | succ k ih =>
    have hstep : 64 - k = 63 - k + 1 := by omega
    have hbefore := ih (by omega)
    rw [hstep] at hbefore
    have hafter := (portablePass_exact hv hbefore).2.2
    rw [show 64 - (k + 1) = 63 - k by omega]
    exact hafter

/-- The loop goes through these pairs. -/
theorem portableLoop_resume (value multiplier divisor : UInt64) {k : ℕ} (hk : k ≤ 64) :
    portableLoop value multiplier divisor (64 - k) (portablePrefix value multiplier divisor k) =
      multiplyDivide .portable value multiplier divisor := by
  induction k with
  | zero => rfl
  | succ k ih =>
    rw [← ih (by omega), show 64 - k = 64 - (k + 1) + 1 by omega, portableLoop,
      show 64 - (k + 1) = 63 - k by omega]
    rfl

/-- Between passes, and between the two halves of a pass, the remainder is below the divisor. -/
theorem remainder_lt {value multiplier divisor : UInt64} (hv : value.toNat < divisor.toNat) {k : ℕ}
    (hk : k ≤ 64) :
    (portablePrefix value multiplier divisor k).remainder < divisor ∧
      (k < 64 → (doublePhase divisor (portablePrefix value multiplier divisor k)).remainder < divisor) := by
  have hd : 0 < divisor.toNat := by omega
  have hprefix := portablePrefix_divides multiplier hv hk
  refine ⟨?_, fun hlt => ?_⟩
  · rw [UInt64.lt_iff_toNat_lt, hprefix.2]
    exact Nat.mod_lt _ hd
  · rw [show 64 - k = 63 - k + 1 by omega] at hprefix
    rw [UInt64.lt_iff_toNat_lt, (portablePass_exact hv hprefix).1.2]
    exact Nat.mod_lt _ hd

theorem Divides.unique {d : UInt64} {n : ℕ} {r r' : ProductDivision} (h : Divides d n r)
    (h' : Divides d n r') : r = r' := by
  obtain ⟨q, m⟩ := r
  obtain ⟨q', m'⟩ := r'
  obtain rfl : q = q' := UInt64.toNat_inj.mp (h.1.trans h'.1.symm)
  obtain rfl : m = m' := UInt64.toNat_inj.mp (h.2.trans h'.2.symm)
  rfl

/-! ## The callers -/

namespace Guarded

def multiplyDivide (arith : Arithmetic) (value multiplier divisor : UInt64) :
    Option ProductDivision :=
  if value < divisor then some (SoapySidekiq.multiplyDivide arith value multiplier divisor) else none

def convert (arith : Arithmetic) (r : TimestampRate) (ticks : UInt64) :
    Option (Except Exception TimestampPhase) := do
  if !r.valid then return .error (.invalidArgument "Timestamp rate cannot be zero")
  let billion : UInt64 := 1000000000
  let maximum : UInt64 := 9223372036854775807
  let secondsLimit := maximum / billion
  let whole := ticks / r.numerator
  if whole > secondsLimit / r.denominator then
    return .error (.overflowError "Timestamp does not fit in nanoseconds")
  let seconds := whole * r.denominator
  let fraction ← multiplyDivide arith (ticks % r.numerator) r.denominator r.numerator
  if fraction.quotient > secondsLimit - seconds then
    return .error (.overflowError "Timestamp does not fit in nanoseconds")
  let seconds := seconds + fraction.quotient
  let phase ← multiplyDivide arith fraction.remainder billion r.numerator
  let nanoseconds := seconds * billion
  if phase.quotient > maximum - nanoseconds then
    return .error (.overflowError "Timestamp does not fit in nanoseconds")
  return .ok ⟨castInt64 (nanoseconds + phase.quotient), phase.remainder, r.numerator⟩

def blockTime {α : Type} (arith : Arithmetic) (block : Block α) : Option (Except Exception ℤ) := do
  match ← convert arith block.sampleRate (UInt64.ofNat block.offset) with
  | .error e => return .error e
  | .ok offsetPhase =>
    let offsetNs := offsetPhase.nanoseconds
    if offsetNs > 0 ∧ block.timeNs > int64Max - offsetNs then
      return .error (.overflowError "RX timestamp does not fit in nanoseconds")
    let timeNs := block.timeNs + offsetNs
    if block.timeRemainder ≠ 0 ∧ offsetPhase.remainder ≠ 0 then
      let threshold ← multiplyDivide arith (offsetPhase.denominator - offsetPhase.remainder)
        block.timeDenominator offsetPhase.denominator
      let minimumPhase := threshold.quotient + (if threshold.remainder ≠ 0 then 1 else 0)
      if block.timeRemainder ≥ minimumPhase then
        if timeNs = int64Max then
          return .error (.overflowError "RX timestamp does not fit in nanoseconds")
        return .ok (timeNs + 1)
      return .ok timeNs
    return .ok timeNs

theorem multiplyDivide_eq {value divisor : UInt64} (h : value < divisor) (arith : Arithmetic)
    (multiplier : UInt64) : multiplyDivide arith value multiplier divisor =
      some (SoapySidekiq.multiplyDivide arith value multiplier divisor) := if_pos h

/-- Both calls of a conversion meet the precondition. -/
theorem convert_eq (arith : Arithmetic) (r : TimestampRate) (ticks : UInt64) :
    convert arith r ticks = some (r.convert arith ticks) := by
  cases hv : r.valid with
  | false =>
    unfold convert TimestampRate.convert
    rw [hv]
    rfl
  | true =>
    have hn := TimestampRate.numerator_pos hv
    have hfirst : ticks % r.numerator < r.numerator := by
      rw [UInt64.lt_iff_toNat_lt, UInt64.toNat_mod]
      exact Nat.mod_lt _ hn
    have hfraction := multiplyDivide_divides arith (ticks % r.numerator) r.denominator r.numerator
      (UInt64.lt_iff_toNat_lt.mp hfirst)
    have hsecond : (SoapySidekiq.multiplyDivide arith (ticks % r.numerator) r.denominator
        r.numerator).remainder < r.numerator := by
      rw [UInt64.lt_iff_toNat_lt, hfraction.2]
      exact Nat.mod_lt _ hn
    have hcall := multiplyDivide_eq hfirst arith r.denominator
    have hcall' := multiplyDivide_eq hsecond arith 1000000000
    clear hfraction hsecond hfirst
    unfold convert TimestampRate.convert
    dsimp only
    rw [hv, Bool.not_true, if_neg Bool.false_ne_true, if_neg Bool.false_ne_true]
    by_cases h1 : ticks / r.numerator > 9223372036854775807 / 1000000000 / r.denominator
    · rw [if_pos h1, if_pos h1]
      rfl
    rw [if_neg h1, if_neg h1, hcall, Option.bind_eq_bind, Option.bind_some]
    generalize SoapySidekiq.multiplyDivide arith (ticks % r.numerator) r.denominator r.numerator =
      fraction at *
    generalize ticks / r.numerator * r.denominator = seconds
    clear h1 hcall
    by_cases h2 : fraction.quotient > 9223372036854775807 / 1000000000 - seconds
    · rw [if_pos h2, if_pos h2]
      rfl
    rw [if_neg h2, if_neg h2, hcall', Option.bind_some]
    generalize SoapySidekiq.multiplyDivide arith fraction.remainder 1000000000 r.numerator = phase
    generalize seconds + fraction.quotient = seconds
    clear h2 hcall'
    by_cases h3 : phase.quotient > 9223372036854775807 - seconds * 1000000000
    · rw [if_pos h3, if_pos h3]
      rfl
    · rw [if_neg h3, if_neg h3]
      rfl
/-- The carry threshold of a block time meets it as well. -/
theorem blockTime_eq {α : Type} (arith : Arithmetic) (block : Block α) :
    blockTime arith block = some (RxSampleQueue.blockTime arith block) := by
  unfold blockTime RxSampleQueue.blockTime
  rw [convert_eq, Option.bind_eq_bind, Option.bind_some]
  cases hconvert : block.sampleRate.convert arith (UInt64.ofNat block.offset) with
  | error e => rfl
  | ok offsetPhase =>
    dsimp only
    by_cases hfits : offsetPhase.nanoseconds > 0 ∧ block.timeNs > int64Max - offsetPhase.nanoseconds
    · rw [if_pos hfits, if_pos hfits]
      rfl
    rw [if_neg hfits, if_neg hfits]
    by_cases hcarry : block.timeRemainder ≠ 0 ∧ offsetPhase.remainder ≠ 0
    · have hphase := UInt64.lt_iff_toNat_lt.mp (RxSampleQueue.convert_phase hconvert)
      have hpos : 0 < offsetPhase.remainder.toNat := Word64.toNat_pos (UInt64.pos_iff_ne_zero.mpr hcarry.2)
      have hvalue : offsetPhase.denominator - offsetPhase.remainder < offsetPhase.denominator := by
        rw [UInt64.lt_iff_toNat_lt, Word64.toNat_sub hphase.le]
        omega
      have hcall := multiplyDivide_eq hvalue arith block.timeDenominator
      rw [if_pos hcarry, if_pos hcarry, hcall, Option.bind_eq_bind, Option.bind_some]
      generalize SoapySidekiq.multiplyDivide arith _ _ _ = threshold
      generalize threshold.quotient + (if threshold.remainder ≠ 0 then 1 else 0) = minimumPhase
      split
      · split <;> rfl
      · rfl
    · rw [if_neg hcarry, if_neg hcarry]
      rfl

end Guarded

/-! ## The theorem -/

/-- The portable division of a value below the divisor is exact and equal to the 128-bit one: the
remainder stays below the divisor, no operation on 64 bits wraps, and every caller's value is below
its divisor. -/
theorem portable_multiply_divide_exact (value multiplier divisor : UInt64) (hv : value < divisor) :
    (multiplyDivide .portable value multiplier divisor).quotient.toNat =
        value.toNat * multiplier.toNat / divisor.toNat ∧
      (multiplyDivide .portable value multiplier divisor).remainder.toNat =
        value.toNat * multiplier.toNat % divisor.toNat ∧
      multiplyDivide .portable value multiplier divisor =
        multiplyDivide .int128 value multiplier divisor ∧
      (∀ k ≤ 64, portableLoop value multiplier divisor (64 - k)
          (portablePrefix value multiplier divisor k) =
            multiplyDivide .portable value multiplier divisor ∧
        (portablePrefix value multiplier divisor k).remainder < divisor ∧
        (k < 64 →
          (doublePhase divisor (portablePrefix value multiplier divisor k)).remainder < divisor)) ∧
      Trapping.multiplyDivide .portable value multiplier divisor =
        some (multiplyDivide .portable value multiplier divisor) ∧
      (∀ arith (r : TimestampRate) ticks,
        Guarded.convert arith r ticks = some (r.convert arith ticks)) ∧
      ∀ (α : Type) arith (block : Block α),
        Guarded.blockTime arith block = some (RxSampleQueue.blockTime arith block) := by
  have hlt := UInt64.lt_iff_toNat_lt.mp hv
  obtain ⟨htrap, hportable⟩ := multiplyDivide_exact .portable value multiplier divisor hlt
  have hwide := multiplyDivide_divides .int128 value multiplier divisor hlt
  refine ⟨hportable.1, hportable.2, hportable.unique hwide, fun k hk => ?_, htrap,
    Guarded.convert_eq, fun α => Guarded.blockTime_eq⟩
  exact ⟨portableLoop_resume value multiplier divisor hk, remainder_lt hlt hk⟩

/-- The largest operands: `(2^64 - 2) * (2^64 - 1) / (2^64 - 1)`. -/
theorem portable_multiply_divide_exact_largest :
    multiplyDivide .portable 18446744073709551614 18446744073709551615 18446744073709551615 =
      multiplyDivide .int128 18446744073709551614 18446744073709551615 18446744073709551615 :=
  (portable_multiply_divide_exact 18446744073709551614 18446744073709551615 18446744073709551615
    (by decide)).2.2.1

end SoapySidekiq
