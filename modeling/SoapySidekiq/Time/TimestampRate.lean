import SoapySidekiq.Exceptions
import Mathlib.Data.Rat.Floor
import Mathlib.Algebra.Order.Floor.Semifield
import Mathlib.Tactic.Ring
import Mathlib.Tactic.NormNum

/-! # Timestamp rates

`TimestampRate.hpp`: a clock rate as a positive rational, and the conversion of a tick count to
whole nanoseconds that keeps the exact fractional phase. `multiplyDivide` has the two bodies that
the build selects between: the 128-bit product, and the binary long division used without 128-bit
integers. -/
set_option autoImplicit false

namespace SoapySidekiq

/-- Which body of the `__SIZEOF_INT128__` conditionals the build compiles. -/
inductive Arithmetic where
  | int128
  | portable
deriving DecidableEq, Repr

/-- `std::numeric_limits<std::int64_t>::max()`. -/
def int64Max : ℕ := 9223372036854775807

/-- `static_cast<std::int64_t>` of an unsigned 64-bit value. -/
def castInt64 (v : UInt64) : ℤ := v.toInt64.toInt

theorem castInt64_of_le {v : UInt64} (h : v.toNat ≤ int64Max) : castInt64 v = v.toNat := by
  have hlt : v.toNat < 2 ^ 63 := by unfold int64Max at h; omega
  unfold castInt64
  rw [Int64.toInt, UInt64.toBitVec_toInt64, BitVec.toInt_eq_toNat_of_lt]
  · rfl
  · simp only [UInt64.toNat_toBitVec]
    omega

/-! ## Product division -/

structure ProductDivision where
  quotient : UInt64
  remainder : UInt64
deriving DecidableEq, Repr

/-- The widened form: the product is formed in 128 bits, so it is exact. -/
def wideMultiplyDivide (value multiplier divisor : UInt64) : ProductDivision :=
  let product := value.toNat * multiplier.toNat
  ⟨UInt64.ofNat (product / divisor.toNat), UInt64.ofNat (product % divisor.toNat)⟩

/-- The first half of a loop pass: double the remainder, comparing before doubling. -/
def doublePhase (divisor : UInt64) (r : ProductDivision) : ProductDivision :=
  if r.remainder ≥ divisor - r.remainder then
    ⟨r.quotient * 2 + 1, r.remainder - (divisor - r.remainder)⟩
  else
    ⟨r.quotient * 2, r.remainder * 2⟩

/-- The second half of a loop pass: add `value` when the multiplier has the pass's bit. -/
def addPhase (value divisor : UInt64) (r : ProductDivision) : ProductDivision :=
  if r.remainder ≥ divisor - value then
    ⟨r.quotient + 1, r.remainder - (divisor - value)⟩
  else
    ⟨r.quotient, r.remainder + value⟩

/-- One pass of the portable loop, for the bit `1 << n`. -/
def portablePass (value multiplier divisor : UInt64) (n : ℕ) (r : ProductDivision) :
    ProductDivision :=
  let r := doublePhase divisor r
  if multiplier.toNat.testBit n then addPhase value divisor r else r

/-- The portable loop over the bits `1 << (n-1)` down to `1`. -/
def portableLoop (value multiplier divisor : UInt64) : ℕ → ProductDivision → ProductDivision
  | 0, r => r
  | n + 1, r => portableLoop value multiplier divisor n (portablePass value multiplier divisor n r)

/-- `detail::multiplyDivide`: `value * multiplier / divisor`, for `value` below `divisor`. -/
def multiplyDivide (arith : Arithmetic) (value multiplier divisor : UInt64) : ProductDivision :=
  match arith with
  | .int128 => wideMultiplyDivide value multiplier divisor
  | .portable => portableLoop value multiplier divisor 64 ⟨0, 0⟩

/-! ## The rate -/

/-- Exact positive rate, `numerator / denominator` ticks per second; a zero numerator is unset. -/
structure TimestampRate where
  numerator : UInt64
  denominator : UInt64
  denominator_pos : 0 < denominator
deriving DecidableEq

/-- Whole nanoseconds and the fractional nanosecond `remainder / denominator`. -/
structure TimestampPhase where
  nanoseconds : ℤ
  remainder : UInt64
  denominator : UInt64
deriving DecidableEq, Repr

namespace TimestampRate

/-- The integer-clock constructor `TimestampRate(frequency)`. -/
def ofFrequency (frequency : UInt64) : TimestampRate := ⟨frequency, 1, by decide⟩

def valid (r : TimestampRate) : Bool := r.numerator != 0

/-- The rational that a rate stands for. -/
def rate (r : TimestampRate) : ℚ := (r.numerator.toNat : ℚ) / (r.denominator.toNat : ℚ)

/-- `TimestampRate::convert`. -/
def convert (arith : Arithmetic) (r : TimestampRate) (ticks : UInt64) :
    Except Exception TimestampPhase :=
  if !r.valid then .error (.invalidArgument "Timestamp rate cannot be zero") else
  let billion : UInt64 := 1000000000
  let maximum : UInt64 := 9223372036854775807
  let secondsLimit := maximum / billion
  let whole := ticks / r.numerator
  if whole > secondsLimit / r.denominator then
    .error (.overflowError "Timestamp does not fit in nanoseconds") else
  let seconds := whole * r.denominator
  let fraction := multiplyDivide arith (ticks % r.numerator) r.denominator r.numerator
  if fraction.quotient > secondsLimit - seconds then
    .error (.overflowError "Timestamp does not fit in nanoseconds") else
  let seconds := seconds + fraction.quotient
  let phase := multiplyDivide arith fraction.remainder billion r.numerator
  let nanoseconds := seconds * billion
  if phase.quotient > maximum - nanoseconds then
    .error (.overflowError "Timestamp does not fit in nanoseconds") else
  .ok ⟨castInt64 (nanoseconds + phase.quotient), phase.remainder, r.numerator⟩

end TimestampRate

end SoapySidekiq
