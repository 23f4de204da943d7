import SoapySidekiq.Foundations.Word64
import SoapySidekiq.Time.TimestampConversion

/-! # The conversions with trapping arithmetic

The same computations with every 64-bit addition, subtraction and product trapping: the result is
`none` as soon as one of them would wrap. Divisions, remainders and comparisons cannot. -/
set_option autoImplicit false

namespace SoapySidekiq.Trapping

open Word64

def doublePhase (divisor : UInt64) (r : ProductDivision) : Option ProductDivision := do
  let quotient ← trapMul r.quotient 2
  let room ← trapSub divisor r.remainder
  if r.remainder ≥ room then
    return ⟨← trapAdd quotient 1, ← trapSub r.remainder room⟩
  else
    return ⟨quotient, ← trapMul r.remainder 2⟩

def addPhase (value divisor : UInt64) (r : ProductDivision) : Option ProductDivision := do
  let room ← trapSub divisor value
  if r.remainder ≥ room then
    return ⟨← trapAdd r.quotient 1, ← trapSub r.remainder room⟩
  else
    return ⟨r.quotient, ← trapAdd r.remainder value⟩

def portablePass (value multiplier divisor : UInt64) (n : ℕ) (r : ProductDivision) :
    Option ProductDivision := do
  let r ← doublePhase divisor r
  if multiplier.toNat.testBit n then addPhase value divisor r else return r

def portableLoop (value multiplier divisor : UInt64) :
    ℕ → ProductDivision → Option ProductDivision
  | 0, r => some r
  | n + 1, r => do portableLoop value multiplier divisor n (← portablePass value multiplier divisor n r)

/-- The 128-bit body has no 64-bit operation: its result only has to fit. -/
def multiplyDivide (arith : Arithmetic) (value multiplier divisor : UInt64) :
    Option ProductDivision :=
  match arith with
  | .int128 =>
    if value.toNat * multiplier.toNat / divisor.toNat < 2 ^ 64 then
      some (wideMultiplyDivide value multiplier divisor) else none
  | .portable => portableLoop value multiplier divisor 64 ⟨0, 0⟩

def convert (arith : Arithmetic) (r : TimestampRate) (ticks : UInt64) :
    Option (Except Exception TimestampPhase) := do
  if !r.valid then return .error (.invalidArgument "Timestamp rate cannot be zero")
  let billion : UInt64 := 1000000000
  let maximum : UInt64 := 9223372036854775807
  let secondsLimit := maximum / billion
  let whole := ticks / r.numerator
  if whole > secondsLimit / r.denominator then
    return .error (.overflowError "Timestamp does not fit in nanoseconds")
  let seconds ← trapMul whole r.denominator
  let fraction ← multiplyDivide arith (ticks % r.numerator) r.denominator r.numerator
  if fraction.quotient > (← trapSub secondsLimit seconds) then
    return .error (.overflowError "Timestamp does not fit in nanoseconds")
  let seconds ← trapAdd seconds fraction.quotient
  let phase ← multiplyDivide arith fraction.remainder billion r.numerator
  let nanoseconds ← trapMul seconds billion
  if phase.quotient > (← trapSub maximum nanoseconds) then
    return .error (.overflowError "Timestamp does not fit in nanoseconds")
  return .ok ⟨castInt64 (← trapAdd nanoseconds phase.quotient), phase.remainder, r.numerator⟩

def secondFraction (remainingTicks frequency : UInt64) : Option ProductDivision :=
  portableLoop remainingTicks 1000000000 frequency 30 ⟨0, 0⟩

def portableNanoseconds (ticks frequency : UInt64) : Option (Except Exception ℤ) := do
  let nanosecondsPerSecond : UInt64 := 1000000000
  let maximum : UInt64 := 9223372036854775807
  let wholeSeconds := ticks / frequency
  let remainingTicks := ticks % frequency
  if wholeSeconds > maximum / nanosecondsPerSecond then
    return .error (.overflowError "timestamp does not fit in nanoseconds")
  let division ← secondFraction remainingTicks frequency
  let fractional := division.quotient
  let wholeNanoseconds ← trapMul wholeSeconds nanosecondsPerSecond
  if fractional > (← trapSub maximum wholeNanoseconds) then
    return .error (.overflowError "timestamp does not fit in nanoseconds")
  return .ok (castInt64 (← trapAdd wholeNanoseconds fractional))

/-- The 128-bit body has no 64-bit operation. -/
def ticksToNanoseconds (arith : Arithmetic) (ticks frequency : UInt64) :
    Option (Except Exception ℤ) :=
  if frequency = 0 then some (.error (.invalidArgument "timestamp frequency cannot be zero")) else
  match arith with
  | .int128 => some (wideNanoseconds ticks frequency)
  | .portable => portableNanoseconds ticks frequency

def nanosecondsToTicks (nanoseconds : Int64) (frequency : UInt64) :
    Option (Except Exception UInt64) := do
  if nanoseconds < 0 || frequency = 0 then
    return .error (.invalidArgument "timestamp requires nonnegative time and nonzero frequency")
  let billion : UInt64 := 1000000000
  let time := nanoseconds.toUInt64
  let seconds := time / billion
  let remainder := time % billion
  let maximum : UInt64 := 18446744073709551615
  if seconds > maximum / frequency then
    return .error (.overflowError "timestamp does not fit in device ticks")
  let whole ← trapMul seconds frequency
  let fractional ← trapAdd (← trapMul (frequency / billion) remainder)
    ((← trapMul (frequency % billion) remainder) / billion)
  if fractional > (← trapSub maximum whole) then
    return .error (.overflowError "timestamp does not fit in device ticks")
  return .ok (← trapAdd whole fractional)

end SoapySidekiq.Trapping
