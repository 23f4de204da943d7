import SoapySidekiq.Time.TimestampRate

/-! # Integer clocks

`TimestampConversion.hpp`: counter ticks to nanoseconds and back for a clock of whole Hertz. The
portable body of `ticksToNanoseconds` runs the long division of `multiplyDivide` over the 30 bits of
`10^9`, on the ticks of the last second only. -/
set_option autoImplicit false

namespace SoapySidekiq

/-- The loop of the portable body, over the bits `1 << 29` down to `1` of `10^9`. -/
def secondFraction (remainingTicks frequency : UInt64) : ProductDivision :=
  portableLoop remainingTicks 1000000000 frequency 30 ⟨0, 0⟩

/-- The portable body of `ticksToNanoseconds`: whole seconds, and the long division of the rest. -/
def portableNanoseconds (ticks frequency : UInt64) : Except Exception ℤ :=
  let nanosecondsPerSecond : UInt64 := 1000000000
  let maximum : UInt64 := 9223372036854775807
  let wholeSeconds := ticks / frequency
  let remainingTicks := ticks % frequency
  if wholeSeconds > maximum / nanosecondsPerSecond then
    .error (.overflowError "timestamp does not fit in nanoseconds") else
  let fractional := (secondFraction remainingTicks frequency).quotient
  let wholeNanoseconds := wholeSeconds * nanosecondsPerSecond
  if fractional > maximum - wholeNanoseconds then
    .error (.overflowError "timestamp does not fit in nanoseconds") else
  .ok (castInt64 (wholeNanoseconds + fractional))

/-- The 128-bit body of `ticksToNanoseconds`: the product is exact. -/
def wideNanoseconds (ticks frequency : UInt64) : Except Exception ℤ :=
  let nanoseconds := ticks.toNat * 1000000000 / frequency.toNat
  if nanoseconds > int64Max then
    .error (.overflowError "timestamp does not fit in nanoseconds")
  else .ok nanoseconds

/-- `ticksToNanoseconds`. -/
def ticksToNanoseconds (arith : Arithmetic) (ticks frequency : UInt64) : Except Exception ℤ :=
  if frequency = 0 then .error (.invalidArgument "timestamp frequency cannot be zero") else
  match arith with
  | .int128 => wideNanoseconds ticks frequency
  | .portable => portableNanoseconds ticks frequency

/-- `nanosecondsToTicks`; `nanoseconds` is the value of an `std::int64_t`. -/
def nanosecondsToTicks (nanoseconds : Int64) (frequency : UInt64) : Except Exception UInt64 :=
  if nanoseconds < 0 || frequency = 0 then
    .error (.invalidArgument "timestamp requires nonnegative time and nonzero frequency") else
  let billion : UInt64 := 1000000000
  let time := nanoseconds.toUInt64
  let seconds := time / billion
  let remainder := time % billion
  let maximum : UInt64 := 18446744073709551615
  if seconds > maximum / frequency then
    .error (.overflowError "timestamp does not fit in device ticks") else
  let whole := seconds * frequency
  let fractional := frequency / billion * remainder + frequency % billion * remainder / billion
  if fractional > maximum - whole then
    .error (.overflowError "timestamp does not fit in device ticks") else
  .ok (whole + fractional)

end SoapySidekiq
