import Mathlib.Data.Int.Notation
import Mathlib.Data.Nat.Notation

/-! # Return codes and flags

The constants of the streaming API that the driver implements: a call returns a count or one of
these codes. -/
set_option autoImplicit false

namespace SoapySidekiq

def soapyTimeout : ℤ := -1

def soapyStreamError : ℤ := -2

def soapyOverflow : ℤ := -4

def soapyNotSupported : ℤ := -5

/-- `SOAPY_SDR_HAS_TIME`. -/
def soapyHasTime : UInt32 := 4

def soapyUnderflow : ℤ := -7

/-- `-ENODEV`. -/
def noDevice : ℤ := -19

/-- `std::numeric_limits<int>::max()`. -/
def intMax : ℕ := 2147483647

/-- `SoapySDR::Stream *`: a token is compared and never dereferenced before that; 0 is null. -/
abbrev StreamToken : Type := ℕ

/-- The options of `activateStream` and `deactivateStream` that exist: none, or the next PPS edge. -/
def unsupportedFlags (flags : UInt32) (timeNs : ℤ) : Bool :=
  flags &&& ~~~soapyHasTime != 0 || (flags &&& soapyHasTime != 0 && timeNs != 0)

end SoapySidekiq
