import Mathlib.Data.Nat.Notation
import SoapySidekiq.Foundations.BinaryFormat

/-! # Single precision

A float as the number that it stands for: the sign of a zero and the payload of a NaN are dropped. -/
set_option autoImplicit false

open Rounding

namespace Binary32

def format : BinaryFormat := ⟨24, -149, by decide⟩

inductive Value where
  | nan
  | infinite (negative : Bool)
  | finite (number : ℚ)
deriving DecidableEq, Repr

/-- Negation. -/
def Value.neg : Value → Value
  | .nan => .nan
  | .infinite negative => .infinite (!negative)
  | .finite x => .finite (-x)

/-! ## Bits -/

def signed (negative : Bool) (x : ℚ) : ℚ := if negative then -x else x

/-- The sign, eight bits of exponent and 23 bits of fraction. -/
def decode (bits : UInt32) : Value :=
  let negative : Bool := bits.toNat / 2 ^ 31 = 1
  let biased : ℕ := bits.toNat / 2 ^ 23 % 2 ^ 8
  let fraction : ℕ := bits.toNat % 2 ^ 23
  if biased = 255 then if fraction = 0 then .infinite negative else .nan
  else if biased = 0 then .finite (signed negative (fraction * 2 ^ (-149 : ℤ)))
  else .finite (signed negative (((2 ^ 23 + fraction : ℕ) : ℚ) * 2 ^ ((biased : ℤ) - 150)))

/-! ## Arithmetic -/

/-- `static_cast<float>` of an integer that a float holds without overflow. -/
def ofInt (n : ℤ) : ℚ := format.round n

/-- The quotient of two finite floats, while it is finite. -/
def divide (x y : ℚ) : ℚ := format.round (x / y)

/-- The product of two finite floats, while it is finite. -/
def multiply (x y : ℚ) : ℚ := format.round (x * y)

theorem ofInt_eq {n : ℤ} (h : |n| < 2 ^ 24) : ofInt n = n :=
  BinaryFormat.round_intCast h (by decide)

theorem abs_multiply_sub_le (x y : ℚ) :
    |multiply x y - x * y| ≤ |x * y| / 2 ^ 24 + 2 ^ (-149 : ℤ) / 2 :=
  BinaryFormat.abs_round_sub_le _

end Binary32
