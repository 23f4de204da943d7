import Mathlib.Tactic.Ring

/-! # 64-bit words without wrap-around

The value of a `UInt64` operation, under the bound that keeps it from wrapping. -/
set_option autoImplicit false

namespace Word64

theorem toNat_ofNat {n : ℕ} (h : n < 2 ^ 64) : (UInt64.ofNat n).toNat = n := by
  rw [UInt64.toNat_ofNat']
  exact Nat.mod_eq_of_lt h

theorem toNat_mul {a b : UInt64} (h : a.toNat * b.toNat < 2 ^ 64) :
    (a * b).toNat = a.toNat * b.toNat := by
  rw [UInt64.toNat_mul]
  exact Nat.mod_eq_of_lt h

theorem toNat_add {a b : UInt64} (h : a.toNat + b.toNat < 2 ^ 64) :
    (a + b).toNat = a.toNat + b.toNat := by
  rw [UInt64.toNat_add]
  exact Nat.mod_eq_of_lt h

theorem toNat_sub {a b : UInt64} (h : b.toNat ≤ a.toNat) : (a - b).toNat = a.toNat - b.toNat :=
  UInt64.toNat_sub_of_le a b (UInt64.le_iff_toNat_le.mpr h)

theorem toNat_pos {a : UInt64} (h : 0 < a) : 0 < a.toNat := UInt64.lt_iff_toNat_lt.mp h

/-! ## Guards against overflow -/

theorem gt_div_iff {w l d : UInt64} (hd : 0 < d.toNat) : w > l / d ↔ l.toNat < w.toNat * d.toNat := by
  rw [gt_iff_lt, UInt64.lt_iff_toNat_lt, UInt64.toNat_div]
  exact Nat.div_lt_iff_lt_mul hd

theorem gt_sub_iff {q a b : UInt64} (h : b.toNat ≤ a.toNat) :
    q > a - b ↔ a.toNat < b.toNat + q.toNat := by
  rw [gt_iff_lt, UInt64.lt_iff_toNat_lt, toNat_sub h]
  omega

theorem ge_sub_iff {q a b : UInt64} (h : b.toNat ≤ a.toNat) :
    q ≥ a - b ↔ a.toNat ≤ b.toNat + q.toNat := by
  rw [ge_iff_le, UInt64.le_iff_toNat_le, toNat_sub h]
  omega

/-! ## Operations that trap instead of wrapping -/

/-- The operation on words, where the exact result `n` fits in one. -/
def trapping (n : ℕ) (wrapped : UInt64) : Option UInt64 := if n < 2 ^ 64 then some wrapped else none

def trapAdd (a b : UInt64) : Option UInt64 := trapping (a.toNat + b.toNat) (a + b)

def trapSub (a b : UInt64) : Option UInt64 := if b.toNat ≤ a.toNat then some (a - b) else none

def trapMul (a b : UInt64) : Option UInt64 := trapping (a.toNat * b.toNat) (a * b)

theorem trapAdd_eq {a b : UInt64} (h : a.toNat + b.toNat < 2 ^ 64) : trapAdd a b = some (a + b) :=
  if_pos h

theorem trapSub_eq {a b : UInt64} (h : b.toNat ≤ a.toNat) : trapSub a b = some (a - b) := if_pos h

theorem trapMul_eq {a b : UInt64} (h : a.toNat * b.toNat < 2 ^ 64) : trapMul a b = some (a * b) :=
  if_pos h

/-! ## Truncated division of a product, one factor at a time -/

/-- Scaling after the division: the remainder carries the rest of the product. -/
theorem mul_div_split (x n b : ℕ) (hn : 0 < n) : x * b / n = x / n * b + x % n * b / n := by
  have hx : n * (x / n) + x % n = x := Nat.div_add_mod x n
  calc x * b / n = (n * (x / n) + x % n) * b / n := by rw [hx]
    _ = (x % n * b + n * (x / n * b)) / n := by congr 1; ring
    _ = x / n * b + x % n * b / n := by rw [Nat.add_mul_div_left _ _ hn, Nat.add_comm]

theorem mul_mod_split (x n b : ℕ) : x * b % n = x % n * b % n := by
  rw [Nat.mod_mul_mod]

/-- A proper fraction of a factor is at most that factor. -/
theorem fraction_le (v p d : ℕ) (hv : v ≤ d) : v * p / d ≤ p :=
  Nat.div_le_of_le_mul (Nat.mul_le_mul_right p hv)

/-! ## Truncated scaling there and back -/

/-- Scaling down by `a / b` and back up loses less than one unit of each scale. -/
theorem round_trip (x a b : ℕ) (ha : 0 < a) (hb : 0 < b) :
    x * a / b * b / a ≤ x ∧ (x - x * a / b * b / a) * a < b + a ∧
      (b ∣ x * a → x * a / b * b / a = x) := by
  have hdown := Nat.div_add_mod (x * a) b
  have hup := Nat.div_add_mod (x * a / b * b) a
  have hlow := Nat.mod_lt (x * a) hb
  have hhigh := Nat.mod_lt (x * a / b * b) ha
  have hle : x * a / b * b / a ≤ x := by
    apply Nat.div_le_of_le_mul
    calc x * a / b * b ≤ x * a := Nat.div_mul_le_self _ _
      _ = a * x := Nat.mul_comm _ _
  refine ⟨hle, ?_, fun hdvd => ?_⟩
  · rw [Nat.sub_mul, Nat.mul_comm (x * a / b * b / a) a]
    rw [Nat.mul_comm b] at hdown
    omega
  · rw [Nat.div_mul_cancel hdvd, Nat.mul_div_cancel _ ha]

end Word64
