import Mathlib.Data.Nat.Notation
import Mathlib.Data.List.Basic
import Mathlib.Data.List.Induction
import Mathlib.Data.List.TakeWhile
import Mathlib.Tactic.IntervalCases

/-! # Decimal numerals

Reading an unsigned decimal prefix as `std::from_chars` does, and writing a number as
`std::to_string` does. What is read completely is a nonempty string of digits, leading zeros included;
what is written is the one numeral of its value without superfluous zeros. -/
set_option autoImplicit false

namespace Decimal

/-- A nonempty string of ASCII decimal digits. -/
def Numeral (s : List Char) : Prop := s ≠ [] ∧ ∀ c ∈ s, c.isDigit = true

instance (s : List Char) : Decidable (Numeral s) :=
  @instDecidableAnd _ _ inferInstance (List.decidableBAll _ _)

def value (s : List Char) : ℕ := Nat.ofDigitChars 10 s 0

/-- No zero stands before another digit. -/
def Canonical (s : List Char) : Prop := 1 < s.length → s.head? ≠ some '0'

instance (s : List Char) : Decidable (Canonical s) := inferInstanceAs (Decidable (_ → _))

/-! ## Reading -/

/-- The errors of `std::from_chars`. -/
inductive Errc where
  | invalidArgument
  | resultOutOfRange
deriving DecidableEq, Repr

/-- What `std::from_chars` leaves: the variable, the error and the characters not consumed. -/
structure FromChars where
  parsed : ℕ
  ec : Option Errc
  rest : List Char

/-- `std::from_chars` for an unsigned type of `limit` values: the longest prefix of digits is the
pattern, and the variable keeps its value on an error. -/
def fromChars (limit : ℕ) (s : List Char) (initial : ℕ) : FromChars :=
  let digits := s.takeWhile Char.isDigit
  if digits = [] then ⟨initial, some .invalidArgument, s⟩
  else if limit ≤ value digits then
    ⟨initial, some .resultOutOfRange, s.dropWhile Char.isDigit⟩
  else ⟨value digits, none, s.dropWhile Char.isDigit⟩

theorem takeWhile_of_numeral {s : List Char} (h : ∀ c ∈ s, c.isDigit = true) :
    s.takeWhile Char.isDigit = s ∧ s.dropWhile Char.isDigit = [] :=
  ⟨List.takeWhile_eq_self_iff.mpr h, List.dropWhile_eq_nil_iff.mpr h⟩

/-- Nothing is left and no error is reported exactly for the numerals below the limit. -/
theorem fromChars_complete_iff {limit initial : ℕ} {s : List Char} :
    (fromChars limit s initial).ec = none ∧ (fromChars limit s initial).rest = [] ↔
      Numeral s ∧ value s < limit := by
  constructor
  · rintro ⟨hec, hrest⟩
    rw [fromChars] at hec hrest
    by_cases hdigits : s.takeWhile Char.isDigit = []
    · rw [if_pos hdigits] at hec
      cases hec
    rw [if_neg hdigits] at hec hrest
    by_cases hlimit : limit ≤ value (s.takeWhile Char.isDigit)
    · rw [if_pos hlimit] at hec
      cases hec
    rw [if_neg hlimit] at hrest
    have hall := List.dropWhile_eq_nil_iff.mp hrest
    rw [(takeWhile_of_numeral hall).1] at hdigits hlimit
    exact ⟨⟨hdigits, hall⟩, Nat.lt_of_not_le hlimit⟩
  · rintro ⟨⟨hne, hall⟩, hlt⟩
    obtain ⟨htake, hdrop⟩ := takeWhile_of_numeral hall
    rw [fromChars]
    simp only [htake, hdrop, hne, if_false, Nat.not_le.mpr hlt, and_self]

theorem fromChars_parsed {limit initial : ℕ} {s : List Char} (h : Numeral s)
    (hlt : value s < limit) : (fromChars limit s initial).parsed = value s := by
  rw [fromChars]
  simp only [(takeWhile_of_numeral h.2).1, h.1, if_false, Nat.not_le.mpr hlt]

/-! ## Writing -/

theorem toDigits_numeral (n : ℕ) : Numeral (Nat.toDigits 10 n) :=
  ⟨Nat.toDigits_ne_nil, fun _ hc => Nat.isDigit_of_mem_toDigits (by decide) (by decide) hc⟩

theorem value_toDigits (n : ℕ) : value (Nat.toDigits 10 n) = n := Nat.ofDigitChars_ten_toDigits

theorem digitChar_of_isDigit {c : Char} (h : c.isDigit = true) :
    c.toNat - 48 < 10 ∧ Nat.digitChar (c.toNat - 48) = c := by
  rw [Char.isDigit, Bool.and_eq_true, decide_eq_true_iff, decide_eq_true_iff] at h
  have hlo : 48 ≤ c.toNat := h.1
  have hhi : c.toNat ≤ 57 := h.2
  refine ⟨by omega, ?_⟩
  have hc : Char.ofNat c.toNat = c := Char.ofNat_toNat c
  generalize c.toNat = n at hlo hhi hc
  subst hc
  interval_cases n <;> rfl

theorem value_append_digit (s : List Char) (c : Char) :
    value (s ++ [c]) = 10 * value s + (c.toNat - 48) := by
  rw [value, Nat.ofDigitChars_append, Nat.ofDigitChars_cons, Nat.ofDigitChars_nil]
  rfl

theorem toDigits_head_ne_zero {n : ℕ} (h : 0 < n) : (Nat.toDigits 10 n).head? ≠ some '0' := by
  induction n using Nat.strong_induction_on with
  | _ n ih =>
    rcases Nat.lt_or_ge n 10 with hlt | hge
    · rw [Nat.toDigits_of_lt_base hlt]
      interval_cases n <;> decide
    · rw [Nat.toDigits_of_base_le (by decide) hge, List.head?_append_of_ne_nil _ Nat.toDigits_ne_nil]
      exact ih (n / 10) (Nat.div_lt_self h (by decide)) (Nat.div_pos hge (by decide))

theorem toDigits_canonical (n : ℕ) : Canonical (Nat.toDigits 10 n) := by
  intro hlength
  rcases Nat.eq_zero_or_pos n with rfl | hpos
  · rw [Nat.toDigits_zero] at hlength
    exact absurd hlength (by decide)
  · exact toDigits_head_ne_zero hpos

/-- A canonical numeral is what is written for its value. -/
theorem toDigits_value {s : List Char} (hnumeral : Numeral s) (hcanonical : Canonical s) :
    Nat.toDigits 10 (value s) = s := by
  induction s using List.reverseRecOn with
  | nil => exact absurd rfl hnumeral.1
  | append_singleton s c ih =>
    obtain ⟨hlt, hchar⟩ := digitChar_of_isDigit (hnumeral.2 c (by simp))
    rw [value_append_digit]
    by_cases hs : s = []
    · subst hs
      rw [show 10 * value [] + (c.toNat - 48) = c.toNat - 48 by simp [value],
        Nat.toDigits_of_lt_base hlt, hchar]
      rfl
    · have hhead : s.head? ≠ some '0' := by
        have := hcanonical (by
          have := List.length_pos_iff.mpr hs
          simp
          omega)
        rwa [List.head?_append_of_ne_nil _ hs] at this
      have hprefix := ih ⟨hs, fun d hd => hnumeral.2 d (by simp [hd])⟩ fun _ => hhead
      have hpos : 0 < value s := by
        refine Nat.pos_of_ne_zero fun hzero => hhead ?_
        rw [hzero, Nat.toDigits_zero] at hprefix
        rw [← hprefix]
        rfl
      rw [← Nat.toDigits_append_toDigits (by decide) hpos hlt, hprefix,
        Nat.toDigits_of_lt_base hlt, hchar]

/-- The written form of a number is the only canonical numeral that is read as that number. -/
theorem eq_toDigits_iff {s : List Char} {n : ℕ} :
    s = Nat.toDigits 10 n ↔ Numeral s ∧ value s = n ∧ Canonical s := by
  constructor
  · rintro rfl
    exact ⟨toDigits_numeral n, value_toDigits n, toDigits_canonical n⟩
  · rintro ⟨hnumeral, rfl, hcanonical⟩
    exact (toDigits_value hnumeral hcanonical).symm

end Decimal
