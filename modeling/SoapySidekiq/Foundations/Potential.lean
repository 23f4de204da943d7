import Mathlib.Data.List.Basic
import SoapySidekiq.Foundations.Transition

/-! # The cost of a run

A weight charges every step of a run. A potential that each step's cost is paid from, or from what the
step earns, bounds the cost of the whole run by what it earns and the potential it starts with. -/
set_option autoImplicit false

namespace Transition
variable {σ α : Type*} {next : σ → α → Option σ}

/-! ## Totals -/

/-- The sum of a weight over the steps of the run. -/
def total (next : σ → α → Option σ) (weight : σ → α → σ → ℕ) : σ → List α → ℕ
  | _, [] => 0
  | s, a :: as =>
    match next s a with
    | none => 0
    | some t => weight s a t + total next weight t as

variable {weight cost gain : σ → α → σ → ℕ}

@[simp] theorem total_nil (s : σ) : total next weight s [] = 0 := rfl

theorem total_step (s : σ) (a : α) (as : List α) : total next weight s (a :: as) =
    match next s a with
    | none => 0
    | some t => weight s a t + total next weight t as := rfl

theorem total_cons {s t : σ} {a : α} (h : next s a = some t) (as : List α) :
    total next weight s (a :: as) = weight s a t + total next weight t as := by
  rw [total_step, h]

theorem total_disabled {s : σ} {a : α} (h : next s a = none) (as : List α) :
    total next weight s (a :: as) = 0 := by
  rw [total_step, h]

theorem total_add (s : σ) (as : List α) :
    total next (fun s a t => cost s a t + gain s a t) s as =
      total next cost s as + total next gain s as := by
  induction as generalizing s with
  | nil => rfl
  | cons a as ih =>
    cases h : next s a with
    | none => rw [total_disabled h, total_disabled h, total_disabled h]
    | some t => rw [total_cons h, total_cons h, total_cons h, ih]; omega

theorem total_zero (s : σ) (as : List α) : total next (fun _ _ _ => 0) s as = 0 := by
  induction as generalizing s with
  | nil => rfl
  | cons a as ih =>
    cases h : next s a with
    | none => exact total_disabled h as
    | some t => rw [total_cons h, ih]

theorem total_append {s t : σ} {as : List α} (h : run next s as = some t) (bs : List α) :
    total next weight s (as ++ bs) = total next weight s as + total next weight t bs := by
  induction as generalizing s with
  | nil => cases h; simp
  | cons a as ih =>
    obtain ⟨u, ha, has⟩ := run_cons.mp h
    rw [List.cons_append, total_cons ha, total_cons ha, ih has]
    omega

/-! ## Potentials -/

/-- A run pays for its cost with the potential that it loses and with what it earns. -/
theorem total_le_of_potential {I : σ → Prop} {D : σ → α → Prop} {Φ : σ → ℕ}
    (hkeep : ∀ s a t, I s → D s a → next s a = some t → I t)
    (hpay : ∀ s a t, I s → D s a → next s a = some t → cost s a t + Φ t ≤ Φ s + gain s a t)
    {s t : σ} {as : List α} (hs : I s) (hD : Along next D s as) (h : run next s as = some t) :
    total next cost s as + Φ t ≤ Φ s + total next gain s as := by
  induction as generalizing s with
  | nil => cases h; simp
  | cons a as ih =>
    obtain ⟨u, ha, has⟩ := run_cons.mp h
    have hfirst := hpay s a u hs hD.1 ha
    have hrest := ih (hkeep s a u hs hD.1 ha) (hD.2 u ha) has
    rw [total_cons ha, total_cons ha]
    omega

end Transition
