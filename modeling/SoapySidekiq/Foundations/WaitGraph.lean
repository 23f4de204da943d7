import Mathlib.Data.Nat.Init
import Mathlib.Logic.Relation

/-! # Threads that wait for each other

A thread that waits for another one has the higher rank. Then no threads wait for each other in a
circle, and from every thread one gets to a thread that waits for nobody. -/
set_option autoImplicit false

namespace WaitGraph
variable {τ : Type*} {waits : τ → τ → Prop} {rank : τ → ℕ}

theorem rank_lt (hrank : ∀ x y, waits x y → rank y < rank x) {x y : τ}
    (h : Relation.TransGen waits x y) : rank y < rank x := by
  induction h with
  | single hwaits => exact hrank _ _ hwaits
  | tail _ hwaits ih => exact Nat.lt_trans (hrank _ _ hwaits) ih

theorem acyclic (hrank : ∀ x y, waits x y → rank y < rank x) (x : τ) :
    ¬ Relation.TransGen waits x x :=
  fun h => Nat.lt_irrefl _ (rank_lt hrank h)

/-- Whoever waits, waits in the end for a thread that does not. -/
theorem exists_unblocked (hrank : ∀ x y, waits x y → rank y < rank x) {P : τ → Prop}
    (hkeep : ∀ x y, P x → waits x y → P y) {x : τ} (hx : P x) :
    ∃ y, P y ∧ Relation.ReflTransGen waits x y ∧ ∀ z, ¬ waits y z := by
  obtain ⟨n, hn⟩ : ∃ n, rank x = n := ⟨_, rfl⟩
  induction n using Nat.strong_induction_on generalizing x with
  | _ n ih =>
    by_cases hblocked : ∃ z, waits x z
    · obtain ⟨z, hwaits⟩ := hblocked
      obtain ⟨y, hy, hpath, hfree⟩ := ih (rank z) (hn ▸ hrank x z hwaits) (hkeep x z hx hwaits) rfl
      exact ⟨y, hy, .head hwaits hpath, hfree⟩
    · exact ⟨x, hx, .refl, fun z hwaits => hblocked ⟨z, hwaits⟩⟩

end WaitGraph
