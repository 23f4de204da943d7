import Mathlib.Data.List.Basic

/-! # Interleaved pairs

A list of components read two at a time. -/
set_option autoImplicit false

namespace Interleaved
variable {α : Type}

def pairs : List α → List (α × α)
  | a :: b :: rest => (a, b) :: pairs rest
  | [_] => []
  | [] => []

@[simp] theorem pairs_nil : pairs ([] : List α) = [] := rfl

@[simp] theorem pairs_singleton (a : α) : pairs [a] = [] := rfl

@[simp] theorem pairs_cons_cons (a b : α) (rest : List α) :
    pairs (a :: b :: rest) = (a, b) :: pairs rest := rfl

theorem pairs_length : ∀ l : List α, (pairs l).length = l.length / 2
  | [] => by simp
  | [_] => by simp
  | _ :: _ :: rest => by
    simp only [pairs_cons_cons, List.length_cons, pairs_length rest]
    omega

theorem pairs_append : ∀ l m : List α, l.length % 2 = 0 → pairs (l ++ m) = pairs l ++ pairs m
  | [], m, _ => rfl
  | [_], _, h => by simp at h
  | a :: b :: rest, m, h => by
    have hr : rest.length % 2 = 0 := by
      simp only [List.length_cons] at h
      omega
    simp only [List.cons_append, pairs_cons_cons, pairs_append rest m hr]

theorem pairs_drop : ∀ (l : List α) (k : ℕ), pairs (l.drop (k * 2)) = (pairs l).drop k
  | l, 0 => by simp
  | [], k + 1 => by simp
  | [_], k + 1 => by
    have h : (k + 1) * 2 = k * 2 + 1 + 1 := by omega
    simp [h]
  | _ :: _ :: rest, k + 1 => by
    have h : (k + 1) * 2 = k * 2 + 1 + 1 := by omega
    simp only [h, List.drop_succ_cons, pairs_cons_cons, pairs_drop rest k]

theorem pairs_take : ∀ (l : List α) (k : ℕ), pairs (l.take (k * 2)) = (pairs l).take k
  | l, 0 => by simp
  | [], k + 1 => by simp
  | [_], k + 1 => by
    have h : (k + 1) * 2 = k * 2 + 1 + 1 := by omega
    simp [h]
  | _ :: _ :: rest, k + 1 => by
    have h : (k + 1) * 2 = k * 2 + 1 + 1 := by omega
    simp only [h, List.take_succ_cons, pairs_cons_cons, pairs_take rest k]

theorem mem_of_mem_pairs : ∀ {l : List α} {p : α × α}, p ∈ pairs l → p.1 ∈ l ∧ p.2 ∈ l
  | [], _, h => by simp at h
  | [_], _, h => by simp at h
  | a :: b :: rest, p, h => by
    rcases List.mem_cons.mp h with rfl | h
    · simp
    · obtain ⟨h1, h2⟩ := mem_of_mem_pairs h
      exact ⟨by simp [h1], by simp [h2]⟩

theorem mem_pairs_of_even : ∀ {l : List α} {c : α}, l.length % 2 = 0 → c ∈ l →
    ∃ p ∈ pairs l, c = p.1 ∨ c = p.2
  | [], _, _, h => by simp at h
  | [_], _, he, _ => by simp at he
  | a :: b :: rest, c, he, h => by
    have hr : rest.length % 2 = 0 := by
      simp only [List.length_cons] at he
      omega
    rcases List.mem_cons.mp h with rfl | h
    · exact ⟨(c, b), by simp, .inl rfl⟩
    rcases List.mem_cons.mp h with rfl | h
    · exact ⟨(a, c), by simp, .inr rfl⟩
    obtain ⟨p, hp, hc⟩ := mem_pairs_of_even hr h
    exact ⟨p, by simp [hp], hc⟩

end Interleaved
