import Mathlib.Data.Int.Notation
import Mathlib.Data.Nat.Notation
import Mathlib.Logic.Function.Basic

/-! # Registers behind writes that may fail

A write reports a status. With status 0 it has taken effect; with another status it may have taken
effect or not. What the writes do is an arbitrary sequence of outcomes, one for each write issued.
Restoring every register that was touched undoes any prefix of such writes, provided the restoring
writes take effect. -/
set_option autoImplicit false

namespace RegisterBank

structure Outcome where
  status : ℤ
  applied : Bool
deriving DecidableEq, Repr

def Outcome.takesEffect (o : Outcome) : Bool := o.status == 0 || o.applied

structure Bank (K : Type) (V : K → Type) where
  value : (k : K) → V k
  /-- The writes issued so far, oldest first, whatever became of them. -/
  writes : List (Sigma V)

variable {K : Type} [DecidableEq K] {V : K → Type}

def write (outcome : ℕ → Outcome) (k : K) (v : V k) (b : Bank K V) : ℤ × Bank K V :=
  let o := outcome b.writes.length
  (o.status,
    { value := if o.takesEffect then Function.update b.value k v else b.value
      writes := b.writes ++ [⟨k, v⟩] })

def writeAll (outcome : ℕ → Outcome) : List (Sigma V) → Bank K V → Bank K V
  | [], b => b
  | w :: ws, b => writeAll outcome ws (write outcome w.1 w.2 b).2

/-- The writes numbered from `n` on, as many as `ws` has, all take effect. -/
def Effective (outcome : ℕ → Outcome) (n : ℕ) (ws : List (Sigma V)) : Prop :=
  ∀ i < ws.length, (outcome (n + i)).takesEffect = true

/-- The writes numbered from `n` on, as many as `ws` has, all report success. -/
def Succeeded (outcome : ℕ → Outcome) (n : ℕ) (ws : List (Sigma V)) : Prop :=
  ∀ i < ws.length, (outcome (n + i)).status = 0

omit [DecidableEq K] in
theorem Succeeded.effective {outcome : ℕ → Outcome} {n : ℕ} {ws : List (Sigma V)}
    (h : Succeeded outcome n ws) : Effective outcome n ws := by
  intro i hi
  simp [Outcome.takesEffect, h i hi]

omit [DecidableEq K] in
@[simp] theorem succeeded_nil (outcome : ℕ → Outcome) (n : ℕ) :
    Succeeded outcome n ([] : List (Sigma V)) := by
  intro i hi
  cases hi

omit [DecidableEq K] in
theorem succeeded_append {outcome : ℕ → Outcome} {n : ℕ} {xs ys : List (Sigma V)} :
    Succeeded outcome n (xs ++ ys) ↔
      Succeeded outcome n xs ∧ Succeeded outcome (n + xs.length) ys := by
  constructor
  · intro h
    refine ⟨fun i hi => h i (by simp; omega), fun i hi => ?_⟩
    rw [Nat.add_assoc]
    exact h _ (by simp; omega)
  · rintro ⟨hxs, hys⟩ i hi
    by_cases hlt : i < xs.length
    · exact hxs i hlt
    · have := hys (i - xs.length) (by simp at hi; omega)
      rwa [show n + xs.length + (i - xs.length) = n + i by omega] at this

omit [DecidableEq K] in
theorem succeeded_singleton {outcome : ℕ → Outcome} {n : ℕ} {w : Sigma V} :
    Succeeded outcome n [w] ↔ (outcome n).status = 0 := by
  constructor
  · intro h
    exact h 0 (by simp)
  · intro h i hi
    obtain rfl : i = 0 := by simpa using hi
    exact h

/-! ## One write -/

@[simp] theorem write_writes (outcome : ℕ → Outcome) (k : K) (v : V k) (b : Bank K V) :
    (write outcome k v b).2.writes = b.writes ++ [⟨k, v⟩] := rfl

theorem write_status (outcome : ℕ → Outcome) (k : K) (v : V k) (b : Bank K V) :
    (write outcome k v b).1 = (outcome b.writes.length).status := rfl

theorem write_other {outcome : ℕ → Outcome} {k j : K} {v : V k} {b : Bank K V} (h : j ≠ k) :
    (write outcome k v b).2.value j = b.value j := by
  simp only [write]
  split
  · exact Function.update_of_ne h _ _
  · rfl

theorem write_effective {outcome : ℕ → Outcome} {k : K} {v : V k} {b : Bank K V}
    (h : (outcome b.writes.length).takesEffect = true) :
    (write outcome k v b).2.value = Function.update b.value k v := by
  simp only [write, h, if_true]

theorem write_succeeded {outcome : ℕ → Outcome} {k : K} {v : V k} {b : Bank K V}
    (h : (write outcome k v b).1 = 0) :
    (write outcome k v b).2.value = Function.update b.value k v := by
  apply write_effective
  rw [write_status] at h
  simp [Outcome.takesEffect, h]

/-! ## Several writes -/

theorem writeAll_append (outcome : ℕ → Outcome) (xs ys : List (Sigma V)) (b : Bank K V) :
    writeAll outcome (xs ++ ys) b = writeAll outcome ys (writeAll outcome xs b) := by
  induction xs generalizing b with
  | nil => rfl
  | cons x xs ih => exact ih _

@[simp] theorem writeAll_writes (outcome : ℕ → Outcome) (ws : List (Sigma V)) (b : Bank K V) :
    (writeAll outcome ws b).writes = b.writes ++ ws := by
  induction ws generalizing b with
  | nil => simp [writeAll]
  | cons w ws ih => simp [writeAll, ih]

theorem writeAll_other {outcome : ℕ → Outcome} {ws : List (Sigma V)} {b : Bank K V} {j : K}
    (h : ∀ w ∈ ws, w.1 ≠ j) : (writeAll outcome ws b).value j = b.value j := by
  induction ws generalizing b with
  | nil => rfl
  | cons w ws ih =>
    rw [writeAll, ih fun x hx => h x (List.mem_cons_of_mem _ hx)]
    exact write_other (h w List.mem_cons_self).symm

/-- Writes of the values of `base` that all take effect leave those values in the registers that
they name. -/
theorem writeAll_restores {outcome : ℕ → Outcome} {ws : List (Sigma V)} {b : Bank K V}
    (base : (k : K) → V k) (hbase : ∀ w ∈ ws, w.2 = base w.1)
    (heffective : Effective outcome b.writes.length ws) {j : K}
    (hj : b.value j = base j ∨ ∃ w ∈ ws, w.1 = j) :
    (writeAll outcome ws b).value j = base j := by
  induction ws generalizing b with
  | nil =>
    obtain hj | ⟨w, hw, -⟩ := hj
    · exact hj
    · cases hw
  | cons w ws ih =>
    have hfirst : (outcome b.writes.length).takesEffect = true := by
      simpa using heffective 0 (by simp)
    have hrest : Effective outcome (write outcome w.1 w.2 b).2.writes.length ws := by
      intro i hi
      have hnext := heffective (i + 1) (by simpa using hi)
      simpa [Nat.add_assoc, Nat.add_comm 1 i] using hnext
    refine ih (fun x hx => hbase x (List.mem_cons_of_mem _ hx)) hrest ?_
    rw [write_effective hfirst]
    by_cases hw : w.1 = j
    · subst hw
      exact Or.inl (by rw [Function.update_self]; exact hbase w List.mem_cons_self)
    · rw [Function.update_of_ne (Ne.symm hw)]
      refine hj.imp_right ?_
      rintro ⟨x, hx, rfl⟩
      rcases List.mem_cons.mp hx with rfl | hx
      · exact absurd rfl hw
      · exact ⟨x, hx, rfl⟩

/-- Compensation: `attempted` may have left its registers in any state, and the writes of `restoring`
put the old value back into each of them. -/
theorem compensated {outcome : ℕ → Outcome} {attempted restoring : List (Sigma V)} {b : Bank K V}
    (hold : ∀ w ∈ restoring, w.2 = b.value w.1)
    (hcover : ∀ w ∈ attempted, ∃ r ∈ restoring, r.1 = w.1)
    (heffective : Effective outcome (b.writes.length + attempted.length) restoring) :
    (writeAll outcome (attempted ++ restoring) b).value = b.value := by
  rw [writeAll_append]
  funext j
  refine writeAll_restores _ hold (by simpa using heffective) ?_
  by_cases hj : ∃ w ∈ attempted, w.1 = j
  · obtain ⟨w, hw, rfl⟩ := hj
    exact Or.inr (hcover w hw)
  · exact Or.inl (writeAll_other fun w hw hw' => hj ⟨w, hw, hw'⟩)

end RegisterBank
