import Mathlib.Data.List.Basic

/-! # Threads in a list

Threads are numbered by their places in a list and one of them moves at a time. What a move does to a
property of every thread, and to the number of threads with a property. -/
set_option autoImplicit false

namespace ThreadPool
variable {α : Type*}

/-! ## Properties of every thread -/

theorem forall_set {P : α → Prop} {l : List α} (h : ∀ x ∈ l, P x) {a : α} (ha : P a) (i : ℕ) :
    ∀ x ∈ l.set i a, P x := by
  intro x hx
  rcases List.mem_or_eq_of_mem_set hx with hx | rfl
  · exact h x hx
  · exact ha

theorem forall_append {P : α → Prop} {l : List α} (h : ∀ x ∈ l, P x) {a : α} (ha : P a) :
    ∀ x ∈ l ++ [a], P x := by
  intro x hx
  rcases List.mem_append.mp hx with hx | hx
  · exact h x hx
  · rw [List.mem_singleton.mp hx]; exact ha

theorem forall_map {P : α → Prop} {l : List α} {f : α → α} (h : ∀ x ∈ l, P x)
    (hf : ∀ x, P x → P (f x)) : ∀ x ∈ l.map f, P x := by
  intro x hx
  obtain ⟨y, hy, rfl⟩ := List.mem_map.mp hx
  exact hf y (h y hy)

/-! ## Counting threads -/

/-- The number of threads with the property, before and after one of them moves. -/
theorem countP_set {p : α → Bool} {l : List α} {i : ℕ} {a b : α} (h : l[i]? = some a) :
    (l.set i b).countP p + (p a).toNat = l.countP p + (p b).toNat := by
  obtain ⟨hi, rfl⟩ := List.getElem?_eq_some_iff.mp h
  have hpos : p l[i] = true → 0 < l.countP p := fun hp =>
    List.countP_pos_iff.mpr ⟨_, List.getElem_mem hi, hp⟩
  rw [List.countP_set hi]
  cases hp : p l[i] with
  | false => cases p b <;> simp
  | true =>
    have := hpos hp
    cases p b <;> simp <;> omega

theorem countP_map {p : α → Bool} {f : α → α} (hf : ∀ x, p (f x) = p x) (l : List α) :
    (l.map f).countP p = l.countP p := by
  rw [List.countP_map]
  exact List.countP_congr fun x _ => by simp [hf x]

theorem countP_pos {p : α → Bool} {l : List α} {i : ℕ} {a : α} (h : l[i]? = some a)
    (ha : p a = true) : 0 < l.countP p :=
  List.countP_pos_iff.mpr ⟨a, List.mem_of_getElem? h, ha⟩

/-- Two places of a property that at most one thread has are one place. -/
theorem unique_of_countP {p : α → Bool} {l : List α} (h : l.countP p ≤ 1) {i j : ℕ} {a b : α}
    (hi : l[i]? = some a) (ha : p a = true) (hj : l[j]? = some b) (hb : p b = true) : i = j := by
  induction l generalizing i j with
  | nil => simp at hi
  | cons x l ih =>
    rw [List.countP_cons] at h
    cases i with
    | zero =>
      cases j with
      | zero => rfl
      | succ j =>
        obtain rfl : x = a := by simpa using hi
        have := countP_pos (l := l) (by simpa using hj) hb
        simp only [ha, if_true] at h
        omega
    | succ i =>
      cases j with
      | zero =>
        obtain rfl : x = b := by simpa using hj
        have := countP_pos (l := l) (by simpa using hi) ha
        simp only [hb, if_true] at h
        omega
      | succ j =>
        exact congrArg Nat.succ (ih (Nat.le_trans (Nat.le_add_right _ _) h) (by simpa using hi)
          (by simpa using hj))

theorem not_of_countP_zero {p : α → Bool} {l : List α} (h : l.countP p = 0) :
    ∀ x ∈ l, p x = false := by
  intro x hx
  exact Bool.eq_false_iff.mpr (List.countP_eq_zero.mp h x hx)

/-! ## Sums over some of the threads -/

/-- The sum of `f` over the threads with the numbers in `mine`, when the first one has number `k`. -/
def sumFrom (mine : ℕ → Bool) (f : α → ℕ) : ℕ → List α → ℕ
  | _, [] => 0
  | k, a :: l => (if mine k then f a else 0) + sumFrom mine f (k + 1) l

variable {mine : ℕ → Bool} {f g : α → ℕ}

theorem sumFrom_nil (k : ℕ) : sumFrom mine f k [] = 0 := rfl

theorem sumFrom_cons (k : ℕ) (a : α) (l : List α) :
    sumFrom mine f k (a :: l) = (if mine k then f a else 0) + sumFrom mine f (k + 1) l := rfl

theorem sumFrom_set (mine : ℕ → Bool) (f : α → ℕ) (k : ℕ) {i : ℕ} {l : List α} {a : α} (b : α)
    (h : l[i]? = some a) :
    sumFrom mine f k (l.set i b) + (if mine (k + i) then f a else 0) =
      sumFrom mine f k l + if mine (k + i) then f b else 0 := by
  induction l generalizing k i with
  | nil => simp at h
  | cons x l ih =>
    cases i with
    | zero =>
      obtain rfl : x = a := by simpa using h
      simp only [List.set_cons_zero, sumFrom_cons, Nat.add_zero]
      omega
    | succ i =>
      have hrest := ih (k := k + 1) (by simpa using h)
      rw [Nat.add_assoc, Nat.add_comm 1 i] at hrest
      simp only [List.set_cons_succ, sumFrom_cons]
      omega

theorem sumFrom_concat (k : ℕ) (l : List α) (a : α) :
    sumFrom mine f k (l ++ [a]) = sumFrom mine f k l + if mine (k + l.length) then f a else 0 := by
  induction l generalizing k with
  | nil => simp [sumFrom_nil, sumFrom_cons]
  | cons x l ih =>
    rw [List.cons_append, sumFrom_cons, sumFrom_cons, ih, List.length_cons, Nat.add_assoc k 1,
      Nat.add_comm 1]
    omega

theorem sumFrom_map {h : α → α} (hf : ∀ x, f (h x) = f x) (k : ℕ) (l : List α) :
    sumFrom mine f k (l.map h) = sumFrom mine f k l := by
  induction l generalizing k with
  | nil => rfl
  | cons x l ih => rw [List.map_cons, sumFrom_cons, sumFrom_cons, hf, ih]

theorem sumFrom_congr {k : ℕ} {l : List α}
    (h : ∀ i a, l[i]? = some a → mine (k + i) = true → f a = g a) :
    sumFrom mine f k l = sumFrom mine g k l := by
  induction l generalizing k with
  | nil => rfl
  | cons x l ih =>
    have hrest := ih (k := k + 1) fun i a hi hmine =>
      h (i + 1) a (by simpa using hi) (by rwa [Nat.add_assoc, Nat.add_comm 1] at hmine)
    rw [sumFrom_cons, sumFrom_cons, hrest]
    split
    · next hmine => rw [h 0 x rfl hmine]
    · rfl

theorem sumFrom_mul (k m : ℕ) (l : List α) :
    sumFrom mine (fun a => f a * m) k l = sumFrom mine f k l * m := by
  induction l generalizing k with
  | nil => simp [sumFrom_nil]
  | cons x l ih =>
    rw [sumFrom_cons, sumFrom_cons, ih, Nat.add_mul]
    split <;> simp

end ThreadPool
