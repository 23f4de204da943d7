import Mathlib.Data.List.Basic
import Mathlib.Data.Option.Basic

/-! # Runs of a partial step function

A system is a function from a state and an action to the next state, undefined where the action is
not enabled. Invariants are proved once for a step and then hold after every run; a condition on the
steps of a run is carried along it. -/
set_option autoImplicit false

namespace Transition
variable {σ α : Type*} {next : σ → α → Option σ}

/-! ## Runs -/

/-- The state after the actions, when each of them is enabled in its turn. -/
def run (next : σ → α → Option σ) : σ → List α → Option σ
  | s, [] => some s
  | s, a :: as => (next s a).bind fun t => run next t as

@[simp] theorem run_nil (s : σ) : run next s [] = some s := rfl

theorem run_cons {s t : σ} {a : α} {as : List α} :
    run next s (a :: as) = some t ↔ ∃ u, next s a = some u ∧ run next u as = some t :=
  Option.bind_eq_some_iff

theorem run_append {s t : σ} {as bs : List α} :
    run next s (as ++ bs) = some t ↔ ∃ u, run next s as = some u ∧ run next u bs = some t := by
  induction as generalizing s with
  | nil => simp
  | cons a as ih =>
    simp only [List.cons_append, run_cons, ih]
    constructor
    · rintro ⟨v, ha, u, has, hbs⟩
      exact ⟨u, ⟨v, ha, has⟩, hbs⟩
    · rintro ⟨u, ⟨v, ha, has⟩, hbs⟩
      exact ⟨v, ha, u, has, hbs⟩

/-! ## Invariants -/

/-- What every enabled step keeps holds after every run. -/
theorem run_invariant {I : σ → Prop} (hstep : ∀ s a t, I s → next s a = some t → I t) {s t : σ}
    {as : List α} (hs : I s) (h : run next s as = some t) : I t := by
  induction as generalizing s with
  | nil => cases h; exact hs
  | cons a as ih =>
    obtain ⟨u, ha, has⟩ := run_cons.mp h
    exact ih (hstep s a u hs ha) has

/-! ## Conditions along a run -/

/-- `C` holds of every step of the run, in the state in which the step is taken. -/
def Along (next : σ → α → Option σ) (C : σ → α → Prop) : σ → List α → Prop
  | _, [] => True
  | s, a :: as => C s a ∧ ∀ t, next s a = some t → Along next C t as

instance Along.decidable {C : σ → α → Prop} [∀ s a, Decidable (C s a)] :
    ∀ (s : σ) (as : List α), Decidable (Along next C s as)
  | _, [] => .isTrue trivial
  | s, a :: as =>
    match h : next s a with
    | none => decidable_of_iff (C s a) (by simp [Along, h])
    | some t =>
      have : Decidable (Along next C t as) := Along.decidable t as
      decidable_of_iff (C s a ∧ Along next C t as) (by simp [Along, h])

/-- The condition holds of a step that follows a run. -/
theorem along_append {C : σ → α → Prop} {s t : σ} {as : List α} {a : α}
    (h : Along next C s (as ++ [a])) (hrun : run next s as = some t) : C t a := by
  induction as generalizing s with
  | nil => cases hrun; exact h.1
  | cons b as ih =>
    obtain ⟨u, hb, has⟩ := run_cons.mp hrun
    exact ih (h.2 u hb) has

theorem along_prefix {C : σ → α → Prop} {s : σ} {as bs : List α} (h : Along next C s (as ++ bs)) :
    Along next C s as := by
  induction as generalizing s with
  | nil => trivial
  | cons a as ih => exact ⟨h.1, fun t ht => ih (h.2 t ht)⟩

theorem along_suffix {C : σ → α → Prop} {s t : σ} {as bs : List α} (h : Along next C s (as ++ bs))
    (hrun : run next s as = some t) : Along next C t bs := by
  induction as generalizing s with
  | nil => cases hrun; exact h
  | cons a as ih =>
    obtain ⟨u, ha, has⟩ := run_cons.mp hrun
    exact ih (h.2 u ha) has

theorem along_and {C D : σ → α → Prop} {s : σ} {as : List α} (hC : Along next C s as)
    (hD : Along next D s as) : Along next (fun u a => C u a ∧ D u a) s as := by
  induction as generalizing s with
  | nil => trivial
  | cons a as ih => exact ⟨⟨hC.1, hD.1⟩, fun t ht => ih (hC.2 t ht) (hD.2 t ht)⟩

theorem along_concat {C : σ → α → Prop} {s : σ} {as bs : List α} (has : Along next C s as)
    (hbs : ∀ t, run next s as = some t → Along next C t bs) : Along next C s (as ++ bs) := by
  induction as generalizing s with
  | nil => exact hbs s rfl
  | cons a as ih =>
    exact ⟨has.1, fun t ht => ih (has.2 t ht) fun u hu => hbs u (run_cons.mpr ⟨t, ht, hu⟩)⟩

theorem along_of_forall {C : σ → α → Prop} {as : List α} (h : ∀ a ∈ as, ∀ s, C s a) (s : σ) :
    Along next C s as := by
  induction as generalizing s with
  | nil => trivial
  | cons a as ih =>
    exact ⟨h a List.mem_cons_self s, fun t _ => ih (fun b hb => h b (List.mem_cons_of_mem _ hb)) t⟩

/-- What every step that meets the condition keeps holds after every run of such steps. -/
theorem along_invariant {C : σ → α → Prop} {I : σ → Prop}
    (hstep : ∀ s a t, I s → C s a → next s a = some t → I t) {s t : σ} {as : List α} (hs : I s)
    (hC : Along next C s as) (h : run next s as = some t) : I t := by
  induction as generalizing s with
  | nil => cases h; exact hs
  | cons a as ih =>
    obtain ⟨u, ha, has⟩ := run_cons.mp h
    exact ih (hstep s a u hs hC.1 ha) (hC.2 u ha) has

/-- Two conditions that agree in every state with the invariant agree along every run. -/
theorem along_congr {I : σ → Prop} {C D : σ → α → Prop}
    (hstep : ∀ s a t, I s → next s a = some t → I t) (hiff : ∀ s a, I s → (C s a ↔ D s a)) {s : σ}
    (hs : I s) (as : List α) : Along next C s as ↔ Along next D s as := by
  induction as generalizing s with
  | nil => exact Iff.rfl
  | cons a as ih =>
    refine and_congr (hiff s a hs) ?_
    constructor
    · intro h t ht
      exact (ih (hstep s a t hs ht)).mp (h t ht)
    · intro h t ht
      exact (ih (hstep s a t hs ht)).mpr (h t ht)

/-- A condition that, step by step, decides whether a property survives: it holds along a run exactly
when the property holds in every state on the way. -/
theorem along_iff_always {C : σ → α → Prop} {P : σ → Prop}
    (hstep : ∀ s a t, P s → next s a = some t → (C s a ↔ P t))
    (hdisabled : ∀ s a, next s a = none → C s a) {s : σ} (hs : P s) (as : List α) :
    Along next C s as ↔ ∀ bs t, bs <+: as → run next s bs = some t → P t := by
  induction as generalizing s with
  | nil =>
    refine iff_of_true trivial ?_
    intro bs t hbs hrun
    rw [List.prefix_nil.mp hbs] at hrun
    cases hrun
    exact hs
  | cons a as ih =>
    cases hnext : next s a with
    | none =>
      constructor
      · rintro - bs t hbs hrun
        cases bs with
        | nil =>
          cases hrun
          exact hs
        | cons b bs =>
          obtain ⟨rfl, -⟩ := List.cons_prefix_cons.mp hbs
          obtain ⟨u, hu, -⟩ := run_cons.mp hrun
          rw [hnext] at hu
          cases hu
      · intro _
        exact ⟨hdisabled s a hnext, fun t ht => by rw [hnext] at ht; cases ht⟩
    | some u =>
      have hone : run next s [a] = some u := run_cons.mpr ⟨u, hnext, rfl⟩
      constructor
      · rintro ⟨hC, hrest⟩ bs t hbs hrun
        cases bs with
        | nil =>
          cases hrun
          exact hs
        | cons b bs =>
          obtain ⟨rfl, htail⟩ := List.cons_prefix_cons.mp hbs
          obtain ⟨v, hv, hrun⟩ := run_cons.mp hrun
          have hPv := (hstep s b v hs hv).mp hC
          exact (ih hPv).mp (hrest v hv) bs t htail hrun
      · intro h
        have hPu : P u := h [a] u (List.cons_prefix_cons.mpr ⟨rfl, List.nil_prefix⟩) hone
        refine ⟨(hstep s a u hs hnext).mpr hPu, fun t ht => ?_⟩
        rw [hnext] at ht
        cases ht
        refine (ih hPu).mpr fun bs t hbs hrun => ?_
        exact h (a :: bs) t (List.cons_prefix_cons.mpr ⟨rfl, hbs⟩) (run_cons.mpr ⟨u, hnext, hrun⟩)

end Transition
