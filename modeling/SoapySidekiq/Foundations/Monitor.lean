import Mathlib.Data.List.Basic

/-! # Monitors

A monitor reads a trace of events from left to right. What it demands of each event, in the state that
the events before it have left, is kept when events are appended. -/
set_option autoImplicit false

namespace Monitor
variable {ε σ : Type*} {step : σ → ε → σ} {start : σ} {P : σ → ε → Prop}

/-- The state after a trace. -/
def after (step : σ → ε → σ) (start : σ) (trace : List ε) : σ := trace.foldl step start

@[simp] theorem after_append (trace events : List ε) :
    after step start (trace ++ events) = after step (after step start trace) events :=
  List.foldl_append

/-- Every event of the trace meets the demand in the state before it. -/
def Always (step : σ → ε → σ) (start : σ) (P : σ → ε → Prop) (trace : List ε) : Prop :=
  ∀ before e rest, trace = before ++ e :: rest → P (after step start before) e

theorem always_nil : Always step start P [] := by
  intro before e rest h
  simp at h

theorem always_snoc {trace : List ε} {e : ε} (h : Always step start P trace)
    (he : P (after step start trace) e) : Always step start P (trace ++ [e]) := by
  intro before f rest hsplit
  rcases List.eq_nil_or_concat rest with rfl | ⟨rest, g, rfl⟩
  · obtain ⟨rfl, hf⟩ := List.append_inj' hsplit rfl
    cases hf
    exact he
  · have hsplit' : trace ++ [e] = (before ++ f :: rest) ++ [g] := by simpa using hsplit
    obtain ⟨rfl, -⟩ := List.append_inj' hsplit' rfl
    exact h before f rest rfl

theorem always_of_snoc {trace : List ε} {e : ε} (h : Always step start P (trace ++ [e])) :
    Always step start P trace ∧ P (after step start trace) e :=
  ⟨fun before f rest hsplit => h before f (rest ++ [e]) (by rw [hsplit]; simp), h trace e [] rfl⟩

/-- Appended events that keep `I` and meet the demand wherever it holds. -/
theorem always_append {I : σ → Prop} {trace events : List ε} (h : Always step start P trace)
    (hI : I (after step start trace))
    (hevents : ∀ e ∈ events, ∀ s, I s → P s e ∧ I (step s e)) :
    Always step start P (trace ++ events) ∧ I (after step start (trace ++ events)) := by
  induction events generalizing trace with
  | nil => simpa using ⟨h, hI⟩
  | cons e events ih =>
    obtain ⟨he, hnext⟩ := hevents e List.mem_cons_self _ hI
    have hrest := @ih (trace ++ [e]) (always_snoc h he) (by simpa [after] using hnext)
      fun f hf => hevents f (List.mem_cons_of_mem _ hf)
    simpa using hrest

end Monitor
