import Mathlib.Data.List.Basic
import Mathlib.Data.Nat.Notation

/-! # Procedures with exceptions, questions and diagnostics

A sequential procedure over a state. It records what it does, asks the environment questions, which the
environment answers while it changes the state in whatever way it wants, and emits diagnostics to a
sink, each of which may throw. Two relations on procedures: what they record, and whether it shows in
anything but the number of diagnostics which of them threw. -/
set_option autoImplicit false

/-- What a procedure runs against: the answers to its questions, by their number and the state, and
what the emissions of diagnostics throw, by their number. -/
structure World (σ ρ ε : Type) where
  answer : ℕ → σ → ρ × σ
  sink : ℕ → Option ε

/-- Where a run stands. -/
structure Progress (ω σ : Type) where
  state : σ
  trace : List ω
  asked : ℕ
  emitted : ℕ

/-- A procedure that returns an `α` or throws an `ε`. -/
def Procedure (ω σ ρ ε α : Type) : Type := World σ ρ ε → Progress ω σ → Except ε α × Progress ω σ

namespace Procedure
variable {ω σ ρ ε α β : Type}

/-! ## Statements -/

instance : Monad (Procedure ω σ ρ ε) where
  pure a := fun _ r => (.ok a, r)
  bind p f := fun w r =>
    match p w r with
    | (.ok a, r) => f a w r
    | (.error e, r) => (.error e, r)

/-- `throw`. -/
def fail (e : ε) : Procedure ω σ ρ ε α := fun _ r => (.error e, r)

/-- A computation that touches nothing. -/
def lift (x : Except ε α) : Procedure ω σ ρ ε α := fun _ r => (x, r)

def get : Procedure ω σ ρ ε σ := fun _ r => (.ok r.state, r)

def update (f : σ → σ) : Procedure ω σ ρ ε Unit := fun _ r => (.ok (), { r with state := f r.state })

def record (events : List ω) : Procedure ω σ ρ ε Unit :=
  fun _ r => (.ok (), { r with trace := r.trace ++ events })

/-- A question to the environment. -/
def ask : Procedure ω σ ρ ε ρ := fun w r =>
  (.ok (w.answer r.asked r.state).1,
    { r with state := (w.answer r.asked r.state).2, asked := r.asked + 1 })

/-- The emission of one diagnostic. -/
def emit : Procedure ω σ ρ ε Unit := fun w r =>
  (match w.sink r.emitted with
    | some e => .error e
    | none => .ok (), { r with emitted := r.emitted + 1 })

/-- `try` and `catch`: the handler passes on what it does not catch. -/
def handle (p : Procedure ω σ ρ ε α) (handler : ε → Procedure ω σ ρ ε α) : Procedure ω σ ρ ε α :=
  fun w r =>
    match p w r with
    | (.ok a, r) => (.ok a, r)
    | (.error e, r) => handler e w r

/-- A guard that runs its cleanup when the scope is left by an exception. -/
def guarded (body : Procedure ω σ ρ ε α) (cleanup : Procedure ω σ ρ ε Unit) : Procedure ω σ ρ ε α :=
  body.handle fun e => do
    cleanup
    fail e

/-- A guard that runs its cleanup however the scope is left. -/
def ensuring (body : Procedure ω σ ρ ε α) (cleanup : Procedure ω σ ρ ε Unit) :
    Procedure ω σ ρ ε α := do
  let a ← body.guarded cleanup
  cleanup
  pure a

/-- What a statement throws is dropped. -/
def contained (p : Procedure ω σ ρ ε Unit) : Procedure ω σ ρ ε Unit := p.handle fun _ => pure ()

/-! ## Runs -/

theorem bind_ok {p : Procedure ω σ ρ ε α} {f : α → Procedure ω σ ρ ε β} {w : World σ ρ ε}
    {r r' : Progress ω σ} {a : α} (h : p w r = (.ok a, r')) : (p >>= f) w r = f a w r' := by
  simp only [bind, h]

theorem bind_error {p : Procedure ω σ ρ ε α} {f : α → Procedure ω σ ρ ε β} {w : World σ ρ ε}
    {r r' : Progress ω σ} {e : ε} (h : p w r = (.error e, r')) : (p >>= f) w r = (.error e, r') := by
  simp only [bind, h]

theorem emit_cases (w : World σ ρ ε) (r : Progress ω σ) :
    (emit : Procedure ω σ ρ ε Unit) w r = (.ok (), { r with emitted := r.emitted + 1 }) ∨
      ∃ e, (emit : Procedure ω σ ρ ε Unit) w r = (.error e, { r with emitted := r.emitted + 1 }) := by
  cases hsink : w.sink r.emitted with
  | none => exact .inl (by simp only [emit, hsink])
  | some e => exact .inr ⟨e, by simp only [emit, hsink]⟩

theorem discard_ok {p : Procedure ω σ ρ ε α} {w : World σ ρ ε} {r r' : Progress ω σ} {a : α}
    (h : p w r = (.ok a, r')) : discard p w r = (.ok (), r') := by
  change (p >>= _) w r = _
  exact bind_ok h

theorem discard_error {p : Procedure ω σ ρ ε α} {w : World σ ρ ε} {r r' : Progress ω σ} {e : ε}
    (h : p w r = (.error e, r')) : discard p w r = (.error e, r') := by
  change (p >>= _) w r = _
  exact bind_error h

theorem guarded_ok {body : Procedure ω σ ρ ε α} {cleanup : Procedure ω σ ρ ε Unit}
    {w : World σ ρ ε} {r r' : Progress ω σ} {a : α} (h : body w r = (.ok a, r')) :
    body.guarded cleanup w r = (.ok a, r') := by
  simp only [guarded, handle, h]

theorem guarded_error {body : Procedure ω σ ρ ε α} {cleanup : Procedure ω σ ρ ε Unit}
    {w : World σ ρ ε} {r r' r'' : Progress ω σ} {e : ε} (h : body w r = (.error e, r'))
    (hcleanup : cleanup w r' = (.ok (), r'')) :
    body.guarded cleanup w r = (.error e, r'') := by
  simp only [guarded, handle, h]
  exact bind_ok hcleanup

/-! ## What a procedure records -/

/-- Every event that the procedure records is a `P`. -/
def Records (P : ω → Prop) (p : Procedure ω σ ρ ε α) : Prop :=
  ∀ w r, ∃ events, (p w r).2.trace = r.trace ++ events ∧ ∀ e ∈ events, P e

variable {P : ω → Prop}

theorem records_pure (a : α) : Records P (pure a : Procedure ω σ ρ ε α) :=
  fun _ _ => ⟨[], (List.append_nil _).symm, by simp⟩

theorem records_fail (e : ε) : Records P (fail e : Procedure ω σ ρ ε α) :=
  fun _ _ => ⟨[], (List.append_nil _).symm, by simp⟩

theorem records_lift (x : Except ε α) : Records P (lift x : Procedure ω σ ρ ε α) :=
  fun _ _ => ⟨[], (List.append_nil _).symm, by simp⟩

theorem records_ask : Records P (ask : Procedure ω σ ρ ε ρ) :=
  fun _ _ => ⟨[], (List.append_nil _).symm, by simp⟩

theorem records_emit : Records P (emit : Procedure ω σ ρ ε Unit) :=
  fun _ _ => ⟨[], (List.append_nil _).symm, by simp⟩

theorem records_record {events : List ω} (h : ∀ e ∈ events, P e) :
    Records P (record events : Procedure ω σ ρ ε Unit) :=
  fun _ _ => ⟨events, rfl, h⟩

theorem records_bind {p : Procedure ω σ ρ ε α} {f : α → Procedure ω σ ρ ε β} (hp : Records P p)
    (hf : ∀ a, Records P (f a)) : Records P (p >>= f) := by
  intro w r
  obtain ⟨first, htrace, hfirst⟩ := hp w r
  simp only [bind]
  split
  · next a r' heq =>
    rw [heq] at htrace
    obtain ⟨events, hrest, hevents⟩ := hf a w r'
    refine ⟨first ++ events, by rw [hrest, htrace, List.append_assoc], fun e he => ?_⟩
    exact (List.mem_append.mp he).elim (hfirst e) (hevents e)
  · next e r' heq =>
    rw [heq] at htrace
    exact ⟨first, htrace, hfirst⟩

theorem records_discard {p : Procedure ω σ ρ ε α} (h : Records P p) : Records P (discard p) :=
  records_bind h fun _ => records_pure _

theorem records_forM {γ : Type} {l : List γ} {f : γ → Procedure ω σ ρ ε Unit}
    (h : ∀ c ∈ l, Records P (f c)) : Records P (l.forM f) := by
  induction l with
  | nil => exact records_pure ()
  | cons c l ih =>
    exact records_bind (h c List.mem_cons_self) fun _ => ih fun c' hc' => h c' (List.mem_cons_of_mem _ hc')

/-! ## What a procedure returns -/

/-- Whatever it runs against, what the procedure returns, if it returns, is a `P`. -/
def Returns (P : α → Prop) (p : Procedure ω σ ρ ε α) : Prop :=
  ∀ w r a r', p w r = (.ok a, r') → P a

theorem returns_pure {P : α → Prop} {a : α} (h : P a) : Returns P (pure a : Procedure ω σ ρ ε α) := by
  rintro w r a' r' hrun
  cases hrun
  exact h

theorem returns_lift {P : α → Prop} {x : Except ε α} (h : ∀ a, x = .ok a → P a) :
    Returns P (lift x : Procedure ω σ ρ ε α) := by
  rintro w r a r' hrun
  exact h a (congrArg Prod.fst hrun)

theorem returns_bind {P : β → Prop} (Q : α → Prop) {p : Procedure ω σ ρ ε α}
    {f : α → Procedure ω σ ρ ε β} (hp : Returns Q p) (hf : ∀ a, Q a → Returns P (f a)) :
    Returns P (p >>= f) := by
  intro w r b r' hrun
  rcases hfirst : p w r with ⟨result, r₁⟩
  cases result with
  | error e =>
    rw [bind_error hfirst] at hrun
    cases hrun
  | ok a =>
    rw [bind_ok hfirst] at hrun
    exact hf a (hp w r a r₁ hfirst) w r₁ b r' hrun

/-- What comes before matters only in that it returns. -/
theorem returns_then {P : β → Prop} {p : Procedure ω σ ρ ε α} {f : α → Procedure ω σ ρ ε β}
    (hf : ∀ a, Returns P (f a)) : Returns P (p >>= f) :=
  returns_bind (fun _ => True) (fun _ _ _ _ _ => trivial) fun a _ => hf a

theorem returns_guarded {P : α → Prop} {body : Procedure ω σ ρ ε α}
    {cleanup : Procedure ω σ ρ ε Unit} (h : Returns P body) : Returns P (body.guarded cleanup) := by
  intro w r a r' hrun
  rcases hbody : body w r with ⟨result, r₁⟩
  cases result with
  | ok b =>
    rw [guarded_ok hbody] at hrun
    cases hrun
    exact h w r _ _ hbody
  | error e =>
    simp only [guarded, handle, hbody, bind, fail] at hrun
    split at hrun <;> cases hrun

/-! ## Blindness to the sink -/

/-- Two runs that differ at most in the number of diagnostics. -/
structure Agree (r r' : Progress ω σ) : Prop where
  state : r.state = r'.state
  trace : r.trace = r'.trace
  asked : r.asked = r'.asked

/-- Whatever the diagnostics throw, the procedure does and returns the same. -/
def Blind (p : Procedure ω σ ρ ε α) : Prop :=
  ∀ answer sink sink' r r', Agree r r' →
    (p ⟨answer, sink⟩ r).1 = (p ⟨answer, sink'⟩ r').1 ∧ Agree (p ⟨answer, sink⟩ r).2 (p ⟨answer, sink'⟩ r').2

/-- Whatever the diagnostics throw, the procedure does the same, though it may throw or return. -/
def BlindEffects (p : Procedure ω σ ρ ε α) : Prop :=
  ∀ answer sink sink' r r', Agree r r' → Agree (p ⟨answer, sink⟩ r).2 (p ⟨answer, sink'⟩ r').2

theorem Blind.effects {p : Procedure ω σ ρ ε α} (h : Blind p) : BlindEffects p :=
  fun answer sink sink' r r' hr => (h answer sink sink' r r' hr).2

theorem blind_pure (a : α) : Blind (pure a : Procedure ω σ ρ ε α) :=
  fun _ _ _ _ _ hr => ⟨rfl, hr⟩

theorem blind_fail (e : ε) : Blind (fail e : Procedure ω σ ρ ε α) :=
  fun _ _ _ _ _ hr => ⟨rfl, hr⟩

theorem blind_lift (x : Except ε α) : Blind (lift x : Procedure ω σ ρ ε α) :=
  fun _ _ _ _ _ hr => ⟨rfl, hr⟩

theorem blind_get : Blind (get : Procedure ω σ ρ ε σ) :=
  fun _ _ _ _ _ hr => ⟨congrArg Except.ok hr.state, hr⟩

theorem blind_update (f : σ → σ) : Blind (update f : Procedure ω σ ρ ε Unit) :=
  fun _ _ _ _ _ hr => ⟨rfl, congrArg f hr.state, hr.trace, hr.asked⟩

theorem blind_record (events : List ω) : Blind (record events : Procedure ω σ ρ ε Unit) :=
  fun _ _ _ _ _ hr => ⟨rfl, hr.state, congrArg (· ++ events) hr.trace, hr.asked⟩

theorem blind_ask : Blind (ask : Procedure ω σ ρ ε ρ) := by
  rintro answer sink sink' ⟨state, trace, asked, emitted⟩ ⟨state', trace', asked', emitted'⟩ ⟨hs, ht, ha⟩
  obtain rfl : state = state' := hs
  obtain rfl : trace = trace' := ht
  obtain rfl : asked = asked' := ha
  exact ⟨rfl, rfl, rfl, rfl⟩

theorem effects_emit : BlindEffects (emit : Procedure ω σ ρ ε Unit) :=
  fun _ _ _ _ _ hr => ⟨hr.state, hr.trace, hr.asked⟩

theorem blind_bind {p : Procedure ω σ ρ ε α} {f : α → Procedure ω σ ρ ε β} (hp : Blind p)
    (hf : ∀ a, Blind (f a)) : Blind (p >>= f) := by
  intro answer sink sink' r r' hr
  obtain ⟨hresult, hagree⟩ := hp answer sink sink' r r' hr
  simp only [bind]
  rcases hrun : p ⟨answer, sink⟩ r with ⟨result, r₁⟩
  rcases hrun' : p ⟨answer, sink'⟩ r' with ⟨result', r₁'⟩
  rw [hrun, hrun'] at hresult hagree
  obtain rfl : result = result' := hresult
  cases result with
  | ok a => exact hf a answer sink sink' r₁ r₁' hagree
  | error e => exact ⟨rfl, hagree⟩

theorem blind_discard {p : Procedure ω σ ρ ε α} (h : Blind p) : Blind (discard p) :=
  blind_bind h fun _ => blind_pure _

theorem blind_ite {c : Prop} [Decidable c] {p q : Procedure ω σ ρ ε α} (hp : Blind p) (hq : Blind q) :
    Blind (if c then p else q) := by
  split
  · exact hp
  · exact hq

/-- A procedure that may throw last, after everything that it does. -/
theorem effects_bind {p : Procedure ω σ ρ ε α} {f : α → Procedure ω σ ρ ε β} (hp : Blind p)
    (hf : ∀ a, BlindEffects (f a)) : BlindEffects (p >>= f) := by
  intro answer sink sink' r r' hr
  obtain ⟨hresult, hagree⟩ := hp answer sink sink' r r' hr
  simp only [bind]
  rcases hrun : p ⟨answer, sink⟩ r with ⟨result, r₁⟩
  rcases hrun' : p ⟨answer, sink'⟩ r' with ⟨result', r₁'⟩
  rw [hrun, hrun'] at hresult hagree
  obtain rfl : result = result' := hresult
  cases result with
  | ok a => exact hf a answer sink sink' r₁ r₁' hagree
  | error e => exact hagree

theorem blind_handle {p : Procedure ω σ ρ ε α} {handler : ε → Procedure ω σ ρ ε α} (hp : Blind p)
    (hhandler : ∀ e, Blind (handler e)) : Blind (p.handle handler) := by
  intro answer sink sink' r r' hr
  obtain ⟨hresult, hagree⟩ := hp answer sink sink' r r' hr
  simp only [handle]
  rcases hrun : p ⟨answer, sink⟩ r with ⟨result, r₁⟩
  rcases hrun' : p ⟨answer, sink'⟩ r' with ⟨result', r₁'⟩
  rw [hrun, hrun'] at hresult hagree
  obtain rfl : result = result' := hresult
  cases result with
  | ok a => exact ⟨rfl, hagree⟩
  | error e => exact hhandler e answer sink sink' r₁ r₁' hagree

/-- Nothing of what is contained shows. -/
theorem blind_contained {p : Procedure ω σ ρ ε Unit} (hp : BlindEffects p) : Blind p.contained := by
  intro answer sink sink' r r' hr
  have hagree := hp answer sink sink' r r' hr
  simp only [contained, handle]
  rcases hrun : p ⟨answer, sink⟩ r with ⟨result, r₁⟩
  rcases hrun' : p ⟨answer, sink'⟩ r' with ⟨result', r₁'⟩
  rw [hrun, hrun'] at hagree
  cases result <;> cases result' <;> exact ⟨rfl, hagree⟩

theorem blind_guarded {body : Procedure ω σ ρ ε α} {cleanup : Procedure ω σ ρ ε Unit}
    (hbody : Blind body) (hcleanup : Blind cleanup) : Blind (body.guarded cleanup) :=
  blind_handle hbody fun e => blind_bind hcleanup fun _ => blind_fail e

theorem blind_ensuring {body : Procedure ω σ ρ ε α} {cleanup : Procedure ω σ ρ ε Unit}
    (hbody : Blind body) (hcleanup : Blind cleanup) : Blind (body.ensuring cleanup) :=
  blind_bind (blind_guarded hbody hcleanup) fun a => blind_bind hcleanup fun _ => blind_pure a

end Procedure
