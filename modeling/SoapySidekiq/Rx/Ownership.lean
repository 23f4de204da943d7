import SoapySidekiq.Rx.SessionInvariant

/-! # Who owns the RX hardware

The session's `active_` flag follows the backend: it is set from a successful start until a stop
confirms. Callbacks and starts run only while nothing is owned, so the timing that a running
activation captured stays the timing of the device. -/
set_option autoImplicit false

namespace SoapySidekiq
open Transition
variable {α τ : Type}

namespace SessionWorld

/-! ## The contract -/

/-- The call is in the backend's start or in a callback. -/
def exclusive : LifecyclePc τ → Bool
  | .preparing _ | .configuring | .starting _ _ => true
  | _ => false

/-- The handle with which the call is in the backend's stop. -/
def stopCall (w : SessionWorld α τ) : Option UInt32 :=
  match w.pc with
  | .rollbackStop c _ => some c.handle
  | .stopping _ _ => some w.session.activeConfiguration.handle
  | _ => none

structure Contract (w : SessionWorld α τ) : Prop where
  active : w.pc = .free → (w.session.active = true ↔ (unconfirmedStart w.backend).isSome = true)
  start : exclusive w.pc = true → unconfirmedStart w.backend = none ∧ w.joinable = false
  stop : ∀ handle, w.stopCall = some handle → unconfirmedStart w.backend = some handle
  /-- No worker was created while another one existed. -/
  oneWorker : w.terminated = false
  worker : w.joinable = true → w.session.active = true ∨ aboutToJoin w.pc = true
  deactivated : ∀ o, w.pc = .free → w.outcome = some (.deactivate, o) →
    w.session.running = false ∧ w.joinable = false
  rejected : ∀ kind e, w.pc = .free → w.outcome = some (kind, .rejected e) → w.effects = []
  invalid : ∀ kind e, w.pc = .free → w.outcome = some (kind, .invalid e) →
    Effect.start ∉ w.effects ∧ .stop ∉ w.effects
  /-- What the running activation captured is what its callback would capture now. -/
  snapshot : ∀ p, w.prepared = some p → w.owned = true →
    p w.timing = .ok w.session.activeConfiguration ∧
    ∀ worker, w.session.receiveThread = some worker →
      worker.configuration = w.session.activeConfiguration

theorem Ownership.contract {w : SessionWorld α τ} (h : w.Ownership) : w.Contract where
  active := by
    intro _
    rw [h.backend]
    cases w.session.active <;> simp
  start := by
    intro hx
    have hat := h.atPc
    have hboth : w.owned = false → unconfirmedStart w.backend = none ∧ w.joinable = false :=
      fun ho => ⟨(owned_cases h ho).2.2, (owned_cases h ho).2.1⟩
    cases hpc : w.pc with
    | preparing p => rw [hpc] at hat; exact hboth hat.1
    | configuring => rw [hpc] at hat; exact hboth hat
    | starting c p => rw [hpc] at hat; exact hboth hat.1
    | _ => rw [hpc] at hx; cases hx
  stop := by
    intro handle hs
    have hat := h.atPc
    rw [h.backend]
    unfold stopCall at hs
    cases hpc : w.pc with
    | rollbackStop c e =>
      rw [hpc] at hat hs
      rw [if_pos hat.1, hat.2.2.1]
      exact hs
    | stopping onPps quiet =>
      rw [hpc] at hat hs
      rw [if_pos hat.1]
      exact hs
    | _ => rw [hpc] at hs; cases hs
  oneWorker := h.terminated
  worker := h.worker
  deactivated := by
    intro o hpc
    have hat := h.atPc
    rw [hpc] at hat
    exact hat.1 o
  rejected := by
    intro kind e hpc
    have hat := h.atPc
    rw [hpc] at hat
    exact hat.2.1 kind e
  invalid := by
    intro kind e hpc
    have hat := h.atPc
    rw [hpc] at hat
    exact hat.2.2 kind e
  snapshot := fun p hp ho => ⟨h.snapshot p hp ho, h.configuration⟩

/-- A session of a device whose rate is 1 MS/s and whose system clock is 40 MHz. -/
def sampleSession : SessionWorld ℤ (RxTiming UInt64) :=
  { session := ⟨⟨4, [], false, false, 0⟩, none, false, false, 0, 0, 0,
      ⟨0, 0, .ofFrequency 0, 0, true, false⟩, false⟩
    pc := .free
    fallbacks := []
    timing := ⟨0, 1000000, 0, 40000000, true⟩
    prepared := none
    backend := []
    effects := []
    outcome := none
    terminated := false }

/-- The activation of handle 7 with blocks of `payloadWords` samples. -/
def sampleActivation (payloadWords : ℕ) : List (SessionAction ℤ (RxTiming UInt64)) :=
  [.call (.activateConfigured
    (captureTiming (fun rate => .ok (.ofFrequency rate)) 0 7 payloadWords 40000000 false)),
    .lifecycle .proceed, .lifecycle .proceed, .lifecycle .proceed]

/-- The activation succeeds, then a deactivation fails and leaves the hardware owned. -/
def sampleFailedStop : List (SessionAction ℤ (RxTiming UInt64)) :=
  sampleActivation 2 ++ [.lifecycle (.backend (.ok 0)), .lifecycle .proceed, .lifecycle .proceed,
    .lifecycle .proceed, .call (.deactivate false), .lifecycle .proceed, .lifecycle .proceed,
    .lifecycle .proceed, .lifecycle (.backend (.ok (-5))), .worker (.error .foreign),
    .lifecycle .proceed]

end SessionWorld

end SoapySidekiq
