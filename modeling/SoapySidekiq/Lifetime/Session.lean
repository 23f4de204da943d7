import SoapySidekiq.Lifetime.Device
import SoapySidekiq.Rx.SessionInvariant

/-! # The RX session at the boundary to the SDK

What the events of the session's steps say about the RX hardware and about the call of `receive` that
its worker is in, and what is left of the session after a `shutdown`. -/
set_option autoImplicit false

namespace SoapySidekiq
variable {α τ κ : Type}

/-! ## Reading the trace -/

namespace LifetimeEvent

/-- The RX handle that is held, after one more event. -/
def holdRx (held : Option UInt32) : LifetimeEvent κ → Option UInt32
  | .returned (.startRx handle _) result => if startSucceeded result then some handle else held
  | .returned (.stopRx _ _) result => if released result then none else held
  | _ => held

end LifetimeEvent

namespace SessionWorld

/-! ## Steps of a lifecycle call -/

/-- The backend's record of a step. -/
def finished (w : SessionWorld α τ) (input : LifecycleInput τ) : List BackendCall :=
  match w.pc, input with
  | .starting c _, .backend result => [.start c.handle c.onPps result]
  | .rollbackStop c _, .backend result => [.stop c.handle false result]
  | .stopping onPps _, .backend result =>
    [.stop w.session.activeConfiguration.handle onPps result]
  | _, _ => []

theorem deactivated_backend (w : SessionWorld α τ) (result : Except Exception ℤ) (quiet : Bool) :
    (w.deactivated result quiet).backend = w.backend ∧
      (w.deactivated result quiet).session = w.session := by
  unfold deactivated
  cases result with
  | ok status => exact ⟨rfl, rfl⟩
  | error e => cases quiet <;> exact ⟨rfl, rfl⟩

theorem started_backend (w : SessionWorld α τ) (c : RxSessionConfiguration)
    (prepare : Option (Prepare τ)) (result : Except Exception ℤ) :
    (w.started c prepare result).backend = w.backend ++ [.start c.handle c.onPps result] ∧
      (w.started c prepare result).session.receiveThread = w.session.receiveThread := by
  unfold started
  cases result with
  | error e => exact ⟨rfl, rfl⟩
  | ok status => dsimp only; split <;> exact ⟨rfl, rfl⟩

theorem joined_receiving {w t : SessionWorld α τ} (h : w.joined = some t) :
    t.backend = w.backend ∧ t.session.receiveThread = none ∧ w.receiving = false := by
  have hcases := joined_cases h
  obtain ⟨rfl, -⟩ := hcases
  refine ⟨rfl, rfl, ?_⟩
  unfold joined at h
  unfold receiving
  cases hthread : w.session.receiveThread with
  | none => rfl
  | some worker => cases hpc : worker.pc <;> simp_all

theorem receiving_of_not_joinable {w : SessionWorld α τ} (h : w.joinable = false) : w.receiving = false := by
  have hnone : w.session.receiveThread = none := by simpa [joinable] using h
  simp [receiving, hnone]

/-- A step of a call adds its record, and the worker is not in the backend when its thread object
changes. -/
theorem Ownership.stepped {w t : SessionWorld α τ} {input : LifecycleInput τ} (hw : w.Ownership)
    (h : w.lifecycleStep input = some t) : t.backend = w.backend ++ w.finished input ∧
      (t.session.receiveThread = w.session.receiveThread ∨ w.receiving = false ∧ t.receiving = false) := by
  have hat := hw.atPc
  unfold lifecycleStep at h
  unfold finished
  split at h
  all_goals try rename_i hpc
  all_goals try rw [hpc]
  all_goals try rw [hpc] at hat
  all_goals try simp only [List.append_nil]
  case h_1 | h_3 => split at h <;> cases h <;> exact ⟨rfl, .inl rfl⟩
  case h_2 => split at h <;> cases h <;> exact ⟨rfl, .inl rfl⟩
  case h_4 | h_7 | h_8 | h_11 | h_12 => cases h; exact ⟨rfl, .inl rfl⟩
  case h_5 =>
    split at h
    · cases h; exact ⟨rfl, .inl rfl⟩
    · split at h <;> cases h <;> exact ⟨rfl, .inl rfl⟩
  case h_6 =>
    cases h
    exact (started_backend _ _ _ _).imp_right .inl
  case h_9 =>
    cases h
    exact ⟨rfl, .inr ⟨receiving_of_not_joinable hat.2.1, rfl⟩⟩
  case h_10 => cases h; exact ⟨rfl, .inl rfl⟩
  case h_13 | h_17 => cases h; exact ⟨rfl, .inl rfl⟩
  case h_14 =>
    split at h <;> cases h
    · rw [(deactivated_backend _ _ _).1, (deactivated_backend _ _ _).2]
      exact ⟨rfl, .inl rfl⟩
    · exact ⟨rfl, .inl rfl⟩
  case h_15 => cases h; exact ⟨rfl, .inl rfl⟩
  case h_16 =>
    dsimp only at h
    split at h <;> cases h <;> exact ⟨rfl, .inl rfl⟩
  case h_18 =>
    obtain ⟨u, hu, rfl⟩ := Option.map_eq_some_iff.mp h
    obtain ⟨hbackend, hnone, hbefore⟩ := joined_receiving hu
    obtain ⟨hsame, hsession⟩ := deactivated_backend u ‹_› ‹_›
    exact ⟨hsame.trans hbackend, .inr ⟨hbefore, by simp [receiving, hsession, hnone]⟩⟩
  case h_19 => cases h

/-! ## Steps beside a call -/

/-- A step that is not the call's leaves the backend's record, the flag and the call alone. -/
theorem Ownership.beside {arith : Arithmetic} {w t : SessionWorld α τ} {a : SessionAction α τ}
    (hw : w.Ownership) (h : w.next arith a = some t) (hcall : ∀ call, a ≠ .call call)
    (hlifecycle : ∀ input, a ≠ .lifecycle input) : t.backend = w.backend ∧ t.pc = w.pc ∧
      t.session.active = w.session.active ∧
      t.session.activeConfiguration = w.session.activeConfiguration ∧
      (t.joinable = true → w.joinable = true) := by
  have hcalmer : ∀ {s : RxStreamSession α} {fallbacks : List Fallback}, Calmer w.session s →
      t = { w with session := s, fallbacks := fallbacks } → t.backend = w.backend ∧ t.pc = w.pc ∧
        t.session.active = w.session.active ∧
        t.session.activeConfiguration = w.session.activeConfiguration ∧
        (t.joinable = true → w.joinable = true) := by
    rintro s fallbacks hs rfl
    exact ⟨rfl, rfl, hs.active, hs.activeConfiguration, hs.thread⟩
  cases a with
  | call call => exact absurd rfl (hcall call)
  | lifecycle input => exact absurd rfl (hlifecycle input)
  | worker incoming =>
    simp only [SessionWorld.next] at h
    split at h
    · cases h
    · next worker hthread =>
      obtain ⟨s, hs, rfl⟩ := Option.map_eq_some_iff.mp h
      exact hcalmer (workerStep_calmer hthread (hw.halted worker hthread) hs) rfl
  | fallback index =>
    simp only [SessionWorld.next, fallbackStep] at h
    split at h
    · cases h
    · cases h
      exact hcalmer (hw.calmer_queue w.session.queue false (by simp)) rfl
    · cases h
      exact hcalmer (hw.calmer_queue w.session.queue.stop w.session.running id) rfl
    · obtain ⟨u, hu, rfl⟩ := Option.map_eq_some_iff.mp h
      obtain ⟨rfl, hdone⟩ := joined_cases hu
      exact hcalmer (.joined hdone hw.halted) rfl
  | read output requested timeoutUs =>
    cases h
    exact hcalmer (hw.calmer_queue _ w.session.running id) rfl

/-! ## Events -/

theorem holdRx_returned (w : SessionWorld α τ) (input : LifecycleInput τ) (held : Option UInt32) :
    (w.backendReturned input : List (LifetimeEvent κ)).foldl LifetimeEvent.holdRx held =
      (w.finished input).foldl confirm held := by
  unfold backendReturned backendCall finished
  cases w.pc <;> cases input <;> rfl

theorem holdRx_issued (w : SessionWorld α τ) (held : Option UInt32) :
    (w.backendCall.map LifetimeEvent.issued).toList.foldl
      (LifetimeEvent.holdRx : Option UInt32 → LifetimeEvent κ → Option UInt32) held = held := by
  cases w.backendCall <;> rfl

theorem receives_returned (w : SessionWorld α τ) (input : LifecycleInput τ) :
    (w.backendReturned input : List (LifetimeEvent κ)).countP LifetimeEvent.issuesReceive = 0 ∧
      (w.backendReturned input : List (LifetimeEvent κ)).countP LifetimeEvent.returnsReceive = 0 := by
  unfold backendReturned backendCall
  cases w.pc <;> cases input <;> exact ⟨rfl, rfl⟩

theorem receives_issued (w : SessionWorld α τ) :
    (w.backendCall.map (fun call => LifetimeEvent.issued (call : LifetimeCall κ))).toList.countP
        LifetimeEvent.issuesReceive = 0 ∧
      (w.backendCall.map (fun call => LifetimeEvent.issued (call : LifetimeCall κ))).toList.countP
        LifetimeEvent.returnsReceive = 0 := by
  unfold backendCall
  cases w.pc <;> exact ⟨rfl, rfl⟩

/-- The RX hardware is held as the backend's record says. -/
theorem rxEvents_hold {arith : Arithmetic} {w t : SessionWorld α τ} {a : SessionAction α τ}
    (hw : w.Ownership) (h : w.next arith a = some t) :
    (rxEvents w t a : List (LifetimeEvent κ)).foldl LifetimeEvent.holdRx (unconfirmedStart w.backend) =
      unconfirmedStart t.backend := by
  cases a with
  | lifecycle input =>
    rw [rxEvents, List.foldl_append, holdRx_issued, holdRx_returned, (hw.stepped h).1, unconfirmedStart,
      unconfirmedStart, List.foldl_append]
  | call call =>
    simp only [SessionWorld.next] at h
    split at h
    · cases h; rfl
    · cases h
  | worker incoming =>
    have hsame := (hw.beside h (by simp) (by simp)).1
    rw [hsame, rxEvents]
    cases w.receiving <;> cases t.receiving <;> rfl
  | fallback | read =>
    have hsame := (hw.beside h (by simp) (by simp)).1
    rw [hsame]
    rfl

theorem rxEvents_receives {arith : Arithmetic} {w t : SessionWorld α τ} {a : SessionAction α τ}
    (hw : w.Ownership) (h : w.next arith a = some t) :
    (rxEvents w t a : List (LifetimeEvent κ)).countP LifetimeEvent.issuesReceive +
        w.receiving.toNat =
      (rxEvents w t a : List (LifetimeEvent κ)).countP LifetimeEvent.returnsReceive +
        t.receiving.toNat := by
  -- Only the worker enters the backend's `receive`, or leaves it.
  have hkept : (t.session.receiveThread = w.session.receiveThread ∨
      w.receiving = false ∧ t.receiving = false) → w.receiving = t.receiving := by
    rintro (hthread | ⟨hbefore, hafter⟩)
    · simp only [receiving, hthread]
    · rw [hbefore, hafter]
  cases a with
  | lifecycle input =>
    rw [hkept (hw.stepped h).2, rxEvents]
    obtain ⟨hissues, hreturns⟩ := receives_returned w input
    obtain ⟨hissues', hreturns'⟩ := receives_issued t
    rw [List.countP_append, List.countP_append, hissues, hissues', hreturns, hreturns']
  | call call =>
    simp only [SessionWorld.next] at h
    split at h
    · cases h; rfl
    · cases h
  | worker incoming =>
    rw [rxEvents]
    cases w.receiving <;> cases t.receiving <;> rfl
  | fallback index =>
    refine congrArg (fun b : Bool => 0 + b.toNat) (hkept ?_)
    simp only [SessionWorld.next, fallbackStep] at h
    split at h
    · cases h
    · cases h; exact .inl rfl
    · cases h; exact .inl rfl
    · obtain ⟨u, hu, rfl⟩ := Option.map_eq_some_iff.mp h
      obtain ⟨-, hnone, hbefore⟩ := joined_receiving hu
      exact .inr ⟨hbefore, by simp [receiving, hnone]⟩
  | read output requested timeoutUs =>
    cases h
    rfl

/-! ## Shutting down -/

/-- The call is a deactivation or a `shutdown`. -/
def shutting : LifecyclePc τ → Bool
  | .deactivate _ _ | .clearRunning _ _ | .stopQueue _ _ | .stopping _ _ | .joining _ _ => true
  | _ => false

/-- A `shutdown` in front of its stop of the hardware. -/
def beforeStop : LifecyclePc τ → Bool
  | .deactivate false true | .clearRunning false true | .stopQueue false true => true
  | _ => false

theorem deactivated_pc (w : SessionWorld α τ) (result : Except Exception ℤ) (quiet : Bool) :
    (w.deactivated result quiet).pc = .free := by
  unfold deactivated
  cases result with
  | ok status => rfl
  | error e => cases quiet <;> rfl

/-- A shutdown ends with the worker joined. -/
theorem shutting_step {w t : SessionWorld α τ} {input : LifecycleInput τ} (hpc : shutting w.pc = true)
    (h : w.lifecycleStep input = some t) :
    shutting t.pc = true ∨ t.pc = .free ∧ t.joinable = false := by
  unfold lifecycleStep at h
  split at h
  all_goals try rename_i hat
  all_goals try rw [hat] at hpc
  case h_14 =>
    split at h <;> cases h
    · next howned =>
      refine .inr ⟨deactivated_pc _ _ _, ?_⟩
      rw [joinable, (deactivated_backend _ _ _).2]
      exact (owned_eq_false.mp (by simpa using howned)).2
    · exact .inl rfl
  case h_15 | h_17 => cases h; exact .inl rfl
  case h_16 =>
    dsimp only at h
    split at h <;> cases h <;> exact .inl rfl
  case h_18 =>
    obtain ⟨u, hu, rfl⟩ := Option.map_eq_some_iff.mp h
    refine .inr ⟨deactivated_pc _ _ _, ?_⟩
    rw [joinable, (deactivated_backend _ _ _).2, (joined_receiving hu).2.1]
    rfl
  case h_19 => cases h
  all_goals cases hpc

/-- The session owns hardware, with this handle. -/
def Owns (w : SessionWorld α τ) (handle : UInt32) : Prop :=
  w.session.active = true ∧ w.session.activeConfiguration.handle = handle

/-- A shutdown that owns hardware stops it. -/
theorem beforeStop_step {w t : SessionWorld α τ} {input : LifecycleInput τ} {handle : UInt32}
    (hpc : beforeStop w.pc = true) (howns : w.Owns handle) (h : w.lifecycleStep input = some t) :
    beforeStop t.pc = true ∧ t.Owns handle ∨
      (t.backendCall : Option (LifetimeCall κ)) = some (.stopRx handle false) := by
  unfold lifecycleStep at h
  split at h
  all_goals try rename_i hat
  all_goals try rw [hat] at hpc
  case h_14 onPps quiet =>
    cases onPps <;> cases quiet <;> cases hpc
    rw [if_neg (by simp [owned, howns.1])] at h
    cases h
    exact .inl ⟨rfl, howns⟩
  case h_15 onPps quiet =>
    cases onPps <;> cases quiet <;> cases hpc
    cases h
    exact .inl ⟨rfl, howns⟩
  case h_16 onPps quiet =>
    cases onPps <;> cases quiet <;> cases hpc
    dsimp only at h
    rw [if_pos howns.1] at h
    cases h
    exact .inr (congrArg (fun handle => some (LifetimeCall.stopRx handle false)) howns.2)
  case h_19 => cases h
  all_goals cases hpc

end SessionWorld

end SoapySidekiq
