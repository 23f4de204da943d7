import SoapySidekiq.Tx.Admission

/-! # The trace of the SDK

Which events a step appends: a write call those of its transmissions, a status call those of its
reads, the PPS worker those of its start, and the lifecycle the rest. -/
set_option autoImplicit false

namespace SoapySidekiq

/-! ## Events of one move -/

theorem WriterMove.trace {d d' : TxDevice} {id : ℕ} {w w' : Writer} (h : WriterMove d id w d' w') :
    ∃ events, d'.trace = d.trace ++ events ∧
      ∀ e ∈ events, e.kind = .transmit ∧ w.pastGate = true := by
  cases h with
  | submitted _ hpc hfill =>
    subst hfill
    exact ⟨[_], rfl, List.forall_mem_singleton.mpr ⟨rfl, by simp [Writer.pastGate, hpc]⟩⟩
  | rejected _ hpc | accepted hpc | transmitted hpc =>
    exact ⟨[_], rfl, List.forall_mem_singleton.mpr ⟨rfl, by simp [Writer.pastGate, hpc]⟩⟩
  | _ => exact ⟨[], by simp, by simp⟩

theorem PollerMove.trace {d d' : TxDevice} {p p' : Poller} (h : PollerMove d p d' p') :
    ∃ events, d'.trace = d.trace ++ events ∧
      ∀ e ∈ events, e.kind = .status ∧ p.admitted = true := by
  cases h with
  | reads hpc | readFailed _ hpc | readMore _ hpc | readNone _ hpc =>
    exact ⟨[_], rfl, List.forall_mem_singleton.mpr ⟨rfl, by simp [Poller.admitted, hpc]⟩⟩
  | _ => exact ⟨[], by simp, by simp⟩

theorem PpsMove.trace {d d' : TxDevice} {wake : Wake} (h : PpsMove d d' wake) :
    ∃ events, d'.trace = d.trace ++ events ∧ ∀ e ∈ events, e.kind = .start := by
  cases h with
  | issued | returned => exact ⟨[_], rfl, List.forall_mem_singleton.mpr rfl⟩
  | published | notified => exact ⟨[], by simp, by simp⟩

theorem configure_trace (d : TxDevice) (onPps : Bool) (txHandle : UInt32) {calls : List SdkCall}
    (hcalls : ∀ call ∈ calls, call.kind = .configuration) :
    ∃ events, (d.configure onPps txHandle calls).device.trace = d.trace ++ events ∧
      ∀ e ∈ events, e.kind = .configuration := by
  cases calls with
  | nil => exact ⟨[], by simp [TxDevice.configure], by simp⟩
  | cons call rest =>
    exact ⟨[.issued call], rfl, List.forall_mem_singleton.mpr (hcalls call List.mem_cons_self)⟩

theorem stopped_trace (d : TxDevice) (caller : StopCaller) (status : ℤ) :
    (d.stopped caller status).device.trace = d.trace := by
  unfold TxDevice.stopped
  cases caller with
  | close => dsimp only; split <;> rfl
  | deactivate | destroy => rfl

theorem BeginMove.trace {d : TxDevice} {step : TxLifecycleStep} (h : BeginMove d step) :
    ∃ events, step.device.trace = d.trace ++ events ∧ ∀ e ∈ events, e.kind = .configuration := by
  cases h with
  | setup => exact ⟨[_], rfl, List.forall_mem_singleton.mpr rfl⟩
  | activates => exact configure_trace d _ _ (d.activationCalls_kind _)
  | rejected | stops => exact ⟨[], by simp, by simp⟩

/-- An activation is in progress. -/
def TxLifecyclePc.isActivating (pc : TxLifecyclePc) : Bool :=
  match pc with
  | .configuring _ _ _ _ | .resetGate _ _ | .resetStart _ | .creating _ | .raiseGate | .starting _
  | .resetUnderruns | .activated | .opening => true
  | _ => false

theorem LifecycleMove.trace {free : Mutex → Bool} {d : TxDevice} {pc : TxLifecyclePc}
    {step : TxLifecycleStep} (h : LifecycleMove free d pc step) (hplace : d.Place pc) :
    ∃ events, step.device.trace = d.trace ++ events ∧ ∀ e ∈ events,
      e.kind ≠ .transmit ∧ e.kind ≠ .status ∧ (e.kind = .start → pc.isActivating = true) ∧
        ∀ call, e = .issued call → call.kind = .stop →
          ∃ caller txHandle, step.pc = .stopping caller txHandle := by
  cases h with
  | configured onPps txHandle call rest =>
    obtain ⟨-, -, -, hcalls⟩ := hplace
    obtain ⟨events, htrace, hkind⟩ := configure_trace (d.log (.returned call (.ok 0))) onPps txHandle
      fun next hnext => hcalls next (List.mem_cons_of_mem _ hnext)
    refine ⟨.returned call (.ok 0) :: events, by simpa using htrace, ?_⟩
    intro e he
    have hconf : e.kind = .configuration := by
      rcases List.mem_cons.mp he with rfl | he
      · exact hcalls call List.mem_cons_self
      · exact hkind e he
    refine ⟨by simp [hconf], by simp [hconf], by simp [hconf], ?_⟩
    rintro next rfl hnext
    rw [SdkEvent.kind, hnext] at hconf
    contradiction
  | unconfigured onPps txHandle call rest =>
    obtain ⟨-, -, -, hcalls⟩ := hplace
    exact ⟨[_], rfl, by simp [SdkEvent.kind, hcalls call List.mem_cons_self]⟩
  | stops caller handle =>
    refine ⟨[_], rfl, ?_⟩
    unfold TxDevice.stopCall
    split <;> simp [SdkEvent.kind, SdkCall.kind]
  | unneeded => exact ⟨[], by simp [stopped_trace], by simp⟩
  | unstopped caller | stopped caller =>
    refine ⟨[_], stopped_trace _ _ _, ?_⟩
    unfold TxDevice.stopCall
    split <;> simp [SdkEvent.kind, SdkCall.kind]
  | resetNow | unstarted | started =>
    exact ⟨[_], rfl, by simp [SdkEvent.kind, SdkCall.kind, TxLifecyclePc.isActivating]⟩
  | unread | read => exact ⟨[_], rfl, by simp [SdkEvent.kind, SdkCall.kind]⟩
  | allocated => exact ⟨[], by simp [TxDevice.initializeTxBuffers], by simp⟩
  | _ => exact ⟨[], by simp, by simp⟩

/-! ## Events of one step -/

namespace TxSystem

@[simp] theorem notify_device (s : TxSystem) (wake : Wake) : (s.notify wake).device = s.device := by
  cases wake <;> rfl

/-- Why a step from `s` to `t` may append `e`. -/
structure Cause (s t : TxSystem) (e : SdkEvent) : Prop where
  transmit : e.kind = .transmit → ∃ w ∈ s.writers, w.pastGate = true
  status : e.kind = .status → ∃ p ∈ s.pollers, p.admitted = true
  start : e.kind = .start →
    s.device.txStreamingThread.isSome = true ∨ s.lifecycle.isActivating = true
  stop : ∀ call, e = .issued call → call.kind = .stop →
    ∃ caller txHandle, t.lifecycle = .stopping caller txHandle

/-- An event that is of one kind, and not of the kind stop. -/
theorem cause_of_kind {s t : TxSystem} {e : SdkEvent} {kind : SdkCall.Kind} (hkind : e.kind = kind)
    (htransmit : kind = .transmit → ∃ w ∈ s.writers, w.pastGate = true)
    (hstatus : kind = .status → ∃ p ∈ s.pollers, p.admitted = true)
    (hstart : kind = .start →
      s.device.txStreamingThread.isSome = true ∨ s.lifecycle.isActivating = true)
    (hstop : kind ≠ .stop) : Cause s t e where
  transmit h := htransmit (hkind ▸ h)
  status h := hstatus (hkind ▸ h)
  start h := hstart (hkind ▸ h)
  stop call he hcall := by
    subst he
    exact absurd (hkind ▸ hcall) hstop

theorem trace_step {s t : TxSystem} {a : TxAction} (hs : s.Admission) (hstep : TxStep s a t) :
    ∃ events, t.device.trace = s.device.trace ++ events ∧ ∀ e ∈ events, Cause s t e := by
  cases hstep with
  | writeStream | readStreamStatus | notifyCompletion => exact ⟨[], by simp, by simp⟩
  | complete index context hcontext =>
    obtain ⟨_, _, heq⟩ := callBack_changes s.device index context
    exact ⟨[], by simp [heq], by simp⟩
  | writer id input w w' d' hw hmove =>
    obtain ⟨events, htrace, hevents⟩ := hmove.trace
    refine ⟨events, by simpa using htrace, fun e he => ?_⟩
    obtain ⟨hkind, hgate⟩ := hevents e he
    exact cause_of_kind hkind (fun _ => ⟨w, List.mem_of_getElem? hw, hgate⟩) (by simp) (by simp)
      (by simp)
  | poller id input p p' d' hp hmove =>
    obtain ⟨events, htrace, hevents⟩ := hmove.trace
    refine ⟨events, by simpa using htrace, fun e he => ?_⟩
    obtain ⟨hkind, hadmitted⟩ := hevents e he
    exact cause_of_kind hkind (by simp) (fun _ => ⟨p, List.mem_of_getElem? hp, hadmitted⟩) (by simp)
      (by simp)
  | pps result d' wake hmove =>
    have hthread : s.device.txStreamingThread.isSome = true := by
      cases hmove <;> simp_all
    obtain ⟨events, htrace, hevents⟩ := hmove.trace
    refine ⟨events, by simpa using htrace, fun e he => ?_⟩
    exact cause_of_kind (hevents e he) (by simp) (by simp) (fun _ => .inl hthread) (by simp)
  | call call step hidle hbegin hmove =>
    obtain ⟨events, htrace, hevents⟩ := hmove.trace
    refine ⟨events, by simpa using htrace, fun e he => ?_⟩
    exact cause_of_kind (hevents e he) (by simp) (by simp) (by simp) (by simp)
  | lifecycle input step hmove =>
    obtain ⟨events, htrace, hevents⟩ := hmove.trace hs.standing.place
    refine ⟨events, by simpa using htrace, fun e he => ?_⟩
    obtain ⟨htransmit, hstatus, hstart, hstop⟩ := hevents e he
    refine ⟨fun h => absurd h htransmit, fun h => absurd h hstatus, fun h => .inr (hstart h), ?_⟩
    intro call hcall hkind
    obtain ⟨caller, txHandle, hpc⟩ := hstop call hcall hkind
    refine ⟨caller, txHandle, ?_⟩
    cases hwake : step.wake <;> simp [TxSystem.notify, hpc]

theorem trace_run {s t : TxSystem} {actions : List TxAction} (hs : s.Admission)
    (hrun : Transition.run next s actions = some t) :
    ∃ events, t.device.trace = s.device.trace ++ events := by
  induction actions generalizing s with
  | nil => cases hrun; exact ⟨[], by simp⟩
  | cons a actions ih =>
    obtain ⟨u, hnext, hrest⟩ := Transition.run_cons.mp hrun
    obtain ⟨first, htrace, -⟩ := trace_step hs (step_of_next hnext)
    obtain ⟨events, hevents⟩ := ih (admission_step hs (step_of_next hnext)) hrest
    exact ⟨first ++ events, by rw [hevents, htrace, List.append_assoc]⟩

end TxSystem

end SoapySidekiq
