import SoapySidekiq.Tx.Activation
import SoapySidekiq.Tx.WriteCall

/-! # The lifecycle contract

What holds between two lifecycle calls, whatever the SDK and the PPS worker have done: what an open
admission and a joinable thread stand for, what each kind of call leaves behind, and that an activation
after a failed one behaves as on a stream that was just set up. -/
set_option autoImplicit false

namespace SoapySidekiq

/-! ## How the last call has ended -/

/-- What the device keeps of the outcome of the last call. -/
def TxDevice.Ended (d : TxDevice) : TxOutcome → Prop
  | .rejected _ => True
  | .configured _ => d.txStreamActive = false
  | .activated result => d.txStreamActive = true ↔ result = .ok 0
  | .deactivated status =>
    d.txWritesStopping = true ∧ d.txStreamingThread = none ∧ (d.txStreamActive = true ↔ status ≠ 0)
  | .closed result => result = .ok 0 ∧ d.txStreamActive = false ∧ d.activeTxStream = none

/-- Which call is between its first step and the end of `stopTxStream`. -/
def TxLifecyclePc.caller (pc : TxLifecyclePc) : Option StopCaller :=
  match pc with
  | .stopFlag caller | .notifyCv caller | .notifyChanged caller | .draining caller
  | .drainParked caller | .joining caller | .stopping caller _ => some caller
  | _ => none

theorem TxDevice.Ended.kept {d d' : TxDevice} {outcome : TxOutcome} (h : d.Ended outcome)
    (hactive : d'.txStreamActive = d.txStreamActive)
    (hstop : d'.txWritesStopping = d.txWritesStopping)
    (htoken : d'.activeTxStream = d.activeTxStream)
    (hthread : d.txStreamingThread = none → d'.txStreamingThread = none) : d'.Ended outcome := by
  cases outcome with
  | rejected => trivial
  | configured => exact hactive.trans h
  | activated => simpa only [TxDevice.Ended, hactive] using h
  | deactivated =>
    obtain ⟨hclosed, hnone, hiff⟩ := h
    exact ⟨hstop.trans hclosed, hthread hnone, by rwa [hactive]⟩
  | closed =>
    obtain ⟨hresult, hinactive, hnone⟩ := h
    exact ⟨hresult, hactive.trans hinactive, htoken.trans hnone⟩

theorem stopped_ended {d : TxDevice} {caller : StopCaller} {status : ℤ} {outcome : TxOutcome}
    (hclosed : d.txWritesStopping = true) (hthread : d.txStreamingThread = none)
    (hactive : d.txStreamActive = true ↔ status ≠ 0) (hclose : caller = .close → status = 0)
    (h : (d.stopped caller status).outcome = some outcome) :
    (d.stopped caller status).pc = .idle ∧ (d.stopped caller status).device.Ended outcome := by
  unfold TxDevice.stopped at h ⊢
  cases caller with
  | deactivate onPps =>
    cases h
    exact ⟨rfl, hclosed, hthread, hactive⟩
  | close =>
    obtain rfl := hclose rfl
    cases h
    exact ⟨rfl, rfl, by simpa using hactive, rfl⟩
  | destroy => cases h

theorem LifecycleMove.ended {free : Mutex → Bool} {d : TxDevice} {pc : TxLifecyclePc}
    {step : TxLifecycleStep} {outcome : TxOutcome} (h : LifecycleMove free d pc step)
    (hs : d.Standing pc) (hclosing : pc.caller = some .close → d.txStreamActive = false)
    (houtcome : step.outcome = some outcome) : step.pc = .idle ∧ step.device.Ended outcome := by
  cases h with
  | unneeded caller hthread hidle =>
    refine stopped_ended (hs.closed rfl) rfl ?_ (fun _ => rfl) houtcome
    have hinactive : d.txStreamActive = false :=
      hidle.elim (fun htoken => hs.inactive_of_none htoken (by simp)) id
    simp [hinactive]
  | unstopped caller txHandle status hstatus =>
    obtain ⟨hthread, hactive, -⟩ := hs.place
    refine stopped_ended (hs.closed rfl) hthread (by simp [hactive, hstatus]) (fun hclose => ?_) houtcome
    simp [hclosing (by rw [hclose]; rfl)] at hactive
  | stopped caller txHandle status =>
    exact stopped_ended (hs.closed rfl) hs.place.1 (by simp) (fun _ => rfl) houtcome
  | configured onPps txHandle call rest => cases rest <;> cases houtcome
  | unconfigured | unstarted | uncreated =>
    cases houtcome
    exact ⟨rfl, by simp [TxDevice.Ended, hs.place.2.1, soapyStreamError]⟩
  | opened =>
    cases houtcome
    exact ⟨rfl, by simp [TxDevice.Ended, hs.place.1]⟩
  | unread | unallocated =>
    cases houtcome
    exact ⟨rfl, hs.inactive_of_none hs.place (by simp)⟩
  | published =>
    cases houtcome
    exact ⟨rfl, hs.inactive_of_none hs.place.1 (by simp)⟩
  | _ => cases houtcome

/-- A stream that is active and has its token is stopped. -/
theorem LifecycleMove.beforeStop {free : Mutex → Bool} {d : TxDevice} {pc : TxLifecyclePc}
    {step : TxLifecycleStep} {caller : StopCaller} {handle : TxStreamHandle}
    (h : LifecycleMove free d pc step) (hcaller : pc.caller = some caller)
    (hyet : ∀ txHandle, pc ≠ .stopping caller txHandle) (hactive : d.txStreamActive = true)
    (htoken : d.activeTxStream = some handle) :
    (step.pc.caller = some caller ∧ (∀ txHandle, step.pc ≠ .stopping caller txHandle) ∧
      step.device.txStreamActive = true ∧ step.device.activeTxStream = some handle) ∨
    step.device.trace = d.trace ++ [.issued (TxDevice.stopCall caller handle.txHandle)] := by
  cases h with
  | flagged | notifiedCv | notifiedChanged | drained | waits | woken =>
    exact .inl ⟨hcaller, by simp, hactive, htoken⟩
  | stops caller' handle' hthread htoken' =>
    obtain rfl : caller' = caller := Option.some.inj hcaller
    obtain rfl : handle' = handle := Option.some.inj (htoken'.symm.trans htoken)
    exact .inr rfl
  | unneeded caller' hthread hidle => simp [hactive, htoken] at hidle
  | unstopped caller' txHandle | stopped caller' txHandle =>
    obtain rfl : caller' = caller := Option.some.inj hcaller
    exact absurd rfl (hyet txHandle)
  | _ => cases hcaller

theorem stopped_caller (d : TxDevice) (caller : StopCaller) (status : ℤ) :
    (d.stopped caller status).pc.caller = none := by
  unfold TxDevice.stopped
  cases caller with
  | close => dsimp only; split <;> rfl
  | deactivate | destroy => rfl

/-- A call goes through `stopTxStream` under its own name, and does not touch `tx_stream_active`
before the end. -/
theorem LifecycleMove.caller {free : Mutex → Bool} {d : TxDevice} {pc : TxLifecyclePc}
    {step : TxLifecycleStep} {caller : StopCaller} (h : LifecycleMove free d pc step)
    (hcaller : step.pc.caller = some caller) :
    pc.caller = some caller ∧ step.device.txStreamActive = d.txStreamActive := by
  cases h with
  | unneeded | unstopped | stopped => simp [stopped_caller] at hcaller
  | configured onPps txHandle call rest => cases rest <;> cases hcaller
  | flagged | notifiedCv | notifiedChanged | drained | waits | woken | stops => exact ⟨hcaller, rfl⟩
  | _ => cases hcaller

theorem configure_caller (d : TxDevice) (onPps : Bool) (txHandle : UInt32) (calls : List SdkCall) :
    (d.configure onPps txHandle calls).pc.caller = none := by
  cases calls <;> rfl

theorem beginCall_close {d : TxDevice} {call : TxLifecycleCall}
    (h : (d.beginCall call).pc.caller = some .close) : d.txStreamActive = false := by
  cases call with
  | setupStream =>
    simp only [TxDevice.beginCall] at h
    split at h
    · cases h
    · split at h
      · cases h
      · split at h <;> cases h
  | activateStream =>
    simp only [TxDevice.beginCall] at h
    split at h
    · cases h
    · split at h
      · cases h
      · split at h
        · cases h
        · rw [configure_caller] at h
          cases h
  | deactivateStream =>
    simp only [TxDevice.beginCall] at h
    split at h
    · cases h
    · split at h <;> cases h
  | closeStream =>
    simp only [TxDevice.beginCall] at h
    split at h
    · cases h
    · split at h
      · cases h
      · next hactive => exact Bool.eq_false_iff.mpr hactive
  | destroy => cases h

theorem BeginMove.caller {d : TxDevice} {step : TxLifecycleStep} {caller : StopCaller}
    (h : BeginMove d step) (hcaller : step.pc.caller = some caller) : step.device = d := by
  cases h with
  | stops => rfl
  | activates => simp [configure_caller] at hcaller
  | rejected | setup => cases hcaller

theorem BeginMove.outcome {d : TxDevice} {step : TxLifecycleStep} {outcome : TxOutcome}
    (h : BeginMove d step) (houtcome : step.outcome = some outcome) :
    ∃ result, outcome = .rejected result ∧ step = d.done (.rejected result) := by
  cases h with
  | rejected result =>
    cases houtcome
    exact ⟨result, rfl, rfl⟩
  | activates onPps handle =>
    revert houtcome
    cases d.activationCalls handle.txHandle <;> simp [TxDevice.configure]
  | setup | stops => cases houtcome

namespace TxSystem

/-! ## Between calls -/

/-- The outcome is the one of the call that has left the device as it is. -/
structure Outcomes (s : TxSystem) : Prop where
  ended : ∀ outcome, s.outcome = some outcome → s.lifecycle = .idle ∧ s.device.Ended outcome
  closing : s.lifecycle.caller = some .close → s.device.txStreamActive = false

/-- A step of anything but the lifecycle. -/
theorem Outcomes.kept {s t : TxSystem} (h : s.Outcomes) (houtcome : t.outcome = s.outcome)
    (hpc : s.lifecycle = .idle → t.lifecycle = .idle) (hcaller : t.lifecycle.caller = s.lifecycle.caller)
    (hactive : t.device.txStreamActive = s.device.txStreamActive)
    (hstop : t.device.txWritesStopping = s.device.txWritesStopping)
    (htoken : t.device.activeTxStream = s.device.activeTxStream)
    (hthread : s.device.txStreamingThread = none → t.device.txStreamingThread = none) : t.Outcomes where
  ended outcome h' := by
    obtain ⟨hidle, hended⟩ := h.ended outcome (houtcome ▸ h')
    exact ⟨hpc hidle, hended.kept hactive hstop htoken hthread⟩
  closing h' := hactive.trans (h.closing (hcaller ▸ h'))

theorem Outcomes.notify {s : TxSystem} (h : s.Outcomes) (wake : Wake) : (s.notify wake).Outcomes := by
  cases wake with
  | nobody | cv => exact h.kept rfl id rfl rfl rfl rfl id
  | changed =>
    refine h.kept rfl (fun hidle => ?_) ?_ rfl rfl rfl id
    · simp [TxSystem.notify, hidle]
    · simp only [TxSystem.notify]
      split
      · next hparked => rw [hparked]; rfl
      · rfl

theorem Outcomes.call {s : TxSystem} (h : s.Outcomes) {d' : TxDevice} (hframe : CallFrame s.device d') :
    (s.setDevice d').Outcomes :=
  h.kept rfl id rfl hframe.txStreamActive hframe.txWritesStopping hframe.activeTxStream
    fun hnone => hframe.txStreamingThread.trans hnone

theorem outcomes_step {s t : TxSystem} {a : TxAction} (hs : s.Admission) (h : s.Outcomes)
    (hstep : TxStep s a t) : t.Outcomes := by
  cases hstep with
  | writeStream | readStreamStatus => exact h.kept rfl id rfl rfl rfl rfl id
  | writer id input w w' d' hw hmove =>
    have hset : (s.setWriter id d' w').Outcomes := { h.call hmove.frame with }
    exact hset.notify _
  | poller id input p p' d' hp hmove =>
    have hset : (s.setPoller id d' p').Outcomes := { h.call hmove.frame with }
    exact hset.notify _
  | pps result d' wake hmove =>
    have hset : (s.setDevice d').Outcomes := by
      refine h.kept rfl id rfl ?_ ?_ ?_ ?_
      all_goals cases hmove <;> simp_all
    exact hset.notify wake
  | complete index context => exact h.call (s.device.callBack_frame index context)
  | notifyCompletion index wake =>
    have hset : (s.setDevice { s.device with
      toNotify := s.device.toNotify.eraseIdx index }).Outcomes := h.call { CallFrame.refl s.device with }
    exact hset.notify wake
  | call call step hidle hbegin hmove =>
    refine ⟨fun outcome houtcome => ?_, fun hcaller => ?_⟩
    · obtain ⟨result, rfl, rfl⟩ := hmove.outcome houtcome
      exact ⟨rfl, trivial⟩
    · have hactive : step.device.txStreamActive = s.device.txStreamActive := by
        rw [hmove.caller hcaller]
      subst hbegin
      exact hactive.trans (beginCall_close hcaller)
  | lifecycle input step hmove =>
    refine Outcomes.notify ⟨fun outcome houtcome => ?_, fun hcaller => ?_⟩ _
    · exact hmove.ended hs.standing h.closing houtcome
    · obtain ⟨hsame, hactive⟩ := hmove.caller hcaller
      exact hactive.trans (h.closing hsame)

theorem outcomes_create (config : TxConfiguration) : (create config).Outcomes :=
  ⟨by simp [create], by simp [create, TxLifecyclePc.caller]⟩

theorem Reachable.outcomes {config : TxConfiguration} {s : TxSystem} (h : Reachable config s) :
    s.Outcomes := by
  obtain ⟨actions, hrun⟩ := h
  have hboth := Transition.run_invariant (I := fun s => s.Admission ∧ s.Outcomes)
    (fun _ _ _ h hnext => ⟨admission_step h.1 (step_of_next hnext),
      outcomes_step h.1 h.2 (step_of_next hnext)⟩)
    ⟨admission_create config, outcomes_create config⟩ hrun
  exact hboth.2

/-! ## Stopping again -/

/-- The call is before the stop of a stream that is still active. -/
structure BeforeStop (caller : StopCaller) (handle : TxStreamHandle) (s : TxSystem) : Prop where
  lifecycle : s.lifecycle.caller = some caller
  notYet : ∀ txHandle, s.lifecycle ≠ .stopping caller txHandle
  active : s.device.txStreamActive = true
  token : s.device.activeTxStream = some handle

theorem BeforeStop.kept {caller : StopCaller} {handle : TxStreamHandle} {s t : TxSystem}
    (h : BeforeStop caller handle s) (hpc : t.lifecycle = s.lifecycle ∨
      ∃ caller, s.lifecycle = .drainParked caller ∧ t.lifecycle = .draining caller)
    (hactive : t.device.txStreamActive = s.device.txStreamActive)
    (htoken : t.device.activeTxStream = s.device.activeTxStream) : BeforeStop caller handle t := by
  obtain ⟨hcaller, hyet, hactive', htoken'⟩ := h
  refine ⟨?_, ?_, hactive.trans hactive', htoken.trans htoken'⟩
  · rcases hpc with hsame | ⟨parked, hparked, hdraining⟩
    · rwa [hsame]
    · rw [hdraining]
      rwa [hparked] at hcaller
  · rcases hpc with hsame | ⟨parked, hparked, hdraining⟩
    · rwa [hsame]
    · simp [hdraining]

theorem BeforeStop.notify {caller : StopCaller} {handle : TxStreamHandle} {s : TxSystem}
    (h : BeforeStop caller handle s) (wake : Wake) : BeforeStop caller handle (s.notify wake) := by
  refine h.kept ?_ (by rw [notify_device]) (by rw [notify_device])
  cases wake with
  | nobody | cv => exact .inl rfl
  | changed =>
    simp only [TxSystem.notify]
    split
    · next parked hparked => exact .inr ⟨parked, hparked, rfl⟩
    · exact .inl rfl

theorem beforeStop_step {caller : StopCaller} {handle : TxStreamHandle} {s t : TxSystem}
    {a : TxAction} (h : BeforeStop caller handle s) (hstep : TxStep s a t) :
    BeforeStop caller handle t ∨
      t.device.trace = s.device.trace ++ [.issued (TxDevice.stopCall caller handle.txHandle)] := by
  cases hstep with
  | writeStream | readStreamStatus => exact .inl (h.kept (.inl rfl) rfl rfl)
  | writer id input w w' d' hw hmove =>
    have hset : BeforeStop caller handle (s.setWriter id d' w') :=
      h.kept (.inl rfl) hmove.frame.txStreamActive hmove.frame.activeTxStream
    exact .inl (hset.notify _)
  | poller id input p p' d' hp hmove =>
    have hset : BeforeStop caller handle (s.setPoller id d' p') :=
      h.kept (.inl rfl) hmove.frame.txStreamActive hmove.frame.activeTxStream
    exact .inl (hset.notify _)
  | pps result d' wake hmove =>
    have hset : BeforeStop caller handle (s.setDevice d') := by
      refine h.kept (.inl rfl) ?_ ?_ <;> cases hmove <;> rfl
    exact .inl (hset.notify _)
  | complete index context =>
    have hframe := s.device.callBack_frame index context
    exact .inl (h.kept (.inl rfl) hframe.txStreamActive hframe.activeTxStream)
  | notifyCompletion index wake =>
    have hset : BeforeStop caller handle (s.setDevice { s.device with
      toNotify := s.device.toNotify.eraseIdx index }) := h.kept (.inl rfl) rfl rfl
    exact .inl (hset.notify _)
  | call call step hidle =>
    have hcaller := h.lifecycle
    rw [hidle] at hcaller
    cases hcaller
  | lifecycle input step hmove =>
    rcases hmove.beforeStop h.lifecycle h.notYet h.active h.token with
      ⟨hcaller, hyet, hactive, htoken⟩ | htrace
    · have hset : BeforeStop caller handle (s.setLifecycle step) := ⟨hcaller, hyet, hactive, htoken⟩
      exact .inl (hset.notify _)
    · exact .inr (by rw [notify_device]; exact htrace)

/-- When the call is over the hardware has been told to stop. -/
theorem stop_issued {caller : StopCaller} {handle : TxStreamHandle} {s t : TxSystem}
    {actions : List TxAction} (hs : s.Admission) (h : BeforeStop caller handle s)
    (hrun : Transition.run next s actions = some t) (hidle : t.lifecycle = .idle) :
    ∃ before rest, t.device.trace = s.device.trace ++ before ++
      .issued (TxDevice.stopCall caller handle.txHandle) :: rest := by
  induction actions generalizing s with
  | nil =>
    cases hrun
    have hcaller := h.lifecycle
    rw [hidle] at hcaller
    cases hcaller
  | cons a actions ih =>
    obtain ⟨u, hnext, hrest⟩ := Transition.run_cons.mp hrun
    have hstep := step_of_next hnext
    have hu := admission_step hs hstep
    rcases beforeStop_step h hstep with hbefore | htrace
    · obtain ⟨events, hevents, -⟩ := trace_step hs hstep
      obtain ⟨before, rest, htrace⟩ := ih hu hbefore hrest
      exact ⟨events ++ before, rest, by rw [htrace, hevents]; simp⟩
    · obtain ⟨rest, hevents⟩ := trace_run hu hrest
      exact ⟨[], rest, by rw [hevents, htrace]; simp⟩

/-! ## The theorem -/

/-- What holds while no lifecycle call is in progress. -/
structure BetweenCalls (s : TxSystem) : Prop where
  admission : s.device.txWritesStopping = false →
    s.device.txStreamActive = true ∧ s.device.activeTxStream.isSome = true ∧ s.device.PoolReady
  joinable : s.device.txStreamingThread.isSome = true → s.device.txStreamActive = true
  token : s.device.txStreamActive = true → s.device.activeTxStream.isSome = true
  deactivated : ∀ status, s.outcome = some (.deactivated status) →
    s.device.txWritesStopping = true ∧ s.device.txStreamingThread = none ∧
      (s.device.txStreamActive = true ↔ status ≠ 0)
  /-- An active stream is not activated again, and a deactivation of it stops the hardware. -/
  active : s.device.txStreamActive = true → ∀ stream flags timeNs,
    (∀ numElems, ∃ status, status ≠ 0 ∧ s.device.beginCall
      (.activateStream stream flags timeNs numElems) = s.device.done (.rejected (.ok status))) ∧
    ∀ handle, s.device.findStreamHandle stream = some handle → unsupportedFlags flags timeNs = false →
      ∀ actions t, Transition.run next s (.call (.deactivateStream stream flags timeNs) :: actions) =
          some t → t.lifecycle = .idle → ∃ before rest,
        t.device.trace = s.device.trace ++ before ++ .issued (TxDevice.stopCall
          (.deactivate (flags &&& soapyHasTime != 0)) handle.txHandle) :: rest
  activated : ∀ result, s.outcome = some (.activated result) → result ≠ .ok 0 →
    s.device.txStreamActive = false ∧ s.device.txWritesStopping = true
  configured : ∀ result, s.outcome = some (.configured result) → s.device.txStreamActive = false
  closed : ∀ result, s.outcome = some (.closed result) →
    result = .ok 0 ∧ s.device.txStreamActive = false ∧ s.device.activeTxStream = none
  rejected : ∀ call result, (s.device.beginCall call).outcome = some (.rejected result) →
    s.device.beginCall call = s.device.done (.rejected result)

theorem activate_refused {d : TxDevice} (hactive : d.txStreamActive = true) (stream : StreamToken)
    (flags : UInt32) (timeNs : ℤ) (numElems : ℕ) : ∃ status : ℤ, status ≠ 0 ∧
      d.beginCall (.activateStream stream flags timeNs numElems) = d.done (.rejected (.ok status)) := by
  simp only [TxDevice.beginCall]
  split
  · exact ⟨_, by decide, rfl⟩
  · split
    · exact ⟨_, by decide, rfl⟩
    · exact ⟨_, by decide, if_pos (by simp [hactive])⟩

theorem Reachable.betweenCalls {config : TxConfiguration} {s : TxSystem} (hs : Reachable config s)
    (hidle : s.lifecycle = .idle) : s.BetweenCalls := by
  have hstanding := hs.admission.standing
  rw [hidle] at hstanding
  have houtcomes := hs.outcomes
  refine ⟨fun hopen => ?_, fun hjoin => hstanding.active_of_joinable rfl hjoin,
    fun hactive => hstanding.token hactive (by simp), fun status houtcome => (houtcomes.ended _ houtcome).2,
    fun hactive stream flags timeNs => ⟨activate_refused hactive stream flags timeNs, ?_⟩,
    fun result houtcome hresult => ?_, fun result houtcome => (houtcomes.ended _ houtcome).2,
    fun result houtcome => (houtcomes.ended _ houtcome).2, fun call result houtcome => ?_⟩
  · obtain ⟨hactive, htoken⟩ := hstanding.live (.inl hopen)
    exact ⟨hactive, htoken, hstanding.pool htoken⟩
  · intro handle hfind hflags actions t hrun hend
    obtain ⟨u, hnext, hrest⟩ := Transition.run_cons.mp hrun
    have hu := admission_step hs.admission (step_of_next hnext)
    rw [next, if_pos hidle] at hnext
    cases hnext
    have hbegin : s.device.beginCall (.deactivateStream stream flags timeNs) =
        s.device.go (.stopFlag (.deactivate (flags &&& soapyHasTime != 0))) := by
      simp [TxDevice.beginCall, hfind, hflags]
    rw [hbegin] at hu hrest
    have hbefore : BeforeStop (.deactivate (flags &&& soapyHasTime != 0)) handle (s.setLifecycle
        (s.device.go (.stopFlag (.deactivate (flags &&& soapyHasTime != 0))))) :=
      ⟨rfl, by simp, hactive, findStreamHandle_some hfind⟩
    obtain ⟨before, rest, htrace⟩ := stop_issued hu hbefore hrest hend
    exact ⟨before, rest, htrace⟩
  · have hended : s.device.Ended (.activated result) := (houtcomes.ended _ houtcome).2
    have hinactive : s.device.txStreamActive = false :=
      Bool.eq_false_iff.mpr fun hactive => hresult (hended.mp hactive)
    exact ⟨hinactive, hstanding.closed_of_inactive hinactive⟩
  · obtain ⟨result', hsame, hdone⟩ := (begin_move s.device call).outcome houtcome
    cases hsame
    exact hdone

theorem activateStream_begin (d : TxDevice) (stream : StreamToken) (flags : UInt32) (timeNs : ℤ)
    (numElems : ℕ) :
    ((d.beginCall (.activateStream stream flags timeNs numElems)).pc = .idle ∨
      (d.beginCall (.activateStream stream flags timeNs numElems)).pc.isActivating = true) ∧
    (d.beginCall (.activateStream stream flags timeNs numElems)).device.buffers = d.buffers := by
  simp only [TxDevice.beginCall]
  split
  · exact ⟨.inl rfl, rfl⟩
  · split
    · exact ⟨.inl rfl, rfl⟩
    · split
      · exact ⟨.inl rfl, rfl⟩
      · cases d.activationCalls _ <;> exact ⟨.inr rfl, rfl⟩

/-- Two streams that do not stream, with one token: an activation of the first is also one of the
second, whatever was left behind in them. -/
theorem activations_follow {config : TxConfiguration} {s s' t : TxSystem} {stream : StreamToken}
    {flags : UInt32} {timeNs : ℤ} {numElems : ℕ} {actions : List TxAction} (hs : Reachable config s)
    (hs' : Reachable config s') (hidle : s.lifecycle = .idle) (hidle' : s'.lifecycle = .idle)
    (hactive : s.device.txStreamActive = false) (hactive' : s'.device.txStreamActive = false)
    (htoken : s'.device.activeTxStream = s.device.activeTxStream)
    (hprogress : ∀ u, s.next (.call (.activateStream stream flags timeNs numElems)) = some u →
      Transition.Along next (fun v _ => v.lifecycle ≠ .idle) u actions)
    (hrun : Transition.run next s (.call (.activateStream stream flags timeNs numElems) :: actions) =
      some t) :
    ∃ t', Transition.run next s' (.call (.activateStream stream flags timeNs numElems) ::
        actions.filter TxAction.ofLifecycle) = some t' ∧ Follows s s' t t' := by
  have hconfig : ∀ u, Reachable config u → u.device.config = config := by
    rintro u ⟨actions, hrun⟩
    exact Transition.run_invariant (I := fun u => u.device.config = config)
      (fun _ _ _ h hnext => (step_of_next hnext).config.trans h) rfl hrun
  have halike := TxDevice.alike_inactive hs.admission.standing hs'.admission.standing hidle hidle'
    ((hconfig s' hs').trans (hconfig s hs).symm) htoken hactive hactive'
  have hbegin := halike.begin stream flags timeNs numElems
  obtain ⟨u, hnext, hrest⟩ := Transition.run_cons.mp hrun
  have hprogress := hprogress u hnext
  have hnext' : s'.next (.call (.activateStream stream flags timeNs numElems)) = some (s'.setLifecycle
      (s'.device.beginCall (.activateStream stream flags timeNs numElems))) := by
    rw [next, if_pos hidle']
  have hu := admission_step hs.admission (step_of_next hnext)
  have hu' := admission_step hs'.admission (step_of_next hnext')
  rw [next, if_pos hidle] at hnext
  cases hnext
  have hfollows : Follows s s' (s.setLifecycle (s.device.beginCall
        (.activateStream stream flags timeNs numElems)))
      (s'.setLifecycle (s'.device.beginCall (.activateStream stream flags timeNs numElems))) :=
    ⟨hbegin.pc, hbegin.outcome, hbegin.trace, hbegin.alike, (activateStream_begin _ _ _ _ _).2⟩
  obtain ⟨t', hrun', hend⟩ := hfollows.run hu hu' (activateStream_begin _ _ _ _ _).1 hprogress hrest
  exact ⟨t', Transition.run_cons.mpr ⟨_, hnext', hrun'⟩, hend⟩

/-- No joinable thread is ever replaced, and between lifecycle calls the contract holds. An activation of
a stream that does not stream, also after a failed one, goes as on any other such stream with its
token, such as one that was just set up. -/
theorem tx_lifecycle_contract {config : TxConfiguration} {s : TxSystem} (hs : Reachable config s) :
    s.device.terminated = false ∧
    (s.lifecycle = .idle → s.BetweenCalls ∧
      (s.device.txStreamActive = false → ∀ s', Reachable config s' → s'.lifecycle = .idle →
        s'.device.txStreamActive = false → s'.device.activeTxStream = s.device.activeTxStream →
        ∀ stream flags timeNs numElems actions t,
          (∀ u, s.next (.call (.activateStream stream flags timeNs numElems)) = some u →
            Transition.Along next (fun v _ => v.lifecycle ≠ .idle) u actions) →
          Transition.run next s (.call (.activateStream stream flags timeNs numElems) :: actions) =
            some t →
          ∃ t', Transition.run next s' (.call (.activateStream stream flags timeNs numElems) ::
            actions.filter TxAction.ofLifecycle) = some t' ∧ Follows s s' t t')) := by
  refine ⟨hs.admission.standing.alive, fun hidle => ⟨hs.betweenCalls hidle, ?_⟩⟩
  intro hactive s' hs' hidle' hactive' htoken stream flags timeNs numElems actions t hprogress hrun
  exact activations_follow hs hs' hidle hidle' hactive hactive' htoken hprogress hrun

/-- An activation whose start fails, and the next one, which succeeds. -/
theorem tx_lifecycle_contract_retried :
    ∃ s s' t t', Transition.run next (create SmallTx.config)
        (SmallTx.setup ++ SmallTx.configure 0 ++ [.lifecycle (.sdk (-5))]) = some s ∧
      Transition.run next (create SmallTx.config) SmallTx.setup = some s' ∧
      Transition.run next s SmallTx.activate = some t ∧ t.device.txWritesStopping = false ∧
      Transition.run next s' SmallTx.activate = some t' ∧ Follows s s' t t' := by
  obtain ⟨s', hs', hfresh⟩ := Option.map_eq_some_iff.mp (show (Transition.run next
    (create SmallTx.config) SmallTx.setup).map (fun s => decide (s.lifecycle = .idle) &&
      (!s.device.txStreamActive && decide (s.device.activeTxStream = some ⟨100, 0, 0⟩))) = some true
      by decide +kernel)
  obtain ⟨s, hs, hfailed⟩ := Option.map_eq_some_iff.mp (show (Transition.run next
    (create SmallTx.config) (SmallTx.setup ++ SmallTx.configure 0 ++ [.lifecycle (.sdk (-5))])).map
      (fun s => decide (s.lifecycle = .idle) && (!s.device.txStreamActive &&
        decide (s.device.activeTxStream = some ⟨100, 0, 0⟩)) &&
        ((s.next (.call (.activateStream 100 0 0 0))).map fun u =>
          decide (Transition.Along next (fun v _ => v.lifecycle ≠ .idle) u SmallTx.activate.tail)) ==
            some true &&
        ((Transition.run next s SmallTx.activate).map fun t => t.device.txWritesStopping) ==
          some false) = some true by decide +kernel)
  simp only [Bool.and_eq_true, decide_eq_true_eq, Bool.not_eq_true', beq_iff_eq] at hfresh hfailed
  obtain ⟨hidle', hactive', htoken'⟩ := hfresh
  obtain ⟨⟨⟨hidle, hactive, htoken⟩, hprogress⟩, hopens⟩ := hfailed
  obtain ⟨t, ht, hopen⟩ := Option.map_eq_some_iff.mp hopens
  obtain ⟨u, hu, halong⟩ := Option.map_eq_some_iff.mp hprogress
  obtain ⟨t', ht', hfollows⟩ := ((tx_lifecycle_contract ⟨_, hs⟩).2 hidle).2 hactive s' ⟨_, hs'⟩ hidle'
    hactive' (htoken'.trans htoken.symm) 100 0 0 0 SmallTx.activate.tail t
    (fun v hv => Option.some.inj (hu.symm.trans hv) ▸ of_decide_eq_true halong) ht
  exact ⟨s, s', t, t', hs, hs', ht, hopen, ht', hfollows⟩

/-- The last call was refused with the code for unsupported arguments. -/
def unsupported (s : TxSystem) : Bool :=
  match s.outcome with
  | some (.rejected (.ok status)) => status == soapyNotSupported
  | _ => false

/-- A deactivation that is refused for its flags leaves an open stream open. -/
theorem refused_deactivation_stays_open :
    ¬ ∀ actions s t stream flags timeNs status,
      Transition.run next (create SmallTx.config) actions = some s →
      s.next (.call (.deactivateStream stream flags timeNs)) = some t →
      t.outcome = some (.rejected (.ok status)) ∨ t.outcome = some (.deactivated status) → status ≠ 0 →
      t.device.txStreamActive = true ∧ t.device.txWritesStopping = true ∧
        t.device.txStreamingThread = none := by
  intro hclaim
  obtain ⟨s, hs, hnext⟩ := Option.map_eq_some_iff.mp (show (Transition.run next
    (create SmallTx.config) (SmallTx.setup ++ SmallTx.activate)).map (fun s =>
      (s.next (.call (.deactivateStream 100 1 0))).map fun t =>
        !t.device.txWritesStopping && t.unsupported) = some (some true) by decide +kernel)
  obtain ⟨t, ht, hchecks⟩ := Option.map_eq_some_iff.mp hnext
  simp only [Bool.and_eq_true, Bool.not_eq_true'] at hchecks
  obtain ⟨hopen, houtcome⟩ := hchecks
  unfold unsupported at houtcome
  split at houtcome
  · next status heq =>
    obtain rfl : status = soapyNotSupported := by simpa using houtcome
    have hclosed := (hclaim _ s t 100 1 0 _ hs ht (.inl heq) (by decide)).2.1
    simp [hopen] at hclosed
  · cases houtcome

end TxSystem

end SoapySidekiq
