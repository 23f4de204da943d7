import SoapySidekiq.Tx.Drain
import SoapySidekiq.Tx.Waits

/-! # Activations do not depend on the past

Two activations of one token that see the same SDK results: every flag that the first attempts have
left behind is set again before anything reads it, so both issue the same SDK calls, end in the same
way and leave the same gate. -/
set_option autoImplicit false

namespace SoapySidekiq

/-! ## Alike devices -/

/-- The activation in progress has reset `first_transmit`. -/
def TxLifecyclePc.isPastReset (pc : TxLifecyclePc) : Bool :=
  match pc with
  | .resetStart _ | .creating _ | .raiseGate | .starting _ | .resetUnderruns | .activated | .opening =>
    true
  | _ => false

def TxLifecyclePc.isCreating (pc : TxLifecyclePc) : Bool :=
  match pc with
  | .creating _ => true
  | _ => false

namespace TxDevice

/-- `tx_underruns` is what this activation has set it to. -/
def Rebased (d : TxDevice) (pc : TxLifecyclePc) : Prop :=
  match d.txStreamingThread with
  | none => (d.txStreamActive = true ∨ pc = .activated) ∧ pc ≠ .resetUnderruns
  | some (.notifying status) | some (.finished status) => status = 0
  | some _ => False

/-- The devices agree in all that a lifecycle call at this place has set or is going to read. -/
structure Alike (d d' : TxDevice) (pc : TxLifecyclePc) : Prop where
  config : d'.config = d.config
  activeTxStream : d'.activeTxStream = d.activeTxStream
  txStreamActive : d'.txStreamActive = d.txStreamActive
  txWritesStopping : d'.txWritesStopping = d.txWritesStopping
  txStreamingThread : d'.txStreamingThread = d.txStreamingThread
  gate : d.txStreamActive = true ∨ pc.isPastReset = true → d'.firstTransmit = d.firstTransmit
  start : d.txStreamingThread.isSome = true ∨ pc.isCreating = true →
    d'.txStartFinished = d.txStartFinished ∧ d'.txStartStatus = d.txStartStatus
  underruns : d.Rebased pc → d'.txUnderruns = d.txUnderruns
  worker : pc = .raiseGate → d.txStreamingThread.isSome = true

/-- Two steps that do the same. -/
structure SameStep (d d' : TxDevice) (step step' : TxLifecycleStep) : Prop where
  pc : step'.pc = step.pc
  outcome : step'.outcome = step.outcome
  wake : step'.wake = step.wake
  trace : ∃ events, step.device.trace = d.trace ++ events ∧ step'.device.trace = d'.trace ++ events
  alike : step.device.Alike step'.device step.pc

theorem Rebased.back {d e : TxDevice} {pc pc' : TxLifecyclePc} (h : e.Rebased pc')
    (hthread : e.txStreamingThread = d.txStreamingThread)
    (hnone : d.txStreamingThread = none → e.txStreamActive = true ∨ pc' = .activated →
      pc' ≠ .resetUnderruns → (d.txStreamActive = true ∨ pc = .activated) ∧ pc ≠ .resetUnderruns) :
    d.Rebased pc := by
  unfold Rebased at h ⊢
  rw [hthread] at h
  split at h
  · next hnothread => exact hnone hnothread h.1 h.2
  · exact h
  · exact h
  · exact h.elim

theorem Alike.logged {d d' : TxDevice} {pc : TxLifecyclePc} (h : d.Alike d' pc) (event : SdkEvent) :
    (d.log event).Alike (d'.log event) pc := { h with underruns := h.underruns }

/-- A place at which nothing is expected of the flags that was not expected before. -/
theorem Alike.goto {d d' : TxDevice} {pc : TxLifecyclePc} (h : d.Alike d' pc) (pc' : TxLifecyclePc)
    (hpast : pc'.isPastReset = true → pc.isPastReset = true)
    (hcreating : pc'.isCreating = true → pc.isCreating = true) (hraise : pc' ≠ .raiseGate)
    (hactivated : pc' ≠ .activated) (hunderruns : pc ≠ .resetUnderruns) : d.Alike d' pc' :=
  { h with
    gate := fun hgate => h.gate (hgate.imp_right hpast)
    start := fun hstart => h.start (hstart.imp_right hcreating)
    underruns := fun hbase => h.underruns (hbase.back rfl fun _ hactive _ =>
      ⟨.inl (hactive.resolve_right hactivated), hunderruns⟩)
    worker := fun hpc => absurd hpc hraise }

theorem Alike.configure {d d' : TxDevice} {pc : TxLifecyclePc} (h : d.Alike d' pc)
    (hunderruns : pc ≠ .resetUnderruns) (onPps : Bool) (txHandle : UInt32) (calls : List SdkCall) :
    d.SameStep d' (d.configure onPps txHandle calls) (d'.configure onPps txHandle calls) := by
  cases calls with
  | nil =>
    refine ⟨rfl, rfl, rfl, ⟨[], by simp [TxDevice.configure]⟩, ?_⟩
    exact h.goto (.resetGate onPps txHandle) (by simp [TxLifecyclePc.isPastReset])
      (by simp [TxLifecyclePc.isCreating]) (by simp) (by simp) hunderruns
  | cons call rest =>
    refine ⟨rfl, rfl, rfl, ⟨[.issued call], rfl, rfl⟩, ?_⟩
    exact (h.logged _).goto (.configuring onPps txHandle call rest)
      (by simp [TxLifecyclePc.isPastReset]) (by simp [TxLifecyclePc.isCreating]) (by simp) (by simp)
      hunderruns

/-- An activation that fails at its place. -/
theorem Alike.failed {d d' : TxDevice} {pc : TxLifecyclePc} (h : d.Alike d' pc)
    (hunderruns : pc ≠ .resetUnderruns) (outcome : TxOutcome) :
    d.SameStep d' (d.done outcome) (d'.done outcome) :=
  ⟨rfl, rfl, rfl, ⟨[], by simp⟩, h.goto .idle (by simp [TxLifecyclePc.isPastReset])
    (by simp [TxLifecyclePc.isCreating]) (by simp) (by simp) hunderruns⟩

/-- The step is taken after the SDK call has returned. -/
theorem SameStep.returned {d d' : TxDevice} {event : SdkEvent} {step step' : TxLifecycleStep}
    (h : (d.log event).SameStep (d'.log event) step step') : d.SameStep d' step step' := by
  obtain ⟨hpc, houtcome, hwake, ⟨events, htrace, htrace'⟩, halike⟩ := h
  exact ⟨hpc, houtcome, hwake, ⟨event :: events, by simpa using htrace, by simpa using htrace'⟩, halike⟩

/-! ## Steps -/

theorem Alike.begin {d d' : TxDevice} (h : d.Alike d' .idle) (stream : StreamToken) (flags : UInt32)
    (timeNs : ℤ) (numElems : ℕ) :
    d.SameStep d' (d.beginCall (.activateStream stream flags timeNs numElems))
      (d'.beginCall (.activateStream stream flags timeNs numElems)) := by
  have hfind : d'.findStreamHandle stream = d.findStreamHandle stream := by
    simp only [findStreamHandle, h.activeTxStream]
  have hcalls : ∀ txHandle, d'.activationCalls txHandle = d.activationCalls txHandle := by
    simp [activationCalls, h.config]
  simp only [beginCall, hfind, h.txStreamActive, h.txStreamingThread, hcalls]
  split
  · exact h.failed (by simp) _
  · split
    · exact h.failed (by simp) _
    · split
      · exact h.failed (by simp) _
      · exact h.configure (by simp) _ _ _

/-- A step of an activation that every mutex is free for. -/
theorem Alike.lifecycle {free free' : Mutex → Bool} {d d' : TxDevice} {pc : TxLifecyclePc}
    {input : TxLifecycleInput} {step : TxLifecycleStep} (h : d.Alike d' pc)
    (hpc : pc.isActivating = true) (hfree : ∀ m, free m = true) (hfree' : ∀ m, free' m = true)
    (hstep : d.lifecycleStep free pc input = some step) :
    ∃ step', d'.lifecycleStep free' pc input = some step' ∧ d.SameStep d' step step' := by
  cases pc with
  | configuring onPps txHandle call rest =>
    cases input with
    | run | wake | throw => cases hstep
    | sdk status =>
      have hlogged := h.logged (.returned call (.ok status))
      simp only [lifecycleStep] at hstep ⊢
      split at hstep <;> cases hstep
      · exact ⟨_, if_pos ‹_›, (hlogged.failed (by simp) _).returned⟩
      · exact ⟨_, if_neg ‹_›, (hlogged.configure (by simp) _ _ _).returned⟩
  | starting txHandle =>
    cases input with
    | run | wake | throw => cases hstep
    | sdk status =>
      have hlogged := h.logged (.returned (.startTxStreaming txHandle) (.ok status))
      simp only [lifecycleStep] at hstep ⊢
      split at hstep <;> cases hstep
      · exact ⟨_, if_pos ‹_›, (hlogged.failed (by simp) _).returned⟩
      · refine ⟨_, if_neg ‹_›, rfl, rfl, rfl, ⟨[_], rfl, rfl⟩, ?_⟩
        exact { hlogged with
          txStreamActive := rfl
          gate := fun _ => hlogged.gate (.inr rfl)
          start := fun hstart => hlogged.start (.inl (by simpa [TxLifecyclePc.isCreating] using hstart))
          underruns := fun hbase => hlogged.underruns (hbase.back rfl (by simp))
          worker := by simp }
  | resetGate onPps txHandle =>
    cases input with
    | sdk | wake | throw => cases hstep
    | run =>
      cases onPps with
      | true =>
        cases hstep
        refine ⟨_, rfl, rfl, rfl, rfl, ⟨[], by simp⟩, ?_⟩
        exact { h with
          gate := fun _ => rfl
          start := fun hstart => h.start (.inl (by simpa [TxLifecyclePc.isCreating] using hstart))
          underruns := fun hbase => h.underruns (hbase.back rfl (by simp))
          worker := by simp }
      | false =>
        cases hstep
        refine ⟨_, rfl, rfl, rfl, rfl, ⟨[_], rfl, rfl⟩, ?_⟩
        exact { h with
          gate := fun _ => rfl
          start := fun hstart => h.start (.inl (by simpa [TxLifecyclePc.isCreating] using hstart))
          underruns := fun hbase => h.underruns (hbase.back rfl (by simp))
          worker := by simp }
  | resetStart txHandle =>
    cases input with
    | sdk | wake | throw => cases hstep
    | run =>
      simp only [lifecycleStep, hfree, hfree', if_true, Option.some.injEq] at hstep ⊢
      subst hstep
      refine ⟨_, rfl, rfl, rfl, rfl, ⟨[], by simp⟩, ?_⟩
      exact { h with
        gate := fun _ => h.gate (.inr rfl)
        start := fun _ => ⟨rfl, rfl⟩
        underruns := fun hbase => h.underruns (hbase.back rfl (by simp))
        worker := by simp }
  | creating txHandle =>
    cases input with
    | sdk | wake => cases hstep
    | throw e =>
      cases hstep
      exact ⟨_, rfl, h.failed (by simp) _⟩
    | run =>
      cases hstep
      refine ⟨_, rfl, rfl, rfl, rfl, ⟨[], by simp⟩, ?_⟩
      exact { h with
        txStreamingThread := rfl
        gate := fun _ => h.gate (.inr rfl)
        start := fun _ => h.start (.inr rfl)
        underruns := fun hbase => by simp [Rebased] at hbase
        worker := fun _ => rfl }
  | raiseGate =>
    cases input with
    | sdk | wake | throw => cases hstep
    | run =>
      have hworker := h.worker rfl
      cases hstep
      refine ⟨_, rfl, rfl, rfl, rfl, ⟨[], by simp⟩, ?_⟩
      exact { h with
        gate := fun _ => rfl
        start := fun _ => h.start (.inl hworker)
        underruns := fun hbase => h.underruns (hbase.back rfl fun hnone _ _ => by
          simp [hnone] at hworker)
        worker := by simp }
  | resetUnderruns =>
    cases input with
    | sdk | wake | throw => cases hstep
    | run =>
      simp only [lifecycleStep, hfree, hfree', if_true, Option.some.injEq] at hstep ⊢
      subst hstep
      refine ⟨_, rfl, rfl, rfl, rfl, ⟨[], by simp⟩, ?_⟩
      exact { h with
        gate := fun _ => h.gate (.inr rfl)
        start := fun hstart => h.start (.inl (by simpa [TxLifecyclePc.isCreating] using hstart))
        underruns := fun _ => rfl
        worker := by simp }
  | activated =>
    cases input with
    | sdk | wake | throw => cases hstep
    | run =>
      cases hstep
      refine ⟨_, rfl, rfl, rfl, rfl, ⟨[], by simp⟩, ?_⟩
      exact { h with
        txStreamActive := rfl
        gate := fun _ => h.gate (.inr rfl)
        start := fun hstart => h.start (.inl (by simpa [TxLifecyclePc.isCreating] using hstart))
        underruns := fun hbase => h.underruns (hbase.back rfl (by simp))
        worker := by simp }
  | opening =>
    cases input with
    | sdk | wake | throw => cases hstep
    | run =>
      simp only [lifecycleStep, hfree, hfree', Bool.and_self, if_true, Option.some.injEq] at hstep ⊢
      subst hstep
      refine ⟨_, rfl, rfl, rfl, rfl, ⟨[], by simp⟩, ?_⟩
      exact { h.goto .idle (by simp [TxLifecyclePc.isPastReset]) (by simp [TxLifecyclePc.isCreating])
        (by simp) (by simp) (by simp) with
        txWritesStopping := rfl }
  | idle | stopFlag | notifyCv | notifyChanged | draining | drainParked | joining | stopping | settingUp
  | allocating | publishing | destroyed => simp [TxLifecyclePc.isActivating] at hpc

theorem Alike.pps {free free' : Mutex → Bool} {d d' e : TxDevice} {pc : TxLifecyclePc}
    {result : Except Exception ℤ} {wake : Wake} (h : d.Alike d' pc) (hfree' : ∀ m, free' m = true)
    (hstep : d.ppsStep free result = some (e, wake)) :
    ∃ e', d'.ppsStep free' result = some (e', wake) ∧
      (∃ events, e.trace = d.trace ++ events ∧ e'.trace = d'.trace ++ events) ∧ e.Alike e' pc := by
  unfold ppsStep at hstep ⊢
  rw [h.txStreamingThread]
  split at hstep
  · cases hstep
  · next hthread =>
    cases hstep
    refine ⟨_, rfl, ⟨[_], rfl, rfl⟩, ?_⟩
    exact { h with
      txStreamingThread := rfl
      start := fun _ => h.start (.inl (by simp [hthread]))
      underruns := fun hbase => hbase.elim
      worker := fun _ => rfl }
  · next hthread =>
    cases hstep
    refine ⟨_, rfl, ⟨[_], rfl, rfl⟩, ?_⟩
    exact { h with
      txStreamingThread := rfl
      start := fun _ => h.start (.inl (by simp [hthread]))
      underruns := fun hbase => hbase.elim
      worker := fun _ => rfl }
  · next status hthread =>
    split at hstep
    · cases hstep
      refine ⟨_, if_pos (by simp [hfree']), ⟨[], by simp, by simp⟩, ?_⟩
      exact { h with
        txStreamingThread := rfl
        start := fun _ => ⟨rfl, rfl⟩
        underruns := fun hbase => by
          obtain rfl : status = 0 := hbase
          rfl
        worker := fun _ => rfl }
    · cases hstep
  · next status hthread =>
    cases hstep
    refine ⟨_, rfl, ⟨[], by simp, by simp⟩, ?_⟩
    exact { h with
      txStreamingThread := rfl
      start := fun _ => h.start (.inl (by simp [hthread]))
      underruns := fun hbase => h.underruns (by simpa [Rebased, hthread] using hbase)
      worker := fun _ => rfl }
  · cases hstep

/-- What calls and completions do while nobody is admitted. -/
theorem Alike.aside {d d' : TxDevice} {pc : TxLifecyclePc} (h : d.Alike d' pc)
    (completions : List TxCompletionState) (inFlight : List TxSendContext) (toNotify : List ℕ) :
    { d with completions := completions, inFlight := inFlight, toNotify := toNotify }.Alike d' pc :=
  { h with underruns := h.underruns }

/-- Two devices with the same token, neither of which streams. -/
theorem alike_inactive {d d' : TxDevice} {pc pc' : TxLifecyclePc} (h : d.Standing pc)
    (h' : d'.Standing pc') (hpc : pc = .idle) (hpc' : pc' = .idle) (hconfig : d'.config = d.config)
    (htoken : d'.activeTxStream = d.activeTxStream) (hactive : d.txStreamActive = false)
    (hactive' : d'.txStreamActive = false) : d.Alike d' .idle := by
  subst hpc hpc'
  have hthread : ∀ e : TxDevice, e.Standing .idle → e.txStreamActive = false →
      e.txStreamingThread = none := by
    intro e he heactive
    cases hjoin : e.txStreamingThread with
    | none => rfl
    | some worker =>
      simpa [heactive] using he.active_of_joinable rfl (by simp [hjoin])
  exact {
    config := hconfig
    activeTxStream := htoken
    txStreamActive := hactive'.trans hactive.symm
    txWritesStopping :=
      (h'.closed_of_inactive hactive').trans (h.closed_of_inactive hactive).symm
    txStreamingThread := (hthread d' h' hactive').trans (hthread d h hactive).symm
    gate := by simp [hactive, TxLifecyclePc.isPastReset]
    start := by simp [hthread d h hactive, TxLifecyclePc.isCreating]
    underruns := by simp [Rebased, hthread d h hactive, hactive]
    worker := by simp }

end TxDevice
/-! ## Two systems -/

/-- A step of the lifecycle call in progress, or of the PPS worker. -/
def TxAction.ofLifecycle : TxAction → Bool
  | .pps _ | .lifecycle _ => true
  | _ => false

/-- A call that is not admitted cannot change a closed device. -/
theorem WriterMove.outside {d d' : TxDevice} {id : ℕ} {w w' : Writer} (h : WriterMove d id w d' w')
    (hstop : d.txWritesStopping = true) (hw : w.admitted = false) : d' = d := by
  cases h with
  | unchecked | checked | refused | notified => rfl
  | admitted hpc hopen => simp [hstop] at hopen
  | _ => simp_all [Writer.admitted]

theorem PollerMove.outside {d d' : TxDevice} {p p' : Poller} (h : PollerMove d p d' p')
    (hstop : d.txWritesStopping = true) (hp : p.admitted = false) : d' = d := by
  cases h with
  | unchecked | checked | refused | notified => rfl
  | admitted hpc hopen => simp [hstop] at hopen
  | _ => simp_all [Poller.admitted]

/-- An activation goes on or ends. -/
theorem LifecycleMove.activating {free : Mutex → Bool} {d : TxDevice} {pc : TxLifecyclePc}
    {step : TxLifecycleStep} (h : LifecycleMove free d pc step) (hpc : pc.isActivating = true) :
    step.pc = .idle ∨ step.pc.isActivating = true := by
  cases h with
  | configured onPps txHandle call rest => cases rest <;> exact .inr rfl
  | _ => simp_all [TxLifecyclePc.isActivating]

theorem LifecycleMove.quiet {free : Mutex → Bool} {d : TxDevice} {pc : TxLifecyclePc}
    {step : TxLifecycleStep} (h : LifecycleMove free d pc step) (hpc : pc.isActivating = true) :
    step.wake = .nobody := by
  cases h with
  | configured onPps txHandle call rest => cases rest <;> rfl
  | notifiedCv | notifiedChanged | unneeded | unstopped | stopped =>
    simp [TxLifecyclePc.isActivating] at hpc
  | _ => rfl

/-- The stream's block pool, and what the packets are made from. -/
def TxDevice.buffers (d : TxDevice) : ℕ × Option (List Bytes) × ℕ × Bool :=
  (d.txCompletion, d.txBlocks, d.txBlockIndex, d.txUseShort)

theorem LifecycleMove.buffers {free : Mutex → Bool} {d : TxDevice} {pc : TxLifecyclePc}
    {step : TxLifecycleStep} (h : LifecycleMove free d pc step) (hpc : pc.isActivating = true) :
    step.device.buffers = d.buffers := by
  cases h with
  | configured onPps txHandle call rest => cases rest <;> rfl
  | unneeded | unstopped | stopped | allocated => simp [TxLifecyclePc.isActivating] at hpc
  | _ => rfl

namespace TxSystem

theorem Quiet.free {s : TxSystem} (h : s.Quiet) (m : Mutex) : s.free m = true := by
  simp only [TxSystem.free, Bool.and_eq_true, List.all_eq_true, Bool.not_eq_true']
  constructor
  · intro w hw
    cases hholds : w.holds m with
    | false => rfl
    | true => simpa [h.1 w hw] using Writer.holds_admitted hholds
  · intro p hp
    cases hholds : p.holds m with
    | false => rfl
    | true => simpa [h.2 p hp] using Poller.holds_admitted hholds

/-- A call or a completion, while an activation is in progress. -/
theorem Quiet.aside {s t : TxSystem} {a : TxAction} (h : s.Quiet)
    (hclosed : s.device.txWritesStopping = true) (hpc : s.lifecycle.isActivating = true)
    (hstep : TxStep s a t) (ha : a.ofLifecycle = false) :
    t.lifecycle = s.lifecycle ∧ t.outcome = s.outcome ∧ ∃ completions inFlight toNotify,
      t.device = { s.device with
        completions := completions, inFlight := inFlight, toNotify := toNotify } := by
  have hnotify : ∀ (u : TxSystem) wake, u.lifecycle = s.lifecycle → u.outcome = s.outcome →
      (u.notify wake).lifecycle = s.lifecycle ∧ (u.notify wake).outcome = s.outcome := by
    intro u wake hlifecycle houtcome
    cases wake with
    | nobody | cv => exact ⟨hlifecycle, houtcome⟩
    | changed =>
      refine ⟨?_, houtcome⟩
      simp only [TxSystem.notify, hlifecycle]
      cases hat : s.lifecycle <;> simp [hat, TxLifecyclePc.isActivating] at hpc ⊢
  cases hstep with
  | writeStream | readStreamStatus => exact ⟨rfl, rfl, _, _, _, rfl⟩
  | writer id input w w' d' hw hmove =>
    obtain ⟨hlifecycle, houtcome⟩ := hnotify (s.setWriter id d' w') (writerWake w) rfl rfl
    refine ⟨hlifecycle, houtcome, s.device.completions, s.device.inFlight, s.device.toNotify, ?_⟩
    rw [notify_device, setWriter_device, hmove.outside hclosed (h.1 w (List.mem_of_getElem? hw))]
  | poller id input p p' d' hp hmove =>
    obtain ⟨hlifecycle, houtcome⟩ := hnotify (s.setPoller id d' p') (pollerWake p) rfl rfl
    refine ⟨hlifecycle, houtcome, s.device.completions, s.device.inFlight, s.device.toNotify, ?_⟩
    rw [notify_device, setPoller_device, hmove.outside hclosed (h.2 p (List.mem_of_getElem? hp))]
  | pps | lifecycle => cases ha
  | complete index context =>
    obtain ⟨completions, toNotify, heq⟩ := callBack_changes s.device index context
    exact ⟨rfl, rfl, completions, _, toNotify, heq⟩
  | notifyCompletion index wake =>
    obtain ⟨hlifecycle, houtcome⟩ := hnotify (s.setDevice { s.device with
      toNotify := s.device.toNotify.eraseIdx index }) wake rfl rfl
    exact ⟨hlifecycle, houtcome, _, _, _, by rw [notify_device]; rfl⟩
  | call call step hidle => simp [hidle, TxLifecyclePc.isActivating] at hpc

/-- `t` follows an activation that begins in `s`, and `t'` the same one from `s'`. -/
structure Follows (s s' t t' : TxSystem) : Prop where
  lifecycle : t'.lifecycle = t.lifecycle
  outcome : t'.outcome = t.outcome
  trace : ∃ events, t.device.trace = s.device.trace ++ events ∧
    t'.device.trace = s'.device.trace ++ events
  alike : t.device.Alike t'.device t.lifecycle
  buffers : t.device.buffers = s.device.buffers

/-- The step leaves what it has not set as the activation has found it. -/
theorem Follows.moved {s s' t t' u u' : TxSystem} (h : Follows s s' t t')
    (hlifecycle : u'.lifecycle = u.lifecycle) (houtcome : u'.outcome = u.outcome)
    (htrace : ∃ events, u.device.trace = t.device.trace ++ events ∧
      u'.device.trace = t'.device.trace ++ events)
    (halike : u.device.Alike u'.device u.lifecycle) (hbuffers : u.device.buffers = t.device.buffers) :
    Follows s s' u u' := by
  obtain ⟨first, hfirst, hfirst'⟩ := h.trace
  obtain ⟨events, hevents, hevents'⟩ := htrace
  refine ⟨hlifecycle, houtcome, ⟨first ++ events, ?_, ?_⟩, halike, hbuffers.trans h.buffers⟩
  · rw [hevents, hfirst, List.append_assoc]
  · rw [hevents', hfirst', List.append_assoc]

/-- Each step of the activation can be taken in the other system too, and the others do not matter. -/
theorem Follows.step {s s' t t' u : TxSystem} {a : TxAction} (h : Follows s s' t t')
    (hpc : t.lifecycle.isActivating = true) (hclosed : t.device.txWritesStopping = true)
    (hquiet : t.Quiet) (hquiet' : t'.Quiet) (hnext : t.next a = some u) :
    if a.ofLifecycle then ∃ u', t'.next a = some u' ∧ Follows s s' u u' else Follows s s' u t' := by
  split
  · next ha =>
    cases a with
    | writeStream | readStreamStatus | writer | poller | complete | notifyCompletion | call => cases ha
    | pps result =>
      obtain ⟨⟨e, wake⟩, hstep, rfl⟩ := Option.map_eq_some_iff.mp hnext
      obtain ⟨e', hstep', htrace, halike⟩ := h.alike.pps hquiet'.free hstep
      have hwake : wake = .nobody ∨ wake = .cv := by
        cases pps_move hstep <;> simp
      have hbuffers : e.buffers = t.device.buffers := by
        cases pps_move hstep <;> rfl
      refine ⟨_, by rw [next, hstep']; rfl, ?_⟩
      rcases hwake with rfl | rfl <;> exact h.moved h.lifecycle h.outcome htrace halike hbuffers
    | lifecycle input =>
      obtain ⟨step, hstep, rfl⟩ := Option.map_eq_some_iff.mp hnext
      obtain ⟨step', hstep', hsame⟩ := h.alike.lifecycle hpc hquiet.free hquiet'.free hstep
      have hmove := lifecycle_move hstep
      have hwake := hmove.quiet hpc
      refine ⟨(t'.setLifecycle step').notify step'.wake, ?_, ?_⟩
      · rw [next, h.lifecycle, hstep']
        rfl
      · rw [hsame.wake, hwake]
        exact h.moved hsame.pc hsame.outcome hsame.trace hsame.alike (hmove.buffers hpc)
  · next ha =>
    obtain ⟨hlifecycle, houtcome, completions, inFlight, toNotify, hdevice⟩ :=
      hquiet.aside hclosed hpc (step_of_next hnext) (by simpa using ha)
    refine h.moved (h.lifecycle.trans hlifecycle.symm) (h.outcome.trans houtcome.symm)
      ⟨[], by simp [hdevice], by simp⟩ ?_ (by rw [hdevice]; rfl)
    rw [hdevice, hlifecycle]
    exact h.alike.aside _ _ _

theorem isClosed_of_isActivating {pc : TxLifecyclePc} (h : pc.isActivating = true) :
    pc.isClosed = true := by
  revert h
  cases pc <;> simp [TxLifecyclePc.isActivating, TxLifecyclePc.isClosed]

/-- After a step of an activation it is in progress or over. -/
theorem activating_step {t u : TxSystem} {a : TxAction} (hpc : t.lifecycle.isActivating = true)
    (hstep : TxStep t a u) (hquiet : t.Quiet) (hclosed : t.device.txWritesStopping = true) :
    u.lifecycle = .idle ∨ u.lifecycle.isActivating = true := by
  cases ha : a.ofLifecycle with
  | false => exact .inr ((hquiet.aside hclosed hpc hstep ha).1 ▸ hpc)
  | true =>
    cases hstep with
    | writeStream | readStreamStatus | writer | poller | complete | notifyCompletion | call => cases ha
    | pps result d' wake hmove =>
      cases hmove <;> exact .inr hpc
    | lifecycle input step hmove =>
      rw [hmove.quiet hpc]
      exact hmove.activating hpc

theorem Follows.run {s s' t t' u : TxSystem} {actions : List TxAction} (h : Follows s s' t t')
    (ht : t.Admission) (ht' : t'.Admission)
    (hpc : t.lifecycle = .idle ∨ t.lifecycle.isActivating = true)
    (hprogress : Transition.Along next (fun v _ => v.lifecycle ≠ .idle) t actions)
    (hrun : Transition.run next t actions = some u) :
    ∃ u', Transition.run next t' (actions.filter TxAction.ofLifecycle) = some u' ∧
      Follows s s' u u' := by
  induction actions generalizing t t' with
  | nil =>
    cases hrun
    exact ⟨t', rfl, h⟩
  | cons a actions ih =>
    obtain ⟨v, hnext, hrest⟩ := Transition.run_cons.mp hrun
    have hactivating := hpc.resolve_left hprogress.1
    have hclosed := ht.standing.closed (isClosed_of_isActivating hactivating)
    have hundrained : t.lifecycle.isDraining = false := by
      revert hactivating
      cases t.lifecycle <;> simp [TxLifecyclePc.isActivating, TxLifecyclePc.isDraining]
    have hquiet := ht.quiet hclosed hundrained
    have hquiet' := ht'.quiet (h.alike.txWritesStopping.trans hclosed) (h.lifecycle ▸ hundrained)
    have hv := admission_step ht (step_of_next hnext)
    have hvpc := activating_step hactivating (step_of_next hnext) hquiet hclosed
    have hstep := h.step hactivating hclosed hquiet hquiet' hnext
    cases ha : a.ofLifecycle with
    | true =>
      obtain ⟨v', hnext', hfollows⟩ := by simpa only [ha, if_true] using hstep
      obtain ⟨u', hrun', hend⟩ := ih hfollows hv (admission_step ht' (step_of_next hnext')) hvpc
        (hprogress.2 v hnext) hrest
      refine ⟨u', ?_, hend⟩
      rw [List.filter_cons_of_pos ha]
      exact Transition.run_cons.mpr ⟨v', hnext', hrun'⟩
    | false =>
      have hfollows : Follows s s' v t' := by simpa only [ha, if_false, Bool.false_eq_true] using hstep
      obtain ⟨u', hrun', hend⟩ := ih hfollows hv ht' hvpc (hprogress.2 v hnext) hrest
      refine ⟨u', ?_, hend⟩
      rwa [List.filter_cons_of_neg (by simp [ha])]

end TxSystem

end SoapySidekiq
