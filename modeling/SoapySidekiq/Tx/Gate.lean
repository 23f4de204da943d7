import Mathlib.Data.List.Induction
import SoapySidekiq.Foundations.Monitor
import SoapySidekiq.Tx.Trace

/-! # Transmitting only inside a successful activation

The trace is monitored for whether the last start of the hardware has succeeded and nothing but
transmissions and counter reads has happened since. The gate keeps this of every transmission:
`first_transmit`, the published start status and the admission flag are stale only while no write
can be past the gate. -/
set_option autoImplicit false

namespace SoapySidekiq

/-! ## The monitor -/

/-- Whether the hardware streams after the event. -/
def SdkEvent.streaming (on : Bool) : SdkEvent → Bool
  | .returned (.startTxStreaming _) result | .returned (.startTxStreamingOn1pps _) result =>
    decide (result = .ok 0)
  | e => on && (e.kind == .transmit || e.kind == .status)

/-- The last start has returned 0, and since then there were only transmissions and reads. -/
def streaming (trace : List SdkEvent) : Bool := Monitor.after SdkEvent.streaming false trace

@[simp] theorem streaming_snoc (trace : List SdkEvent) (e : SdkEvent) :
    streaming (trace ++ [e]) = e.streaming (streaming trace) := by
  simp [streaming, Monitor.after]

theorem streaming_kept {e : SdkEvent} (h : e.kind = .transmit ∨ e.kind = .status) (on : Bool) :
    SdkEvent.streaming on e = on := by
  unfold SdkEvent.streaming
  split <;> simp_all [SdkEvent.kind, SdkCall.kind]

theorem streaming_append {trace events : List SdkEvent}
    (h : ∀ e ∈ events, e.kind = .transmit ∨ e.kind = .status) :
    streaming (trace ++ events) = streaming trace := by
  induction events generalizing trace with
  | nil => rw [List.append_nil]
  | cons e events ih =>
    have hrest := @ih (trace ++ [e]) fun f hf => h f (List.mem_cons_of_mem _ hf)
    rw [List.append_assoc, List.singleton_append] at hrest
    rw [hrest]
    rw [streaming_snoc, streaming_kept (h e List.mem_cons_self)]

/-- A trace after which the hardware streams. -/
theorem streaming_since {trace : List SdkEvent} (h : streaming trace = true) :
    ∃ earlier start since, trace = earlier ++ .returned start (.ok 0) :: since ∧
      start.kind = .start ∧ ∀ e ∈ since, e.kind = .transmit ∨ e.kind = .status := by
  induction trace using List.reverseRecOn with
  | nil => cases h
  | append_singleton trace e ih =>
    have hlast : SdkEvent.streaming (streaming trace) e = true := streaming_snoc trace e ▸ h
    unfold SdkEvent.streaming at hlast
    split at hlast
    · next txHandle result =>
      obtain rfl := of_decide_eq_true hlast
      exact ⟨trace, _, [], rfl, rfl, by simp⟩
    · next txHandle result =>
      obtain rfl := of_decide_eq_true hlast
      exact ⟨trace, _, [], rfl, rfl, by simp⟩
    · simp only [Bool.and_eq_true, Bool.or_eq_true, beq_iff_eq] at hlast
      obtain ⟨hon, hkind⟩ := hlast
      obtain ⟨earlier, start, since, rfl, hstart, hsince⟩ := ih hon
      refine ⟨earlier, start, since ++ [e], by simp, hstart, fun f hf => ?_⟩
      rcases List.mem_append.mp hf with hf | hf
      · exact hsince f hf
      · rw [List.mem_singleton.mp hf]; exact hkind

/-- Transmissions happen while the hardware streams. -/
abbrev Guarded : List SdkEvent → Prop :=
  Monitor.Always SdkEvent.streaming false fun on e => e.kind = .transmit → on = true

/-! ## The gate -/

namespace TxDevice

/-- What the PPS worker has published, against what it has done. -/
def WorkerState (d : TxDevice) : Prop :=
  match d.txStreamingThread with
  | none => streaming d.trace = true
  | some (.ready _) | some (.starting _) => d.txStartFinished = false
  | some (.publishing status) =>
    d.txStartFinished = false ∧ (status = 0 → streaming d.trace = true)
  | some (.notifying status) | some (.finished status) =>
    d.txStartFinished = true ∧ d.txStartStatus = status ∧ (status = 0 → streaming d.trace = true)

/-- The gate is open without a worker, shut before the worker has published, and stays shut if its
start has failed. -/
def GateState (d : TxDevice) : Prop :=
  match d.txStreamingThread with
  | none => d.firstTransmit = false
  | some (.ready _) | some (.starting _) | some (.publishing _) => d.firstTransmit = true
  | some (.notifying status) | some (.finished status) => status ≠ 0 → d.firstTransmit = true

def Live (d : TxDevice) : Prop :=
  d.txWritesStopping = false ∨ 0 < d.activeTxWriters ∨ 0 < d.activeTxStatusReaders

/-- What an activation has set up at its place. -/
def Arming (d : TxDevice) : TxLifecyclePc → Prop
  | .starting _ => d.firstTransmit = false
  | .creating _ => d.txStartFinished = false
  | .raiseGate => d.WorkerState ∧ d.txStreamingThread.isSome = true
  | .resetUnderruns | .activated | .opening => d.WorkerState ∧ d.GateState
  | _ => True

theorem streaming_of_gate {d : TxDevice} (hworker : d.WorkerState) (hgate : d.GateState)
    (hfirst : d.firstTransmit = false) : streaming d.trace = true := by
  unfold WorkerState at hworker
  unfold GateState at hgate
  split at hworker <;> simp_all

/-- What a call may do to the gate: open it, when it has found the start finished and successful. -/
def Opens (d d' : TxDevice) : Prop :=
  d'.firstTransmit = d.firstTransmit ∨
    d'.firstTransmit = false ∧ d.txStartFinished = true ∧ d.txStartStatus = 0

theorem WorkerState.call {d d' : TxDevice} (h : d.WorkerState) (hf : CallFrame d d')
    (hstreaming : streaming d'.trace = streaming d.trace) : d'.WorkerState := by
  unfold WorkerState at h ⊢
  rw [hf.txStreamingThread, hf.txStartFinished, hf.txStartStatus, hstreaming]
  exact h

/-- A start that a call finds finished and successful is the one of this activation. -/
theorem GateState.call {d d' : TxDevice} (h : d.GateState) (hworker : d.WorkerState)
    (hf : CallFrame d d') (hopens : d.Opens d') : d'.GateState := by
  unfold WorkerState at hworker
  unfold GateState at h ⊢
  rw [hf.txStreamingThread]
  rcases hopens with hsame | ⟨hfalse, hfinished, hstatus⟩
  · rw [hsame]; exact h
  · split at hworker <;> simp_all

theorem Arming.call {d d' : TxDevice} {pc : TxLifecyclePc} (h : d.Arming pc) (hf : CallFrame d d')
    (hopens : d.Opens d') (hstreaming : streaming d'.trace = streaming d.trace) : d'.Arming pc := by
  cases pc with
  | starting =>
    rcases hopens with hsame | ⟨hfalse, -⟩
    · exact hsame.trans h
    · exact hfalse
  | creating => exact hf.txStartFinished.trans h
  | raiseGate => exact ⟨h.1.call hf hstreaming, by rw [hf.txStreamingThread]; exact h.2⟩
  | resetUnderruns | activated | opening =>
    exact ⟨h.1.call hf hstreaming, h.2.call h.1 hf hopens⟩
  | _ => trivial

end TxDevice

theorem WriterMove.opens {d d' : TxDevice} {id : ℕ} {w w' : Writer} (h : WriterMove d id w d' w') :
    d.Opens d' := by
  cases h with
  | started _ _ _ hfinished hstatus => exact .inr ⟨rfl, hfinished, hstatus⟩
  | submitted _ _ hfill => subst hfill; exact .inl rfl
  | _ => exact .inl rfl

/-- A call gets past the gate only while it is open. -/
theorem WriterMove.passes {d d' : TxDevice} {id : ℕ} {w w' : Writer} (h : WriterMove d id w d' w')
    (hw : w'.pastGate = true) : w.pastGate = true ∨ d'.firstTransmit = false := by
  cases h with
  | ungated _ hgate => exact .inr hgate
  | started => exact .inr rfl
  | _ => simp_all [Writer.pastGate]

theorem PpsMove.worker {d d' : TxDevice} {wake : Wake} (h : PpsMove d d' wake)
    (hworker : d.WorkerState) : d'.WorkerState := by
  unfold TxDevice.WorkerState at hworker ⊢
  cases h with
  | issued _ hthread => simpa [hthread] using hworker
  | returned _ result hthread =>
    simp only [hthread] at hworker
    refine ⟨hworker, fun hstatus => ?_⟩
    cases result with
    | error e => simp [TxDevice.startStatus, soapyStreamError] at hstatus
    | ok status =>
      obtain rfl : status = 0 := hstatus
      simp [SdkEvent.streaming]
  | published _ _ hthread =>
    simp only [hthread] at hworker
    exact ⟨rfl, rfl, hworker.2⟩
  | notified _ hthread =>
    simp only [hthread] at hworker
    exact hworker

theorem PpsMove.gate {d d' : TxDevice} {wake : Wake} (h : PpsMove d d' wake)
    (hgate : d.GateState) : d'.GateState := by
  unfold TxDevice.GateState at hgate ⊢
  cases h with
  | issued _ hthread | returned _ _ hthread | notified _ hthread =>
    simpa [hthread] using hgate
  | published _ _ hthread =>
    simp only [hthread] at hgate
    exact fun _ => hgate

theorem stopped_arming (d : TxDevice) (caller : StopCaller) (status : ℤ) :
    (d.stopped caller status).device.Arming (d.stopped caller status).pc ∧
      (d.stopped caller status).device.txWritesStopping = d.txWritesStopping ∧
      (d.stopped caller status).pc.isDraining = false := by
  unfold TxDevice.stopped
  cases caller with
  | close => dsimp only; split <;> exact ⟨trivial, rfl, rfl⟩
  | deactivate | destroy => exact ⟨trivial, rfl, rfl⟩

theorem LifecycleMove.arming {free : Mutex → Bool} {d : TxDevice} {pc : TxLifecyclePc}
    {step : TxLifecycleStep} (h : LifecycleMove free d pc step) (harming : d.Arming pc)
    (hplace : d.Place pc) : step.device.Arming step.pc := by
  cases h with
  | unneeded | unstopped | stopped => exact (stopped_arming _ _ _).1
  | configured onPps txHandle call rest => cases rest <;> trivial
  | resetNow | resetStart => exact rfl
  | created txHandle => exact ⟨harming, rfl⟩
  | raised =>
    obtain ⟨hworker, hthread⟩ := harming
    refine ⟨hworker, ?_⟩
    simp only [TxDevice.go_device, TxDevice.GateState]
    split <;> simp_all
  | started txHandle =>
    have hnone : d.txStreamingThread = none := hplace.1
    have hfirst : d.firstTransmit = false := harming
    refine ⟨?_, ?_⟩
    · simp [TxDevice.WorkerState, hnone, SdkEvent.streaming]
    · simp [TxDevice.GateState, hnone, hfirst]
  | resetUnderruns | activated => exact harming
  | _ => trivial

/-- The worker's start has not succeeded: it is pending, has failed or has thrown. -/
def PpsWorker.unsuccessful : PpsWorker → Bool
  | .ready _ | .starting _ => true
  | .publishing status | .notifying status | .finished status => status != 0

/-- The worker has not published a status. -/
def PpsWorker.pending : PpsWorker → Bool
  | .ready _ | .starting _ | .publishing _ => true
  | .notifying _ | .finished _ => false

/-! ## The system -/

namespace TxSystem

structure Gate (s : TxSystem) : Prop where
  guarded : Guarded s.device.trace
  live : s.device.Live → s.device.WorkerState ∧ s.device.GateState
  passed : ∀ w ∈ s.writers, w.pastGate = true → s.device.firstTransmit = false
  arming : s.device.Arming s.lifecycle

theorem Gate.notify {s : TxSystem} (h : s.Gate) (wake : Wake) : (s.notify wake).Gate := by
  cases wake with
  | nobody => exact h
  | cv =>
    refine ⟨h.guarded, h.live, ?_, h.arming⟩
    exact ThreadPool.forall_map h.passed fun w hw hpast => hw (by simpa using hpast)
  | changed =>
    refine ⟨h.guarded, h.live, ?_, ?_⟩
    · exact ThreadPool.forall_map h.passed fun w hw hpast => hw (by simpa using hpast)
    · have harming := h.arming
      simp only [TxSystem.notify]
      split
      · trivial
      · exact harming

theorem Admission.live {s : TxSystem} (hs : s.Admission) {w : Writer} (hw : w ∈ s.writers)
    (hpast : w.pastGate = true) : s.device.Live := by
  obtain ⟨id, hid⟩ := List.getElem?_of_mem hw
  exact .inr (.inl (hs.writer_pos hid (Writer.pastGate_admitted hpast)))

/-- A write that is past the gate is inside a successful activation. -/
theorem Gate.streaming {s : TxSystem} (h : s.Gate) (hs : s.Admission) {w : Writer}
    (hw : w ∈ s.writers) (hpast : w.pastGate = true) : streaming s.device.trace = true := by
  obtain ⟨hworker, hgate⟩ := h.live (hs.live hw hpast)
  exact TxDevice.streaming_of_gate hworker hgate (h.passed w hw hpast)

theorem Gate.writer {s : TxSystem} {id : ℕ} {w w' : Writer} {d' : TxDevice} (h : s.Gate)
    (hs : s.Admission) (hw : s.writers[id]? = some w) (hmove : WriterMove s.device id w d' w') :
    (s.setWriter id d' w').Gate := by
  have hmem := List.mem_of_getElem? hw
  obtain ⟨events, htrace, hevents⟩ := hmove.trace
  have hstreaming : SoapySidekiq.streaming d'.trace = SoapySidekiq.streaming s.device.trace := by
    rw [htrace]
    exact streaming_append fun e he => .inl (hevents e he).1
  refine ⟨?_, ?_, ?_, h.arming.call hmove.frame hmove.opens hstreaming⟩
  · rw [setWriter_device, htrace]
    cases events with
    | nil => simpa using h.guarded
    | cons e events =>
      have hon := h.streaming hs hmem (hevents e List.mem_cons_self).2
      exact (Monitor.always_append (I := fun on => on = true) h.guarded hon fun f hf on hon' =>
        ⟨fun _ => hon', (streaming_kept (.inl (hevents f hf).1) on).trans hon'⟩).1
  · intro hlive
    have hbefore : s.device.Live := by
      rcases hlive with hopen | hwriters | hreaders
      · exact .inl (hmove.frame.txWritesStopping ▸ hopen)
      · rcases hmove.lowers with hle | hopen
        · exact .inr (.inl (Nat.lt_of_lt_of_le hwriters hle))
        · exact .inl hopen
      · exact .inr (.inr (hmove.readers ▸ hreaders))
    obtain ⟨hworker, hgate⟩ := h.live hbefore
    exact ⟨hworker.call hmove.frame hstreaming, hgate.call hworker hmove.frame hmove.opens⟩
  · have hfalse : s.device.firstTransmit = false → d'.firstTransmit = false := by
      intro hfirst
      rcases hmove.opens with hsame | ⟨hfalse, -⟩
      · exact hsame.trans hfirst
      · exact hfalse
    refine ThreadPool.forall_set (fun v hv hpast => hfalse (h.passed v hv hpast)) ?_ id
    intro hpast
    rcases hmove.passes hpast with hw' | hdone
    · exact hfalse (h.passed w hmem hw')
    · exact hdone

theorem guarded_append {trace events : List SdkEvent} (h : Guarded trace)
    (hevents : ∀ e ∈ events, e.kind ≠ .transmit) : Guarded (trace ++ events) :=
  (Monitor.always_append (I := fun _ => True) h trivial fun e he _ _ =>
    ⟨fun hkind => absurd hkind (hevents e he), trivial⟩).1

theorem Gate.poller {s : TxSystem} {id : ℕ} {p p' : Poller} {d' : TxDevice} (h : s.Gate)
    (hmove : PollerMove s.device p d' p') : (s.setPoller id d' p').Gate := by
  obtain ⟨events, htrace, hevents⟩ := hmove.trace
  have hstreaming : SoapySidekiq.streaming d'.trace = SoapySidekiq.streaming s.device.trace := by
    rw [htrace]
    exact streaming_append fun e he => .inr (hevents e he).1
  have hfirst : d'.firstTransmit = s.device.firstTransmit := by
    obtain ⟨_, _, _, rfl⟩ := hmove.changes
    rfl
  have hwriters : d'.activeTxWriters = s.device.activeTxWriters := by
    obtain ⟨_, _, _, rfl⟩ := hmove.changes
    rfl
  refine ⟨?_, ?_, fun w hw hpast => hfirst.trans (h.passed w hw hpast),
    h.arming.call hmove.frame (.inl hfirst) hstreaming⟩
  · rw [setPoller_device, htrace]
    exact guarded_append h.guarded fun e he => by simp [(hevents e he).1]
  · intro hlive
    have hbefore : s.device.Live := by
      rcases hlive with hopen | hactive | hreaders
      · exact .inl (hmove.frame.txWritesStopping ▸ hopen)
      · exact .inr (.inl (hwriters ▸ hactive))
      · rcases hmove.lowers with hle | hopen
        · exact .inr (.inr (Nat.lt_of_lt_of_le hreaders hle))
        · exact .inl hopen
    obtain ⟨hworker, hgate⟩ := h.live hbefore
    exact ⟨hworker.call hmove.frame hstreaming, hgate.call hworker hmove.frame (.inl hfirst)⟩

theorem Gate.pps {s : TxSystem} {d' : TxDevice} {wake : Wake} (h : s.Gate) (hs : s.Admission)
    (hmove : PpsMove s.device d' wake) : (s.setDevice d').Gate := by
  have hfirst : d'.firstTransmit = s.device.firstTransmit := by cases hmove <;> rfl
  have hthread : d'.txStreamingThread.isSome = true := by cases hmove <;> rfl
  obtain ⟨events, htrace, hevents⟩ := hmove.trace
  refine ⟨?_, ?_, fun w hw hpast => hfirst.trans (h.passed w hw hpast), ?_⟩
  · rw [setDevice_device, htrace]
    exact guarded_append h.guarded fun e he => by simp [hevents e he]
  · intro hlive
    have hbefore : s.device.Live := by cases hmove <;> exact hlive
    exact ⟨hmove.worker (h.live hbefore).1, hmove.gate (h.live hbefore).2⟩
  · have harming := h.arming
    have hplace := hs.standing.place
    simp only [setDevice_device, setDevice_lifecycle]
    generalize s.lifecycle = pc at harming hplace
    cases pc with
    | starting => exact hfirst.trans harming
    | creating => cases hmove <;> simp_all [TxDevice.Place]
    | raiseGate => exact ⟨hmove.worker harming.1, hthread⟩
    | resetUnderruns | activated | opening => exact ⟨hmove.worker harming.1, hmove.gate harming.2⟩
    | _ => trivial

/-- A state with nobody admitted and admission closed. -/
theorem gate_of_quiet {s : TxSystem} (hs : s.Admission) (hclosed : s.device.txWritesStopping = true)
    (hdrain : s.lifecycle.isDraining = false) (hguarded : Guarded s.device.trace)
    (harming : s.device.Arming s.lifecycle) : s.Gate := by
  obtain ⟨hwriters, hreaders⟩ := hs.standing.drained hclosed hdrain
  have hdead : ¬ s.device.Live := by
    simp [TxDevice.Live, hclosed, hwriters, hreaders]
  exact ⟨hguarded, fun hlive => absurd hlive hdead,
    fun w hw hpast => absurd (hs.live hw hpast) hdead, harming⟩

theorem Gate.begin {s : TxSystem} {step : TxLifecycleStep} (h : s.Gate) (hs : s.Admission)
    (hidle : s.lifecycle = .idle) (hmove : BeginMove s.device step) : (s.setLifecycle step).Gate := by
  have hset : (s.setLifecycle step).Admission := by
    obtain ⟨hwriters, hreaders⟩ := hmove.counters
    exact hs.lifecycle hwriters hreaders ((hidle ▸ hs.standing).begin hmove)
  have hguarded : Guarded (s.setLifecycle step).device.trace := by
    obtain ⟨events, htrace, hevents⟩ := hmove.trace
    rw [setLifecycle_device, htrace]
    exact guarded_append h.guarded fun e he => by simp [hevents e he]
  cases hmove with
  | rejected | stops => exact ⟨h.guarded, h.live, h.passed, trivial⟩
  | setup => exact gate_of_quiet hset (hset.standing.closed rfl) rfl hguarded trivial
  | activates =>
    cases hcalls : s.device.activationCalls _ with
    | nil =>
      rw [hcalls] at hset hguarded
      exact gate_of_quiet hset (hset.standing.closed rfl) rfl hguarded trivial
    | cons =>
      rw [hcalls] at hset hguarded
      exact gate_of_quiet hset (hset.standing.closed rfl) rfl hguarded trivial

theorem Gate.lifecycle {s : TxSystem} {step : TxLifecycleStep} (h : s.Gate) (hs : s.Admission)
    (hmove : LifecycleMove s.free s.device s.lifecycle step) : (s.setLifecycle step).Gate := by
  have hset : (s.setLifecycle step).Admission := by
    obtain ⟨hwriters, hreaders⟩ := hmove.counters
    exact hs.lifecycle hwriters hreaders (hs.standing.lifecycle hmove)
  have hguarded : Guarded (s.setLifecycle step).device.trace := by
    obtain ⟨events, htrace, hevents⟩ := hmove.trace hs.standing.place
    rw [setLifecycle_device, htrace]
    exact guarded_append h.guarded fun e he => (hevents e he).1
  have harming := hmove.arming h.arming hs.standing.place
  have hopening := h.arming
  have hclosed := hs.standing.closed
  have hdrained := hs.standing.drained
  generalize s.lifecycle = pc at hmove hopening hclosed hdrained
  cases hmove with
  | flagged =>
    refine ⟨h.guarded, fun hlive => h.live ?_, h.passed, trivial⟩
    exact .inr (by simpa [TxDevice.Live] using hlive)
  | notifiedCv | notifiedChanged | drained | waits | woken =>
    exact ⟨h.guarded, h.live, h.passed, trivial⟩
  | opened =>
    refine ⟨h.guarded, fun _ => hopening, fun w hw hpast => ?_, trivial⟩
    have hquiet := hdrained (hclosed rfl) rfl
    rcases hs.live hw hpast with hlive | hlive | hlive
    · simp [hclosed rfl] at hlive
    · simp [hquiet] at hlive
    · simp [hquiet] at hlive
  | unneeded | unstopped | stopped =>
    obtain ⟨-, hstopping, hdrain⟩ := stopped_arming _ _ _
    exact gate_of_quiet hset (hstopping.trans (hclosed rfl)) hdrain hguarded harming
  | configured onPps txHandle call rest =>
    cases rest <;> exact gate_of_quiet hset (hset.standing.closed rfl) rfl hguarded harming
  | _ => exact gate_of_quiet hset (hclosed rfl) rfl hguarded harming

theorem gate_step {s t : TxSystem} {a : TxAction} (hs : s.Admission) (h : s.Gate)
    (hstep : TxStep s a t) : t.Gate := by
  cases hstep with
  | writeStream request =>
    exact ⟨h.guarded, h.live, ThreadPool.forall_append h.passed (by simp [Writer.pastGate, Writer.create]),
      h.arming⟩
  | readStreamStatus => exact ⟨h.guarded, h.live, h.passed, h.arming⟩
  | writer id input w w' d' hw hmove => exact (h.writer hs hw hmove).notify _
  | poller id input p p' d' hp hmove => exact (h.poller hmove).notify _
  | pps result d' wake hmove => exact (h.pps hs hmove).notify _
  | complete index context =>
    obtain ⟨completions, toNotify, heq⟩ := callBack_changes s.device index context
    rw [heq]
    exact ⟨h.guarded, h.live, h.passed, h.arming⟩
  | notifyCompletion index wake =>
    have hset : (s.setDevice { s.device with
        toNotify := s.device.toNotify.eraseIdx index }).Gate :=
      ⟨h.guarded, h.live, h.passed, h.arming⟩
    exact hset.notify _
  | call call step hidle hbegin hmove => exact h.begin hs hidle hmove
  | lifecycle input step hmove => exact (h.lifecycle hs hmove).notify _

theorem gate_create (config : TxConfiguration) : (create config).Gate := by
  refine ⟨Monitor.always_nil, ?_, by simp [create], trivial⟩
  simp [create, TxDevice.create, TxDevice.Live]

theorem Reachable.gate {config : TxConfiguration} {s : TxSystem} (h : Reachable config s) :
    s.Gate := by
  obtain ⟨actions, hrun⟩ := h
  exact (Transition.run_invariant (I := fun s => s.Admission ∧ s.Gate)
    (fun _ _ _ h hnext => ⟨admission_step h.1 (step_of_next hnext),
      gate_step h.1 h.2 (step_of_next hnext)⟩)
    ⟨admission_create config, gate_create config⟩ hrun).2

/-! ## The theorem -/

/-- Every transmission is made, and taken by the SDK, after the last start of the hardware has
returned 0, with only transmissions and counter reads since; with a worker that is pending or has
not succeeded no write is past the gate; and once admission is open and the start, if it is on the
PPS, has been published as successful, the gate lets every write through. -/
theorem transmit_only_inside_activation {config : TxConfiguration} {s : TxSystem}
    (hs : Reachable config s) :
    (∀ before e after, s.device.trace = before ++ e :: after → e.kind = .transmit →
      ∃ earlier start since, before = earlier ++ .returned start (.ok 0) :: since ∧
        start.kind = .start ∧ ∀ f ∈ since, f.kind = .transmit ∨ f.kind = .status) ∧
    (∀ worker, s.device.txStreamingThread = some worker →
      worker.pending = true ∨ worker.unsuccessful = true → ∀ w ∈ s.writers, w.pastGate = false) ∧
    (s.device.txWritesStopping = false →
      (s.device.txStreamingThread = none → s.device.firstTransmit = false) ∧
      ∀ worker, s.device.txStreamingThread = some worker → worker.pending = false →
        worker.unsuccessful = false → ∀ w timedOut, s.device.testWait w timedOut .pps =
          ({ s.device with firstTransmit := false }, w.goto .loop)) := by
  have hgate := hs.gate
  refine ⟨?_, ?_, ?_⟩
  · intro before e after htrace hkind
    exact streaming_since (hgate.guarded before e after htrace hkind)
  · intro worker hthread hworker w hw
    cases hpast : w.pastGate with
    | false => rfl
    | true =>
      have hfirst := hgate.passed w hw hpast
      obtain ⟨-, hstate⟩ := hgate.live (hs.admission.live hw hpast)
      unfold TxDevice.GateState at hstate
      cases worker <;> simp_all [PpsWorker.pending, PpsWorker.unsuccessful]
  · intro hopen
    obtain ⟨hworker, hstate⟩ := hgate.live (.inl hopen)
    unfold TxDevice.WorkerState at hworker
    unfold TxDevice.GateState at hstate
    constructor
    · intro hthread
      simpa [hthread] using hstate
    · intro worker hthread hpending hsuccess w timedOut
      cases worker <;> simp_all [PpsWorker.pending, PpsWorker.unsuccessful, TxDevice.testWait]

/-- A failed PPS start, a write that it refuses, a deactivation, and a PPS start that succeeds. -/
def restartedOnPps : List TxAction :=
  let onPps (status : ℤ) : List TxAction :=
    SmallTx.configure soapyHasTime ++ List.replicate 5 (.lifecycle .run) ++
      [.pps (.ok 0), .pps (.ok status), .pps (.ok 0), .pps (.ok 0)]
  let write (id steps : ℕ) : List TxAction :=
    .writeStream ⟨100, some fun i => UInt8.ofNat i, 2, 0, 0⟩ ::
      List.replicate steps (.writer id .run)
  SmallTx.setup ++ onPps (-5) ++ write 0 8 ++ SmallTx.drain ++ [.lifecycle .run, .lifecycle (.sdk 0)] ++
    onPps 0 ++ write 1 11

/-- The second write of that run is transmitted after the second start. -/
theorem transmit_only_inside_activation_restarted :
    ∃ s : TxSystem, Transition.run next (create SmallTx.config) restartedOnPps = some s ∧
      ∃ earlier start since, s.device.trace.dropLast = earlier ++ .returned start (.ok 0) :: since ∧
        start.kind = .start ∧ ∀ f ∈ since, f.kind = .transmit ∨ f.kind = .status := by
  obtain ⟨s, hs, htrace⟩ := Option.map_eq_some_iff.mp (show (Transition.run next
    (create SmallTx.config) restartedOnPps).map (fun s => decide (s.device.trace =
      s.device.trace.dropLast ++ [.issued (.transmit 0 1 [0, 1, 2, 3, 4, 5, 6, 7])])) = some true
    by decide +kernel)
  exact ⟨s, hs, (transmit_only_inside_activation ⟨_, hs⟩).1 _ _ [] (of_decide_eq_true htrace) rfl⟩

end TxSystem

end SoapySidekiq
