import SoapySidekiq.Tx.Calls

/-! # What a step of the system can do

The moves of the PPS worker and of the lifecycle, and from them and the moves of the calls everything
that one step of the system can do. -/
set_option autoImplicit false

namespace SoapySidekiq

/-! ## The PPS worker -/

inductive PpsMove (d : TxDevice) : TxDevice → Wake → Prop where
  | issued (txHandle : UInt32) (hthread : d.txStreamingThread = some (.ready txHandle)) :
      PpsMove d ({ d with txStreamingThread := some (.starting txHandle) }.log
        (.issued (.startTxStreamingOn1pps txHandle))) .nobody
  | returned (txHandle : UInt32) (result : Except Exception ℤ)
      (hthread : d.txStreamingThread = some (.starting txHandle)) :
      PpsMove d ({ d with txStreamingThread := some (.publishing (TxDevice.startStatus result)) }.log
        (.returned (.startTxStreamingOn1pps txHandle) result)) .nobody
  | published (status : ℤ) (underruns : UInt32)
      (hthread : d.txStreamingThread = some (.publishing status)) :
      PpsMove d { d with
        txUnderruns := underruns
        txStartStatus := status
        txStartFinished := true
        txStreamingThread := some (.notifying status) } .nobody
  | notified (status : ℤ) (hthread : d.txStreamingThread = some (.notifying status)) :
      PpsMove d { d with txStreamingThread := some (.finished status) } .cv

theorem pps_move {free : Mutex → Bool} {d d' : TxDevice} {result : Except Exception ℤ} {wake : Wake}
    (h : d.ppsStep free result = some (d', wake)) : PpsMove d d' wake := by
  simp only [TxDevice.ppsStep] at h
  split at h
  · cases h
  · next hthread => cases h; exact .issued _ hthread
  · next hthread => cases h; exact .returned _ _ hthread
  · next hthread =>
    split at h
    · cases h; exact .published _ _ hthread
    · cases h
  · next hthread => cases h; exact .notified _ hthread
  · cases h

/-! ## Lifecycle calls -/

/-- Everything that the beginning of a lifecycle call can do. -/
inductive BeginMove (d : TxDevice) : TxLifecycleStep → Prop where
  | rejected (result : Except Exception ℤ) : BeginMove d (d.done (.rejected result))
  | setup (handle : TxStreamHandle) (short : Bool) (htoken : d.activeTxStream = none) :
      BeginMove d (({ d with txUseShort := short }.log (.issued .readSysTimestampFreq)).go
        (.settingUp handle))
  | activates (onPps : Bool) (handle : TxStreamHandle) (htoken : d.activeTxStream = some handle)
      (hactive : d.txStreamActive = false) (hthread : d.txStreamingThread = none) :
      BeginMove d (d.configure onPps handle.txHandle (d.activationCalls handle.txHandle))
  | stops (caller : StopCaller) : BeginMove d (d.go (.stopFlag caller))

theorem findStreamHandle_some {d : TxDevice} {stream : StreamToken} {handle : TxStreamHandle}
    (h : d.findStreamHandle stream = some handle) : d.activeTxStream = some handle := by
  unfold TxDevice.findStreamHandle at h
  split at h
  · cases h
  · exact (Option.filter_eq_some_iff.mp h).1

theorem begin_move (d : TxDevice) (call : TxLifecycleCall) : BeginMove d (d.beginCall call) := by
  cases call with
  | setupStream format channels args address =>
    simp only [TxDevice.beginCall]
    split
    · exact .rejected _
    · next hvalid =>
      split
      · exact .rejected _
      · split
        · exact .rejected _
        · refine .setup _ _ ?_
          simpa using (validateStreamRequest_ok hvalid).1
  | activateStream stream flags timeNs numElems =>
    simp only [TxDevice.beginCall]
    split
    · exact .rejected _
    · next hfind =>
      split
      · exact .rejected _
      · split
        · exact .rejected _
        · next hidle =>
          simp only [Bool.or_eq_true, not_or, Bool.not_eq_true, Option.isSome_eq_false_iff,
            Option.isNone_iff_eq_none] at hidle
          exact .activates _ _ (findStreamHandle_some hfind) hidle.1 hidle.2
  | deactivateStream stream flags timeNs =>
    simp only [TxDevice.beginCall]
    split
    · exact .rejected _
    · split
      · exact .rejected _
      · exact .stops _
  | closeStream stream =>
    simp only [TxDevice.beginCall]
    split
    · exact .rejected _
    · split
      · exact .rejected _
      · exact .stops _
  | destroy => exact .stops _

/-- Everything that a step of the lifecycle call in progress can do. -/
inductive LifecycleMove (free : Mutex → Bool) (d : TxDevice) :
    TxLifecyclePc → TxLifecycleStep → Prop where
  | flagged (caller : StopCaller) (htx : free .tx = true) (hcompletion : free .completion = true) :
      LifecycleMove free d (.stopFlag caller) ({ d with txWritesStopping := true }.go (.notifyCv caller))
  | notifiedCv (caller : StopCaller) :
      LifecycleMove free d (.notifyCv caller) (d.goWake (.notifyChanged caller) .cv)
  | notifiedChanged (caller : StopCaller) :
      LifecycleMove free d (.notifyChanged caller) (d.goWake (.draining caller) .changed)
  | drained (caller : StopCaller) (hwriters : d.activeTxWriters = 0)
      (hreaders : d.activeTxStatusReaders = 0) :
      LifecycleMove free d (.draining caller) (d.go (.joining caller))
  | waits (caller : StopCaller) (hcalls : 0 < d.activeTxWriters ∨ 0 < d.activeTxStatusReaders) :
      LifecycleMove free d (.draining caller) (d.go (.drainParked caller))
  | woken (caller : StopCaller) :
      LifecycleMove free d (.drainParked caller) (d.go (.draining caller))
  | stops (caller : StopCaller) (handle : TxStreamHandle)
      (hthread : ∀ worker, d.txStreamingThread = some worker → ∃ status, worker = .finished status)
      (htoken : d.activeTxStream = some handle) (hactive : d.txStreamActive = true) :
      LifecycleMove free d (.joining caller)
        (({ d with txStreamingThread := none }.log
          (.issued (TxDevice.stopCall caller handle.txHandle))).go (.stopping caller handle.txHandle))
  | unneeded (caller : StopCaller)
      (hthread : ∀ worker, d.txStreamingThread = some worker → ∃ status, worker = .finished status)
      (hidle : d.activeTxStream = none ∨ d.txStreamActive = false) :
      LifecycleMove free d (.joining caller) ({ d with txStreamingThread := none }.stopped caller 0)
  | unstopped (caller : StopCaller) (txHandle : UInt32) (status : ℤ) (hstatus : status ≠ 0)
      (hdevice : status ≠ noDevice) :
      LifecycleMove free d (.stopping caller txHandle)
        ((d.log (.returned (TxDevice.stopCall caller txHandle) (.ok status))).stopped caller status)
  | stopped (caller : StopCaller) (txHandle : UInt32) (status : ℤ)
      (hstatus : status = 0 ∨ status = noDevice) :
      LifecycleMove free d (.stopping caller txHandle)
        ({ d.log (.returned (TxDevice.stopCall caller txHandle) (.ok status)) with
          txStreamActive := false }.stopped caller 0)
  | unconfigured (onPps : Bool) (txHandle : UInt32) (call : SdkCall) (rest : List SdkCall)
      (status : ℤ) (hstatus : status ≠ 0) :
      LifecycleMove free d (.configuring onPps txHandle call rest)
        ((d.log (.returned call (.ok status))).done (.activated (.ok soapyStreamError)))
  | configured (onPps : Bool) (txHandle : UInt32) (call : SdkCall) (rest : List SdkCall) :
      LifecycleMove free d (.configuring onPps txHandle call rest)
        ((d.log (.returned call (.ok 0))).configure onPps txHandle rest)
  | resetPps (txHandle : UInt32) :
      LifecycleMove free d (.resetGate true txHandle)
        ({ d with firstTransmit := false }.go (.resetStart txHandle))
  | resetNow (txHandle : UInt32) :
      LifecycleMove free d (.resetGate false txHandle)
        (({ d with firstTransmit := false }.log (.issued (.startTxStreaming txHandle))).go
          (.starting txHandle))
  | resetStart (txHandle : UInt32) :
      LifecycleMove free d (.resetStart txHandle)
        ({ d with txStartFinished := false, txStartStatus := 0 }.go (.creating txHandle))
  | created (txHandle : UInt32) :
      LifecycleMove free d (.creating txHandle)
        ({ d with
          txStreamingThread := some (.ready txHandle)
          terminated := d.terminated || d.txStreamingThread.isSome }.go .raiseGate)
  | uncreated (txHandle : UInt32) :
      LifecycleMove free d (.creating txHandle) (d.done (.activated (.ok soapyStreamError)))
  | raised : LifecycleMove free d .raiseGate ({ d with firstTransmit := true }.go .activated)
  | unstarted (txHandle : UInt32) (status : ℤ) (hstatus : status ≠ 0) :
      LifecycleMove free d (.starting txHandle)
        ((d.log (.returned (.startTxStreaming txHandle) (.ok status))).done
          (.activated (.ok soapyStreamError)))
  | started (txHandle : UInt32) :
      LifecycleMove free d (.starting txHandle)
        ({ d.log (.returned (.startTxStreaming txHandle) (.ok 0)) with txStreamActive := true }.go
          .resetUnderruns)
  | resetUnderruns :
      LifecycleMove free d .resetUnderruns ({ d with txUnderruns := 0 }.go .activated)
  | activated : LifecycleMove free d .activated ({ d with txStreamActive := true }.go .opening)
  | opened :
      LifecycleMove free d .opening ({ d with txWritesStopping := false }.done (.activated (.ok 0)))
  | unread (handle : TxStreamHandle) (status : ℤ) (result : Except Exception ℤ) :
      LifecycleMove free d (.settingUp handle)
        ((d.log (.returned .readSysTimestampFreq (.ok status))).done (.configured result))
  | read (handle : TxStreamHandle) :
      LifecycleMove free d (.settingUp handle)
        ((d.log (.returned .readSysTimestampFreq (.ok 0))).go (.allocating handle))
  | unallocated (handle : TxStreamHandle) (e : Exception) :
      LifecycleMove free d (.allocating handle) (d.done (.configured (.error e)))
  | allocated (handle : TxStreamHandle) :
      LifecycleMove free d (.allocating handle) (d.initializeTxBuffers.go (.publishing handle))
  | published (handle : TxStreamHandle) :
      LifecycleMove free d (.publishing handle)
        ({ d with activeTxStream := some handle }.done (.configured (.ok 0)))

theorem stopHardware_move {free : Mutex → Bool} {d : TxDevice} {caller : StopCaller}
    (hthread : ∀ worker, d.txStreamingThread = some worker → ∃ status, worker = .finished status) :
    LifecycleMove free d (.joining caller)
      ({ d with txStreamingThread := none }.stopHardware caller) := by
  unfold TxDevice.stopHardware
  split
  · next htoken => exact .unneeded _ hthread (.inl htoken)
  · next handle htoken =>
    split
    · next hactive => exact .stops _ _ hthread htoken hactive
    · next hactive => exact .unneeded _ hthread (.inr (Bool.eq_false_iff.mpr hactive))

theorem lifecycle_move {free : Mutex → Bool} {d : TxDevice} {pc : TxLifecyclePc}
    {input : TxLifecycleInput} {step : TxLifecycleStep}
    (h : d.lifecycleStep free pc input = some step) : LifecycleMove free d pc step := by
  cases input with
  | run =>
    simp only [TxDevice.lifecycleStep] at h
    split at h
    · split at h
      · next hfree =>
        simp only [Bool.and_eq_true] at hfree
        cases h
        exact .flagged _ hfree.1 hfree.2
      · cases h
    · cases h; exact .notifiedCv _
    · cases h; exact .notifiedChanged _
    · split at h
      · split at h
        · next hzero => cases h; exact .drained _ hzero.1 hzero.2
        · next hzero => cases h; exact .waits _ (by omega)
      · cases h
    · split at h
      · next hthread =>
        cases h
        have hsame : { d with txStreamingThread := none } = d := by rw [← hthread]
        rw [← hsame]
        exact stopHardware_move (by simp)
      · next hthread => cases h; exact stopHardware_move (by simp [hthread])
      · cases h
    · next onPps txHandle =>
      cases onPps with
      | true => cases h; exact .resetPps _
      | false => cases h; exact .resetNow _
    · split at h
      · cases h; exact .resetStart _
      · cases h
    · cases h; exact .created _
    · cases h; exact .raised
    · split at h
      · cases h; exact .resetUnderruns
      · cases h
    · cases h; exact .activated
    · split at h
      · cases h; exact .opened
      · cases h
    · cases h; exact .allocated _
    · cases h; exact .published _
    · cases h
  | wake =>
    simp only [TxDevice.lifecycleStep] at h
    split at h
    · cases h; exact .woken _
    · cases h
  | sdk status =>
    simp only [TxDevice.lifecycleStep] at h
    split at h
    · split at h
      · next hstatus => cases h; exact .unstopped _ _ _ hstatus.1 hstatus.2
      · next hstatus => cases h; exact .stopped _ _ _ (by omega)
    · split at h
      · next hstatus => cases h; exact .unconfigured _ _ _ _ _ hstatus
      · next hstatus =>
        obtain rfl : status = 0 := by simpa using hstatus
        cases h
        exact .configured _ _ _ _
    · split at h
      · next hstatus => cases h; exact .unstarted _ _ hstatus
      · next hstatus =>
        obtain rfl : status = 0 := by simpa using hstatus
        cases h
        exact .started _
    · split at h
      · cases h; exact .unread _ _ _
      · next hstatus =>
        obtain rfl : status = 0 := by simpa using hstatus
        cases h
        exact .read _
    · cases h
  | throw e =>
    simp only [TxDevice.lifecycleStep] at h
    split at h
    · cases h; exact .uncreated _
    · cases h; exact .unallocated _ _
    · cases h

/-! The lifecycle does not touch the counters. -/

theorem configure_counters (d : TxDevice) (onPps : Bool) (txHandle : UInt32) (rest : List SdkCall) :
    (d.configure onPps txHandle rest).device.activeTxWriters = d.activeTxWriters ∧
      (d.configure onPps txHandle rest).device.activeTxStatusReaders = d.activeTxStatusReaders := by
  cases rest <;> exact ⟨rfl, rfl⟩

theorem stopped_counters (d : TxDevice) (caller : StopCaller) (status : ℤ) :
    (d.stopped caller status).device.activeTxWriters = d.activeTxWriters ∧
      (d.stopped caller status).device.activeTxStatusReaders = d.activeTxStatusReaders := by
  unfold TxDevice.stopped
  cases caller with
  | close => dsimp only; split <;> exact ⟨rfl, rfl⟩
  | deactivate | destroy => exact ⟨rfl, rfl⟩

theorem BeginMove.counters {d : TxDevice} {step : TxLifecycleStep} (h : BeginMove d step) :
    step.device.activeTxWriters = d.activeTxWriters ∧
      step.device.activeTxStatusReaders = d.activeTxStatusReaders := by
  cases h with
  | activates => exact configure_counters d _ _ _
  | _ => exact ⟨rfl, rfl⟩

theorem LifecycleMove.counters {free : Mutex → Bool} {d : TxDevice} {pc : TxLifecyclePc}
    {step : TxLifecycleStep} (h : LifecycleMove free d pc step) :
    step.device.activeTxWriters = d.activeTxWriters ∧
      step.device.activeTxStatusReaders = d.activeTxStatusReaders := by
  cases h with
  | configured => exact configure_counters _ _ _ _
  | unneeded | unstopped | stopped => exact stopped_counters _ _ _
  | _ => exact ⟨rfl, rfl⟩

/-! ## The system -/

/-- The callback's locked section for the context at this place. -/
def TxDevice.callBack (d : TxDevice) (index : ℕ) (context : TxSendContext) : TxDevice :=
  { d with inFlight := d.inFlight.eraseIdx index }.completeTx context

theorem callBack_changes (d : TxDevice) (index : ℕ) (context : TxSendContext) :
    ∃ completions toNotify, d.callBack index context = { d with
      completions := completions, toNotify := toNotify, inFlight := d.inFlight.eraseIdx index } := by
  unfold TxDevice.callBack TxDevice.completeTx
  dsimp only
  split
  · exact ⟨_, _, rfl⟩
  · split <;> exact ⟨_, _, rfl⟩

/-- Everything that one step of the system can do. -/
inductive TxStep (s : TxSystem) : TxAction → TxSystem → Prop where
  | writeStream (request : WriteRequest) :
      TxStep s (.writeStream request) { s with writers := s.writers ++ [.create request] }
  | readStreamStatus (request : StatusRequest) :
      TxStep s (.readStreamStatus request) { s with pollers := s.pollers ++ [.create request] }
  | writer (id : ℕ) (input : CallInput) (w w' : Writer) (d' : TxDevice)
      (hw : s.writers[id]? = some w) (hmove : WriterMove s.device id w d' w') :
      TxStep s (.writer id input) ((s.setWriter id d' w').notify (TxSystem.writerWake w))
  | poller (id : ℕ) (input : StatusInput) (p p' : Poller) (d' : TxDevice)
      (hp : s.pollers[id]? = some p) (hmove : PollerMove s.device p d' p') :
      TxStep s (.poller id input) ((s.setPoller id d' p').notify (TxSystem.pollerWake p))
  | pps (result : Except Exception ℤ) (d' : TxDevice) (wake : Wake)
      (hmove : PpsMove s.device d' wake) : TxStep s (.pps result) ((s.setDevice d').notify wake)
  | complete (index : ℕ) (context : TxSendContext) (hcontext : s.device.inFlight[index]? = some context) :
      TxStep s (.complete index) (s.setDevice (s.device.callBack index context))
  | notifyCompletion (index : ℕ) (wake : Wake) :
      TxStep s (.notifyCompletion index) ((s.setDevice { s.device with
        toNotify := s.device.toNotify.eraseIdx index }).notify wake)
  | call (call : TxLifecycleCall) (step : TxLifecycleStep) (hidle : s.lifecycle = .idle)
      (hstep : step = s.device.beginCall call) (hmove : BeginMove s.device step) :
      TxStep s (.call call) (s.setLifecycle step)
  | lifecycle (input : TxLifecycleInput) (step : TxLifecycleStep)
      (hmove : LifecycleMove s.free s.device s.lifecycle step) :
      TxStep s (.lifecycle input) ((s.setLifecycle step).notify step.wake)

theorem step_of_next {s t : TxSystem} {a : TxAction} (h : s.next a = some t) : TxStep s a t := by
  cases a with
  | writeStream request => cases h; exact .writeStream _
  | readStreamStatus request => cases h; exact .readStreamStatus _
  | writer id input =>
    simp only [TxSystem.next] at h
    split at h
    · cases h
    · next w hw =>
      obtain ⟨⟨d', w'⟩, hstep, rfl⟩ := Option.map_eq_some_iff.mp h
      exact .writer id input w w' d' hw (writer_move hstep)
  | poller id input =>
    simp only [TxSystem.next] at h
    split at h
    · cases h
    · next p hp =>
      obtain ⟨⟨d', p'⟩, hstep, rfl⟩ := Option.map_eq_some_iff.mp h
      exact .poller id input p p' d' hp (poller_move hstep)
  | pps result =>
    obtain ⟨⟨d', wake⟩, hstep, rfl⟩ := Option.map_eq_some_iff.mp h
    exact .pps result d' wake (pps_move hstep)
  | complete index =>
    simp only [TxSystem.next] at h
    split at h
    · cases h
    · next context hcontext =>
      split at h
      · cases h; exact .complete index context hcontext
      · cases h
  | notifyCompletion index =>
    simp only [TxSystem.next] at h
    split at h
    · cases h
    · split at h
      · cases h; exact .notifyCompletion index .changed
      · cases h; exact .notifyCompletion index .nobody
  | call call =>
    simp only [TxSystem.next] at h
    split at h
    · next hidle => cases h; exact .call call _ hidle rfl (begin_move _ _)
    · cases h
  | lifecycle input =>
    obtain ⟨step, hstep, rfl⟩ := Option.map_eq_some_iff.mp h
    exact .lifecycle input step (lifecycle_move hstep)

/-! ## The write calls in a step -/

/-- What a step can do to the write calls, before it wakes some of them. -/
inductive WritersMove (s : TxSystem) (a : TxAction) (d' : TxDevice) : List Writer → Prop where
  | none (ha : ∀ id input, a ≠ .writer id input) : WritersMove s a d' s.writers
  | begun (request : WriteRequest) (ha : a = .writeStream request) :
      WritersMove s a d' (s.writers ++ [.create request])
  | moved (id : ℕ) (input : CallInput) (w w' : Writer) (ha : a = .writer id input)
      (hw : s.writers[id]? = some w) (hmove : WriterMove s.device id w d' w') :
      WritersMove s a d' (s.writers.set id w')

theorem TxStep.writers {s t : TxSystem} {a : TxAction} (h : TxStep s a t) :
    ∃ writers wake, WritersMove s a t.device writers ∧ t.writers = writers.map wake ∧
      (wake = id ∨ wake = Writer.wakeCv ∨ wake = Writer.wakeChanged) := by
  have hnotify : ∀ (u : TxSystem) (wake : Wake), WritersMove s a u.device u.writers →
      ∃ writers f, WritersMove s a (u.notify wake).device writers ∧
        (u.notify wake).writers = writers.map f ∧
        (f = id ∨ f = Writer.wakeCv ∨ f = Writer.wakeChanged) := by
    intro u wake hmove
    cases wake with
    | nobody => exact ⟨u.writers, id, hmove, (List.map_id _).symm, .inl rfl⟩
    | cv => exact ⟨u.writers, Writer.wakeCv, hmove, rfl, .inr (.inl rfl)⟩
    | changed => exact ⟨u.writers, Writer.wakeChanged, hmove, rfl, .inr (.inr rfl)⟩
  cases h with
  | writeStream request => exact hnotify _ .nobody (.begun request rfl)
  | readStreamStatus | complete | call => exact hnotify _ .nobody (.none (by simp))
  | writer id input w w' d' hw hmove => exact hnotify _ _ (.moved id input w w' rfl hw hmove)
  | poller | pps | notifyCompletion | lifecycle => exact hnotify _ _ (.none (by simp))

end SoapySidekiq
