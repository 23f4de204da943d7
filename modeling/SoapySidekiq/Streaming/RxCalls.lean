import SoapySidekiq.Streaming.TxCalls

/-! # RX streaming calls

`readStream`, the RX halves of `activateStream` and `deactivateStream`, and the session's calls that
they make, as sequential code; then the entry points with both halves. -/
set_option autoImplicit false

namespace SoapySidekiq
open Procedure

namespace RxStreamSession
variable {α : Type}

/-- The thread object after a `join` that is over. -/
def joined (s : RxStreamSession α) : Option (RxStreamSession α) :=
  match s.receiveThread with
  | none => some s
  | some worker =>
    match worker.pc with
    | .finished => some { s with receiveThread := none }
    | _ => none

/-- The fields that an activation publishes when the hardware has started. -/
def published (s : RxStreamSession α) (c : RxSessionConfiguration) : RxStreamSession α :=
  { s with
    activeConfiguration := c
    hardwareOverruns := 0
    timestampDiscontinuities := 0
    receiveError := 0
    failed := false
    active := true }

end RxStreamSession

namespace Streaming
variable {κ φ : Type}

/-! ## Activation -/

/-- The system clock of an activation. -/
def systemFrequency : Streaming κ φ UInt64 := do
  let d ← get
  if d.rfTimeSource then pure d.sysFreq
  else do
    let answer ← sdk (.setup .readSysTimestampFreq)
    if answer.status ≠ 0 then
      fail (.runtimeError ("skiq_read_sys_timestamp_freq failed at RX activation: " ++
        toString answer.status))
    else pure answer.number

/-- The callback that `activateStreamImpl` gives to `activateConfigured`. -/
def captureTiming (rxHandle : UInt32) (onPps : Bool) : Streaming κ φ RxSessionConfiguration := do
  let rate ← sdk (.setup (.readSampleRateAndBandwidth true rxHandle))
  let d ← get
  if rate.status ≠ 0 then
    fail (.runtimeError ("RX activation rate read failed (card " ++ toString d.tx.config.card ++
      ", handle " ++ toString rxHandle ++ "): " ++ toString rate.status))
  else do
    let sampleRate ← lift (TimestampRate.fromActualRate rate.rate)
    let frequency ← systemFrequency
    let d ← get
    pure ⟨rxHandle, d.rxPayloadSizeInWords, sampleRate, frequency, d.rfTimeSource, onPps⟩

/-- The queue and the worker of an activation. -/
def startWorker (c : RxSessionConfiguration) : Streaming κ φ Unit := do
  let _ ← yield
  updateSession fun s => { s with queue := s.queue.start }
  updateSession fun s => { s with running := true }
  allocate
  updateSession fun s => s.setThread ⟨c, none, .loop⟩

/-- A stop of the hardware that gives it back, or does not. -/
def stopBackend (handle : UInt32) (onPps : Bool) : Streaming κ φ ℤ := do
  let answer ← sdk (.stopRx handle onPps)
  if released (.ok answer.status) then do
    updateSession fun s => { s with active := false }
    pure answer.status
  else pure answer.status

/-- The rollback of an activation without a worker; what its stop throws is dropped. -/
def rollBack (c : RxSessionConfiguration) : Streaming κ φ Unit := do
  updateSession fun s => { s with running := false }
  let _ ← yield
  updateSession fun s => { s with queue := s.queue.reset }
  contained (discard (stopBackend c.handle false))

/-- `activateLocked` -/
def activateLocked (c : RxSessionConfiguration) : Streaming κ φ ℤ := do
  let d ← get
  match c.check with
  | some e => fail e
  | none =>
    if d.session.active || d.session.receiveThread.isSome then
      fail (.logicError "RX stream session is already active")
    else do
      let start ← sdk (.startRx c.handle c.onPps)
      if start.status ≠ 0 then pure start.status
      else do
        updateSession fun s => s.published c
        (startWorker c).guarded (rollBack c)
        pure 0

/-- `activateConfigured` -/
def activateConfigured (prepare : Streaming κ φ RxSessionConfiguration) : Streaming κ φ ℤ := do
  let _ ← yield
  let d ← get
  if d.session.active || d.session.receiveThread.isSome then
    fail (.logicError "RX stream session still owns hardware or a worker")
  else do
    let configuration ← prepare
    activateLocked configuration

/-- The message about a TX start that is pending, in front of a start on the next PPS edge. -/
def warnPendingStart (onPps : Bool) : Streaming κ φ Unit :=
  if onPps then do
    let _ ← yield
    let d ← get
    if d.tx.txStreamingThread.isSome && !d.tx.txStartFinished then reportDiagnostic else pure ()
  else pure ()

/-- The RX branch of `activateStreamImpl`. -/
def activateRx (rxHandle : UInt32) (onPps : Bool) : Streaming κ φ ℤ := do
  warnPendingStart onPps
  let status ← activateConfigured (captureTiming rxHandle onPps)
  if status ≠ 0 then do
    reportDiagnostic
    fail (.runtimeError "failed to start RX streaming")
  else do
    reportDiagnostic
    pure 0

/-- `activateStreamImpl` -/
def activateStreamImpl (stream : StreamToken) (flags : UInt32) (timeNs : ℤ) (numElems : ℕ) :
    Streaming κ φ ℤ := do
  let d ← get
  match d.findStreamHandle stream with
  | none => pure soapyStreamError
  | some handle =>
    if unsupportedFlags flags timeNs || numElems != 0 then pure soapyNotSupported
    else do
      reportDiagnostic
      match handle with
      | .rx handle => activateRx handle.rxHandle (flags &&& soapyHasTime != 0)
      | .tx handle => activateTx handle.txHandle flags

/-- `activateStream` -/
def activateStream (stream : StreamToken) (flags : UInt32) (timeNs : ℤ) (numElems : ℕ) :
    Streaming κ φ ℤ :=
  catchStd (activateStreamImpl stream flags timeNs numElems) do
    reportDiagnostic
    pure soapyStreamError

/-! ## Deactivation -/

/-- The stop of the hardware in `deactivate`, with what it throws, which waits for the join. -/
def stopActive (onPps : Bool) : Streaming κ φ (Except Exception ℤ) := do
  let d ← get
  if d.session.active then
    handle (do
      let status ← stopBackend d.session.activeConfiguration.handle onPps
      pure (.ok status)) fun e => pure (.error e)
  else pure (.ok 0)

/-- The join of the worker in `deactivate`, if it is over. -/
def joinWorker (result : Except Exception ℤ) : Streaming κ φ (Option ℤ) := do
  let _ ← yield
  let d ← get
  match d.session.joined with
  | none => pure none
  | some session => do
    updateSession fun _ => session
    lift (result.map some)

/-- `RxStreamSession::deactivate` -/
def deactivateSession (onPps : Bool) : Streaming κ φ (Option ℤ) := do
  let _ ← yield
  let d ← get
  if d.session.active || d.session.receiveThread.isSome then do
    updateSession fun s => { s with running := false }
    let _ ← yield
    updateSession fun s => { s with queue := s.queue.stop }
    let result ← stopActive onPps
    joinWorker result
  else pure (some 0)

/-- The RX branch of `deactivateStream`. -/
def deactivateRx (onPps : Bool) : Streaming κ φ (Option ℤ) := do
  let stopped ← deactivateSession onPps
  match stopped with
  | none => pure none
  | some status =>
    if status = noDevice then do
      reportDiagnostic
      pure (some 0)
    else if status ≠ 0 then do
      reportDiagnostic
      pure (some soapyStreamError)
    else pure (some 0)

/-- `deactivateStream` -/
def deactivateStream (stream : StreamToken) (flags : UInt32) (timeNs : ℤ) :
    Streaming κ φ (Option ℤ) := do
  let d ← get
  match d.findStreamHandle stream with
  | none => pure (some soapyStreamError)
  | some handle =>
    if unsupportedFlags flags timeNs then pure (some soapyNotSupported)
    else do
      reportDiagnostic
      match handle with
      | .rx _ => deactivateRx (flags &&& soapyHasTime != 0)
      | .tx _ => deactivateTx (flags &&& soapyHasTime != 0)

/-! ## readStream -/

/-- The arguments of `readStream`. -/
structure ReadArguments where
  stream : StreamToken
  /-- Neither `buffs` nor `buffs[0]` is null. -/
  buffer : Bool
  numElems : ℕ
  timeoutUs : ℤ

/-- The outputs of a call that returns no samples. -/
def clearOutputs : Streaming κ φ Unit := updateOut fun o => { o with flags := 0, timeNs := 0 }

/-- The read of the queue and what it leaves to the caller. The queue writes the components that it
counts and no others, so a buffer of its own stands for the caller's. -/
def readSession (arith : Arithmetic) (toFloat : Int16 → φ) (r : ReadArguments) : Streaming κ φ ℤ := do
  let _ ← yield
  let d ← get
  let read := RxSampleQueue.read arith d.session.queue
    (if r.numElems = 0 then none else some (List.replicate (r.numElems * 2) 0)) r.numElems r.timeoutUs
  updateSession fun s => { s with queue := read.queue }
  let result ← lift read.result
  match result.status with
  | .timeout => pure soapyTimeout
  | .stopped | .error => pure soapyStreamError
  | .samples => do
    let components := (read.output.getD []).take (result.samples * 2)
    updateOut fun o =>
      { o with
        samples := RxSampleQueue.memcpy o.samples 0
          (components.map fun c => if d.rxUseShort then .inl c else .inr (toFloat c))
        flags := if result.hasTime then o.flags ||| soapyHasTime else o.flags
        timeNs := if result.hasTime then result.timeNs else o.timeNs }
    pure result.samples

/-- `readStreamImpl` -/
def readStreamImpl (arith : Arithmetic) (toFloat : Int16 → φ) (r : ReadArguments) :
    Streaming κ φ ℤ := do
  let d ← get
  match d.findStreamHandle r.stream with
  | none => pure soapyStreamError
  | some (.tx _) => pure soapyNotSupported
  | some (.rx _) => do
    clearOutputs
    if r.numElems > intMax then pure soapyOverflow
    else if r.timeoutUs < 0 ∨ (r.numElems ≠ 0 ∧ r.buffer = false) then pure soapyStreamError
    else if r.numElems ≠ 0 ∧ d.rxUseShort = false then do
      -- The conversion buffer of a CF32 stream.
      allocate
      readSession arith toFloat r
    else readSession arith toFloat r

/-- `readStream` -/
def readStream (arith : Arithmetic) (toFloat : Int16 → φ) (r : ReadArguments) : Streaming κ φ ℤ :=
  catchStd (readStreamImpl arith toFloat r) do
    clearOutputs
    reportDiagnostic
    pure soapyStreamError

end Streaming

/-! ## Entry points -/

/-- What runs while a device streams: the calls, the SDK's completion callback and the PPS worker. A
call with a loop runs for a number of passes. -/
inductive StreamingCall where
  | activateStream (stream : StreamToken) (flags : UInt32) (timeNs : ℤ) (numElems : ℕ)
  | deactivateStream (stream : StreamToken) (flags : UInt32) (timeNs : ℤ)
  | readStream (arguments : Streaming.ReadArguments)
  | writeStream (writer : ℕ) (request : WriteRequest) (fuel : ℕ)
  | readStreamStatus (request : StatusRequest) (fuel : ℕ)
  | txCompleteCallback (context : Option TxSendContext)
  | txStreamingStart (txHandle : UInt32)

/-- The entry point, and what it returns, unless it has not ended; a callback and a worker return 0. -/
def StreamingCall.run {κ φ : Type} (arith : Arithmetic) (toFloat : Int16 → φ) :
    StreamingCall → Streaming κ φ (Option ℤ)
  | .activateStream stream flags timeNs numElems => do
    let status ← Streaming.activateStream stream flags timeNs numElems
    pure (some status)
  | .deactivateStream stream flags timeNs => Streaming.deactivateStream stream flags timeNs
  | .readStream arguments => do
    let status ← Streaming.readStream arith toFloat arguments
    pure (some status)
  | .writeStream writer request fuel => Streaming.writeStream writer request fuel
  | .readStreamStatus request fuel => Streaming.readStreamStatus request fuel
  | .txCompleteCallback context => do
    Streaming.txCompleteCallback context
    pure (some 0)
  | .txStreamingStart txHandle => do
    Streaming.txStreamingStart txHandle
    pure (some 0)

end SoapySidekiq
