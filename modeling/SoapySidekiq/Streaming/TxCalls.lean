import SoapySidekiq.Streaming.Statements

/-! # TX streaming calls

`writeStream`, `readStreamStatus`, the TX halves of `activateStream` and `deactivateStream`, the
completion callback and the PPS worker, as sequential code. A wait is over when its predicate holds;
a wait with a deadline that ends without it has timed out, and one without a deadline has then not
ended. A call that has not ended returns `none`. -/
set_option autoImplicit false

namespace SoapySidekiq
open Procedure

/-- The accepted prefix, or a status when nothing was accepted. -/
def TxDevice.prefixOr (d : TxDevice) (currBlock : ℕ) (status : ℤ) : ℤ :=
  if currBlock = 0 then status else (currBlock * d.config.currentTxBlockSize : ℕ)

/-- The configuration calls whose success is logged. -/
def SdkCall.logsSuccess : SdkCall → Bool
  | .writeIqOrderMode | .writeTxBlockSize _ _ => true
  | _ => false

namespace Streaming
variable {κ φ : Type}

/-! ## Completions -/

/-- `changed.notify_all()` of a completion state. -/
def notifyChanged (completion : ℕ) : Streaming κ φ Unit :=
  updateTx fun t => { t with toNotify := t.toNotify.erase completion }

/-- `completeTx` -/
def completeTx (context : TxSendContext) : Streaming κ φ Unit := do
  let d ← get
  match d.tx.completions[context.completion]? with
  | none => logMessage
  | some c =>
    if context.txIndex < c.slots.length then do
      let _ ← yield
      let d ← get
      updateTx fun t => t.completeTx context
      notifyChanged context.completion
      if d.tx.slot context.completion context.txIndex then pure () else logMessage
    else logMessage

/-- The end of a callback destroys its context, and with it a block that nothing else holds. -/
def destroyContext (context : TxSendContext) : Streaming κ φ Unit := do
  let d ← get
  updateTx fun t => { t with inFlight := t.inFlight.erase context }
  if d.tx.pooled context then pure () else record [.block .free]

/-- `tx_complete_callback`, with the context that it receives, if it is valid. -/
def txCompleteCallback : Option TxSendContext → Streaming κ φ Unit
  | none => logMessage.contained
  | some context => do
    (completeTx context).contained
    destroyContext context

/-! ## The PPS worker -/

/-- The status of the start, which may throw anything. -/
def startOn1pps (txHandle : UInt32) : Streaming κ φ ℤ :=
  handle (do
    let answer ← sdkTx (.startTxStreamingOn1pps txHandle)
    pure answer.status) fun _ => pure soapyStreamError

/-- `tx_streaming_start` -/
def txStreamingStart (txHandle : UInt32) : Streaming κ φ Unit := do
  let status ← startOn1pps txHandle
  let _ ← yield
  updateTx fun t =>
    { t with
      txUnderruns := if status = 0 then 0 else t.txUnderruns
      txStartStatus := status
      txStartFinished := true }
  -- `tx_cv.notify_all()` comes before the message.
  logMessage.contained
  updateTx fun t => { t with txStreamingThread := some (.finished status) }

/-! ## writeStream -/

/-- What a pass of the loop of `writeStream` ends with. -/
inductive PacketResult where
  | ended (status : ℤ)
  | again
  | sent

/-- Waits for the slot of the next block and reserves it: the number of completions so far, or what the
call returns. -/
def reserve (currBlock : ℕ) : Streaming κ φ (Except ℤ UInt64) := do
  let _ ← yield
  let d ← get
  if d.tx.txWritesStopping then pure (.error (d.tx.prefixOr currBlock soapyStreamError))
  else if d.tx.slot d.tx.txCompletion d.tx.txBlockIndex then
    pure (.error (d.tx.prefixOr currBlock soapyTimeout))
  else do
    updateTx fun t => t.setSlot t.txCompletion t.txBlockIndex true
    pure (.ok d.tx.completed)

/-- The cleanup of `reservation`. -/
def releaseSlot (index : ℕ) : Streaming κ φ Unit := do
  let _ ← yield
  updateTx fun t => t.setSlot t.txCompletion index false

/-- The context, the payload and `skiq_transmit` of one block. -/
def transmitBlock (writer : ℕ) (r : WriteRequest) (txHandle : UInt32) (index inbuffPtr : ℕ) :
    Streaming κ φ ℤ := do
  allocate
  updateTx fun t => t.fillBlock index (t.payload (r.buffer.getD fun _ => 0) inbuffPtr)
  let d ← get
  let answer ← sdkTx (.transmit txHandle writer (d.tx.blockData index))
  pure answer.status

/-- The scope of `reservation`, which is released unless the SDK takes the packet. -/
def submitBlock (writer : ℕ) (r : WriteRequest) (txHandle : UInt32) (inbuffPtr : ℕ) :
    Streaming κ φ ℤ := do
  let d ← get
  let status ← (transmitBlock writer r txHandle d.tx.txBlockIndex inbuffPtr).guarded
    (releaseSlot d.tx.txBlockIndex)
  if status = 0 then pure 0
  else do
    releaseSlot d.tx.txBlockIndex
    pure status

/-- The preparation and submission of a block: its status, or what the call returns. -/
def trySubmit (writer : ℕ) (r : WriteRequest) (txHandle : UInt32) (currBlock inbuffPtr : ℕ) :
    Streaming κ φ (Except ℤ ℤ) :=
  catchStd (do
    let status ← submitBlock writer r txHandle inbuffPtr
    pure (.ok status)) do
    reportDiagnostic
    let d ← get
    pure (.error (d.tx.prefixOr currBlock soapyStreamError))

/-- The wait behind a full queue. -/
def awaitCompletion (currBlock : ℕ) (observed : UInt64) : Streaming κ φ PacketResult := do
  let answer ← yield
  let d ← get
  if d.tx.txWritesStopping then pure (.ended (d.tx.prefixOr currBlock soapyStreamError))
  -- The deadline counts at the first test only; the wait ends with a last test of the predicate.
  else if answer.expired || d.tx.completed == observed then
    pure (.ended (d.tx.prefixOr currBlock soapyTimeout))
  else pure .again

def afterSubmit (currBlock : ℕ) (observed : UInt64) (status : ℤ) : Streaming κ φ PacketResult := do
  let d ← get
  if status = d.tx.config.queueFull then awaitCompletion currBlock observed
  else if status ≠ 0 then do
    reportDiagnostic
    pure (.ended (d.tx.prefixOr currBlock soapyStreamError))
  else do
    updateTx fun t => { t with txBlockIndex := (t.txBlockIndex + 1) % t.config.txBufferCount }
    pure .sent

/-- One pass of the loop. -/
def sendPacket (writer : ℕ) (r : WriteRequest) (txHandle : UInt32) (currBlock inbuffPtr : ℕ) :
    Streaming κ φ PacketResult := do
  let reserved ← reserve currBlock
  match reserved with
  | .error status => pure (.ended status)
  | .ok observed => do
    let submitted ← trySubmit writer r txHandle currBlock inbuffPtr
    match submitted with
    | .error status => pure (.ended status)
    | .ok status => afterSubmit currBlock observed status

/-- At most `fuel` passes of the loop. -/
def writeLoop (writer : ℕ) (r : WriteRequest) (txHandle : UInt32) :
    ℕ → ℕ → ℕ → Streaming κ φ (Option ℤ)
  | 0, _, _ => pure none
  | fuel + 1, currBlock, inbuffPtr => do
    let d ← get
    if currBlock < r.numElems / d.tx.config.currentTxBlockSize then do
      let result ← sendPacket writer r txHandle currBlock inbuffPtr
      match result with
      | .ended status => pure (some status)
      | .again => writeLoop writer r txHandle fuel currBlock inbuffPtr
      | .sent =>
        writeLoop writer r txHandle fuel (currBlock + 1) (inbuffPtr + d.tx.inputBlockBytes)
    else pure (some r.numElems)

/-- The wait for the PPS start, in front of the first packet: the status to return, if any. -/
def passGate : Streaming κ φ (Option ℤ) := do
  let d ← get
  if d.tx.firstTransmit then do
    reportDiagnostic
    let _ ← yield
    let d ← get
    if !d.tx.txStartFinished && !d.tx.txWritesStopping then pure (some soapyTimeout)
    else if d.tx.txWritesStopping || d.tx.txStartStatus != 0 then pure (some soapyStreamError)
    else do
      updateTx fun t => { t with firstTransmit := false }
      pure none
  else pure none

/-- The call behind its admission. -/
def writeAdmitted (writer : ℕ) (r : WriteRequest) (txHandle : UInt32) (fuel : ℕ) :
    Streaming κ φ (Option ℤ) := do
  let d ← get
  match d.tx.validateWrite r with
  | some status => pure (some status)
  | none => do
    let _ ← yield
    let gate ← passGate
    match gate with
    | some status => pure (some status)
    | none => writeLoop writer r txHandle fuel 0 0

/-- A scope guard around what has ended. -/
def scopeExit (body : Streaming κ φ (Option ℤ)) (cleanup : Streaming κ φ Unit) :
    Streaming κ φ (Option ℤ) := do
  let result ← body.guarded cleanup
  match result with
  | none => pure none
  | some status => do
    cleanup
    pure (some status)

/-- The cleanup of `writer`. -/
def leaveWriter : Streaming κ φ Unit := do
  let _ ← yield
  updateTx fun t => { t with activeTxWriters := t.activeTxWriters - 1 }

/-- `writeStream`, for at most `fuel` passes of its loop. -/
def writeStream (writer : ℕ) (r : WriteRequest) (fuel : ℕ) : Streaming κ φ (Option ℤ) := do
  let d ← get
  match d.findStreamHandle r.stream with
  | none => pure (some soapyStreamError)
  | some (.rx _) => pure (some soapyNotSupported)
  | some (.tx handle) =>
    if r.flags ≠ 0 then pure (some soapyNotSupported)
    else if r.timeoutUs < 0 then pure (some soapyStreamError)
    else do
      let _ ← yield
      let d ← get
      if d.tx.txWritesStopping then pure (some soapyStreamError)
      else do
        updateTx fun t => { t with activeTxWriters := t.activeTxWriters + 1 }
        scopeExit (writeAdmitted writer r handle.txHandle fuel) leaveWriter

/-! ## readStreamStatus -/

/-- The read of the counter, with `tx_status_mutex` held: the status to return, if any. -/
def pollUnderruns (txHandle : UInt32) : Streaming κ φ (Option ℤ) := do
  let answer ← sdkTx (.readTxNumUnderruns txHandle)
  if answer.status ≠ 0 then do
    reportDiagnostic
    pure (some soapyStreamError)
  else do
    let d ← get
    updateTx fun t => { t with txUnderruns := answer.number.toUInt32 }
    if answer.number.toUInt32 > d.tx.txUnderruns then do
      updateOut fun o => { o with chanMask := 1 }
      pure (some soapyUnderflow)
    else pure none

/-- The section under `tx_status_mutex`. -/
def pollStatus (txHandle : UInt32) : Streaming κ φ (Option ℤ) := do
  let _ ← yield
  let d ← get
  if d.tx.txWritesStopping then pure (some soapyStreamError)
  else if d.tx.firstTransmit && d.tx.txStartFinished && d.tx.txStartStatus != 0 then
    pure (some soapyStreamError)
  else if d.tx.firstTransmit && !d.tx.txStartFinished then pure none
  else pollUnderruns txHandle

/-- At most `fuel` passes of the loop. -/
def statusLoop (txHandle : UInt32) : ℕ → Streaming κ φ (Option ℤ)
  | 0 => pure none
  | fuel + 1 => do
    let locked ← yield
    if locked.expired then pure (some soapyTimeout)
    else do
      let polled ← pollStatus txHandle
      match polled with
      | some status => pure (some status)
      | none => do
        let now ← yield
        if now.expired then pure (some soapyTimeout)
        else do
          let _ ← yield
          let d ← get
          if d.tx.txWritesStopping then pure (some soapyStreamError) else statusLoop txHandle fuel

/-- The cleanup of `reader`. -/
def leaveReader : Streaming κ φ Unit := do
  let _ ← yield
  updateTx fun t => { t with activeTxStatusReaders := t.activeTxStatusReaders - 1 }

/-- `readStreamStatus`, for at most `fuel` passes of its loop. -/
def readStreamStatus (r : StatusRequest) (fuel : ℕ) : Streaming κ φ (Option ℤ) := do
  let d ← get
  match d.findStreamHandle r.stream with
  | none => pure (some soapyStreamError)
  | some (.rx _) => pure (some soapyNotSupported)
  | some (.tx handle) => do
    updateOut fun o => { o with chanMask := 0, flags := 0, timeNs := 0 }
    if r.timeoutUs < 0 then pure (some soapyStreamError)
    else do
      let _ ← yield
      let d ← get
      if d.tx.txWritesStopping then pure (some soapyStreamError)
      else do
        updateTx fun t => { t with activeTxStatusReaders := t.activeTxStatusReaders + 1 }
        scopeExit (statusLoop handle.txHandle fuel) leaveReader

/-! ## Activation -/

/-- The configuration calls of an activation: whether all succeeded. -/
def configureTx : List SdkCall → Streaming κ φ Bool
  | [] => pure true
  | call :: rest => do
    let answer ← sdkTx call
    if answer.status ≠ 0 then do
      reportDiagnostic
      pure false
    else if call.logsSuccess then do
      reportDiagnostic
      configureTx rest
    else configureTx rest

/-- The start on the next PPS edge, by a thread whose creation may throw. -/
def createPpsWorker (txHandle : UInt32) : Streaming κ φ Bool := do
  let _ ← yield
  updateTx fun t => { t with txStartFinished := false, txStartStatus := 0 }
  allocate
  updateTx fun t =>
    { t with
      txStreamingThread := some (.ready txHandle)
      terminated := t.terminated || t.txStreamingThread.isSome }
  updateTx fun t => { t with firstTransmit := true }
  pure true

/-- The immediate start: whether it succeeded. -/
def startImmediately (txHandle : UInt32) : Streaming κ φ Bool := do
  let answer ← sdkTx (.startTxStreaming txHandle)
  if answer.status ≠ 0 then do
    reportDiagnostic
    pure false
  else do
    updateTx fun t => { t with txStreamActive := true }
    let _ ← yield
    updateTx fun t => { t with txUnderruns := 0 }
    reportDiagnostic
    pure true

/-- The end of an activation, which opens the stream to writers. -/
def openTx : Streaming κ φ ℤ := do
  updateTx fun t => { t with txStreamActive := true }
  let _ ← yield
  updateTx fun t => { t with txWritesStopping := false }
  pure 0

/-- The start of the hardware: whether the activation goes on. -/
def startHardware (txHandle : UInt32) (onPps : Bool) : Streaming κ φ Bool :=
  if onPps then createPpsWorker txHandle else startImmediately txHandle

/-- The start of a configured stream. -/
def startTx (txHandle : UInt32) (onPps : Bool) : Streaming κ φ ℤ := do
  updateTx fun t => { t with firstTransmit := false }
  let started ← startHardware txHandle onPps
  if started then openTx else pure soapyStreamError

/-- The TX branch of `activateStreamImpl`. -/
def activateTx (txHandle : UInt32) (flags : UInt32) : Streaming κ φ ℤ := do
  let d ← get
  if d.tx.txStreamActive || d.tx.txStreamingThread.isSome then pure soapyStreamError
  else do
    let configured ← configureTx (d.tx.activationCalls txHandle)
    if configured then startTx txHandle (flags == soapyHasTime) else pure soapyStreamError

/-! ## Deactivation -/

/-- `stopTxWrites`: whether its wait is over. -/
def stopTxWrites : Streaming κ φ Bool := do
  let _ ← yield
  updateTx fun t => { t with txWritesStopping := true }
  let _ ← yield
  let d ← get
  pure (d.tx.activeTxWriters == 0 && d.tx.activeTxStatusReaders == 0)

/-- The join of the PPS worker: whether it is over. -/
def joinPpsWorker : Streaming κ φ Bool := do
  let _ ← yield
  let d ← get
  match d.tx.txStreamingThread with
  | none => pure true
  | some (.finished _) => do
    updateTx fun t => { t with txStreamingThread := none }
    pure true
  | some _ => pure false

/-- The stop of the hardware, unless there is nothing to stop. -/
def stopTxHardware (onPps : Bool) : Streaming κ φ ℤ := do
  let d ← get
  match d.tx.activeTxStream with
  | none => pure 0
  | some handle =>
    if d.tx.txStreamActive then do
      let answer ← sdkTx (if onPps then .stopTxStreamingOn1pps handle.txHandle
        else .stopTxStreaming handle.txHandle)
      if answer.status ≠ 0 ∧ answer.status ≠ noDevice then pure answer.status
      else do
        updateTx fun t => { t with txStreamActive := false }
        pure 0
    else pure 0

/-- `stopTxStream` -/
def stopTxStream (onPps : Bool) : Streaming κ φ (Option ℤ) := do
  let drained ← stopTxWrites
  if drained then do
    let joined ← joinPpsWorker
    if joined then do
      let status ← stopTxHardware onPps
      pure (some status)
    else pure none
  else pure none

/-- The TX branch of `deactivateStream`. -/
def deactivateTx (onPps : Bool) : Streaming κ φ (Option ℤ) := do
  let stopped ← stopTxStream onPps
  match stopped with
  | none => pure none
  | some status =>
    if status ≠ 0 then do
      reportDiagnostic
      pure (some soapyStreamError)
    else pure (some 0)

end Streaming

end SoapySidekiq
