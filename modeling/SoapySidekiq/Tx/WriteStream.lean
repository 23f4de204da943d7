import SoapySidekiq.Tx.Device

/-! # writeStream

One call of `writeStream`, step by step. A section that does not wait is one step, taken when its
mutex is free. A wait is split at every point where another thread can run: before the mutex is
locked, with the mutex held before and after the test of the predicate, and parked without it. -/
set_option autoImplicit false

namespace SoapySidekiq

/-! ## Data -/

structure WriteRequest where
  stream : StreamToken
  /-- `buffs[0]`, unless it or `buffs` is null. -/
  buffer : Option Memory
  numElems : ℕ
  flags : UInt32
  timeoutUs : ℤ

/-- The waits of a write: for the PPS start, for a free slot, and for a completion after the SDK's
queue was full, whose first test also reads the clock. -/
inductive WaitSite where
  | pps
  | slot
  | fullFirst
  | full
deriving DecidableEq, Repr

def WaitSite.mutex : WaitSite → Mutex
  | .pps => .tx
  | _ => .completion

/-- `timedOut` is set when the wait was ended by its deadline, so that a false predicate ends it. -/
inductive WriterPc where
  | enter
  | admission
  | validate
  | gate
  | locking (site : WaitSite) (timedOut : Bool)
  | inside (site : WaitSite) (timedOut : Bool)
  | sleeping (site : WaitSite)
  | parked (site : WaitSite)
  | loop
  | reserved
  | filling
  | transmitting
  | accepted
  | releasing (result : Except Exception ℤ)
  | advance
  | leaving (status : ℤ)
  | notifying (status : ℤ)
  | returned (status : ℤ)

structure Writer where
  request : WriteRequest
  pc : WriterPc
  txHandle : UInt32
  currBlock : ℕ
  inbuffPtr : ℕ
  observedCompletions : UInt64
  /-- The slot that the call reserved last. -/
  slot : TxSendContext
  context : TxSendContext

/-- What the environment contributes to a step of a call. -/
inductive CallInput where
  | run
  /-- A deadline has passed. -/
  | timeout
  /-- A wait ends without a notification. -/
  | wake
  /-- An allocation, a conversion or the SDK call throws a `std::exception`. -/
  | throw (thrown : Exception)
  /-- The SDK takes the packet. -/
  | accept
  /-- The SDK call returns. -/
  | sdk (status : ℤ)

namespace Writer

def create (request : WriteRequest) : Writer :=
  ⟨request, .enter, 0, 0, 0, 0, ⟨0, 0⟩, ⟨0, 0⟩⟩

@[simps] def goto (w : Writer) (pc : WriterPc) : Writer := { w with pc := pc }

/-- The mutex that a call holds between its steps. -/
def holds (w : Writer) (m : Mutex) : Bool :=
  match w.pc with
  | .inside site _ | .sleeping site => site.mutex == m
  | _ => false

/-- The accepted prefix, or a status when nothing was accepted. -/
def prefixOr (w : Writer) (d : TxDevice) (status : ℤ) : ℤ :=
  if w.currBlock = 0 then status else (w.currBlock * d.config.currentTxBlockSize : ℕ)

end Writer

/-! ## The call -/

namespace TxDevice

/-- The checks in front of the admission: the token's handle, or the status to return. -/
def checkWrite (d : TxDevice) (r : WriteRequest) : Except ℤ TxStreamHandle :=
  match d.findStreamHandle r.stream with
  | none => .error soapyStreamError
  | some handle =>
    if r.flags ≠ 0 then .error soapyNotSupported
    else if r.timeoutUs < 0 then .error soapyStreamError
    else .ok handle

/-- The checks behind the admission: the status to return, unless there are packets to send. -/
def validateWrite (d : TxDevice) (r : WriteRequest) : Option ℤ :=
  if d.config.currentTxBlockSize = 0 ∨ r.numElems > intMax ∨
      r.numElems % d.config.currentTxBlockSize ≠ 0 then some soapyStreamError
  else if r.numElems = 0 then some 0
  else if r.buffer.isNone then some soapyStreamError
  else none

/-- The test of a predicate, with the site's mutex held. -/
def testWait (d : TxDevice) (w : Writer) (timedOut : Bool) : WaitSite → TxDevice × Writer
  | .pps =>
    if d.txStartFinished || d.txWritesStopping then
      if d.txWritesStopping || d.txStartStatus != 0 then
        -- The gate stays set, so retries cannot transmit after a failed start.
        (d, w.goto (.leaving soapyStreamError))
      else ({ d with firstTransmit := false }, w.goto .loop)
    else if timedOut then (d, w.goto (.leaving soapyTimeout))
    else (d, w.goto (.sleeping .pps))
  | .slot =>
    if d.txWritesStopping then (d, w.goto (.leaving (w.prefixOr d soapyStreamError)))
    else if !d.slot d.txCompletion d.txBlockIndex then
      (d.setSlot d.txCompletion d.txBlockIndex true,
        { w with
          observedCompletions := d.completed
          slot := ⟨d.txCompletion, d.txBlockIndex⟩
          pc := .reserved })
    else if timedOut then (d, w.goto (.leaving (w.prefixOr d soapyTimeout)))
    else (d, w.goto (.sleeping .slot))
  | .fullFirst =>
    if d.txWritesStopping then (d, w.goto (.leaving (w.prefixOr d soapyStreamError)))
    else if timedOut then (d, w.goto (.leaving (w.prefixOr d soapyTimeout)))
    else if d.completed != w.observedCompletions then (d, w.goto .loop)
    else (d, w.goto (.sleeping .full))
  | .full =>
    if d.txWritesStopping then (d, w.goto (.leaving (w.prefixOr d soapyStreamError)))
    else if d.completed != w.observedCompletions then (d, w.goto .loop)
    else if timedOut then (d, w.goto (.leaving (w.prefixOr d soapyTimeout)))
    else (d, w.goto (.sleeping .full))

/-- Where a call goes after its submission failed and its reservation was released. -/
def afterRelease (d : TxDevice) (w : Writer) : Except Exception ℤ → WriterPc
  | .error _ => .leaving (w.prefixOr d soapyStreamError)
  | .ok status =>
    if status = d.config.queueFull then .locking .fullFirst false
    else .leaving (w.prefixOr d soapyStreamError)

/-- `skiq_transmit` of the block that the call has filled. -/
def transmitCall (d : TxDevice) (id : ℕ) (w : Writer) : SdkCall :=
  .transmit w.txHandle id (d.blockData w.context.txIndex)

/-- One step of the write call number `id`. -/
def writerStep (free : Mutex → Bool) (d : TxDevice) (id : ℕ) (w : Writer) :
    CallInput → Option (TxDevice × Writer)
  | .run =>
    match w.pc with
    | .enter =>
      match d.checkWrite w.request with
      | .error status => some (d, w.goto (.returned status))
      | .ok handle => some (d, { w with txHandle := handle.txHandle, pc := .admission })
    | .admission =>
      if free .completion then
        if d.txWritesStopping then some (d, w.goto (.returned soapyStreamError))
        else some ({ d with activeTxWriters := d.activeTxWriters + 1 }, w.goto .validate)
      else none
    | .validate =>
      match d.validateWrite w.request with
      | some status => some (d, w.goto (.leaving status))
      | none => some (d, w.goto .gate)
    | .gate => some (d, w.goto (if d.firstTransmit then .locking .pps false else .loop))
    | .locking site timedOut =>
      if free site.mutex then some (d, w.goto (.inside site timedOut)) else none
    | .inside site timedOut => some (d.testWait w timedOut site)
    | .sleeping site => some (d, w.goto (.parked site))
    | .parked _ => none
    | .loop =>
      some (d, w.goto (if w.currBlock < w.request.numElems / d.config.currentTxBlockSize then
        .locking .slot false else .leaving w.request.numElems))
    | .reserved =>
      some (d, { w with context := ⟨d.txCompletion, d.txBlockIndex⟩, pc := .filling })
    | .filling =>
      let d := d.fillBlock w.context.txIndex (d.payload (w.request.buffer.getD fun _ => 0) w.inbuffPtr)
      some (d.log (.issued (d.transmitCall id w)), w.goto .transmitting)
    | .transmitting => none
    | .accepted => none
    | .releasing result =>
      if free .completion then
        some (d.setSlot d.txCompletion w.context.txIndex false, w.goto (d.afterRelease w result))
      else none
    | .advance =>
      some ({ d with txBlockIndex := (d.txBlockIndex + 1) % d.config.txBufferCount },
        { w with
          currBlock := w.currBlock + 1
          inbuffPtr := w.inbuffPtr + d.inputBlockBytes
          pc := .loop })
    | .leaving status =>
      if free .completion then
        some ({ d with activeTxWriters := d.activeTxWriters - 1 }, w.goto (.notifying status))
      else none
    | .notifying status => some (d, w.goto (.returned status))
    | .returned _ => none
  | .timeout =>
    match w.pc with
    | .parked site => some (d, w.goto (.locking site true))
    -- The clock has reached the deadline at the first test after a full queue.
    | .inside .fullFirst _ => some (d.testWait w true .fullFirst)
    | _ => none
  | .wake =>
    match w.pc with
    | .parked site => some (d, w.goto (.locking site false))
    | _ => none
  | .throw e =>
    if e = .foreign then none
    else match w.pc with
    | .reserved =>
      some (d, { w with context := ⟨d.txCompletion, d.txBlockIndex⟩, pc := .releasing (.error e) })
    | .filling => some (d, w.goto (.releasing (.error e)))
    | .transmitting =>
      some (d.log (.returned (d.transmitCall id w) (.error e)), w.goto (.releasing (.error e)))
    | _ => none
  | .accept =>
    match w.pc with
    | .transmitting =>
      some ({ d with inFlight := d.inFlight ++ [w.context] }.log
        (.accepted id (d.blockData w.context.txIndex)), w.goto .accepted)
    | _ => none
  | .sdk status =>
    match w.pc with
    | .transmitting =>
      if status = 0 then none
      else some (d.log (.returned (d.transmitCall id w) (.ok status)),
        w.goto (.releasing (.ok status)))
    | .accepted =>
      if status = 0 then
        some (d.log (.returned (d.transmitCall id w) (.ok 0)), w.goto .advance)
      else none
    | _ => none

end TxDevice

end SoapySidekiq
