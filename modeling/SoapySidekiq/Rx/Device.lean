import SoapySidekiq.Rx.Session
import SoapySidekiq.StreamConfiguration

/-! # The RX half of the device

`setupStream`, `activateStream`, `deactivateStream`, `closeStream` and `readStream` of an RX stream,
over one session that outlives the tokens. A call that enters the session is in progress until the
session's call has returned; the worker and `readStream` run at any time.

Every received sample carries, beside its value, the number of the setup whose token activated the
session when it was received. -/
set_option autoImplicit false

namespace SoapySidekiq
variable {δ φ : Type}

/-! ## Setup requests -/

/-- What the SDK and the allocator return during one RX setup. -/
structure RxSetupResults where
  blockSize : ℤ
  sysFreqStatus : ℤ
  sysFreq : UInt64
  iqOrderStatus : ℤ
  transferTimeoutStatus : ℤ
  /-- The address of the new stream handle, unless its allocation throws. -/
  address : Option StreamToken

/-! ## The device -/

structure RxStreamHandle where
  address : StreamToken
  channel : ℕ
  rxHandle : UInt32
deriving DecidableEq, Repr

/-- The call in progress. -/
inductive RxCall where
  | none
  | activating
  | deactivating
  | closing
deriving DecidableEq, Repr

/-- A received component and the number of the setup through which it was received. -/
abbrev Received : Type := Int16 × ℕ

structure RxDevice (δ : Type) where
  card : UInt32
  /-- The handles of the RX channels. -/
  rxHandles : List UInt32
  /-- `SKIQ_RX_HEADER_SIZE_IN_BYTES`. -/
  rxHeaderSize : ℕ
  iqSwap : Bool
  session : SessionWorld Received (RxTiming δ)
  activeRxStream : Option RxStreamHandle
  rxUseShort : Bool
  rxPayloadSizeInWords : ℕ
  sysFreq : UInt64
  call : RxCall
  /-- What the last call returned or threw. -/
  result : Option (Except Exception ℤ)
  /-- The number of RX streams set up so far: the current token is the last of them. -/
  setups : ℕ
  /-- The setup through whose token the queue was last started; 0 before that. -/
  owner : ℕ

namespace RxDevice

def findStreamHandle (d : RxDevice δ) (stream : StreamToken) : Option RxStreamHandle :=
  if stream = 0 then none else d.activeRxStream.filter fun handle => handle.address = stream

def finish (d : RxDevice δ) (result : Except Exception ℤ) : RxDevice δ :=
  { d with call := .none, result := some result }

def sdkFailure (d : RxDevice δ) (call : String) (channel : ℕ) (rxHandle : UInt32) (detail : String)
    (status : ℤ) : Exception :=
  .runtimeError (call ++ " failed during RX setup (card " ++ toString d.card ++ ", channel " ++
    toString channel ++ ", handle " ++ toString rxHandle ++ detail ++ ", status " ++
    toString status ++ ")")

/-- The body of the RX branch of `setupStream`, once the request is valid. Fields written before a
failing call keep their new values. -/
def configureRx (d : RxDevice δ) (format : StreamFormat) (channel : ℕ) (rxHandle : UInt32)
    (sdk : RxSetupResults) : RxDevice δ :=
  if sdk.blockSize < 0 then
    d.finish (.error (.runtimeError ("skiq_read_rx_block_size failed (card " ++ toString d.card ++
      ", status " ++ toString sdk.blockSize ++ ")")))
  else
    let blockBytes := sdk.blockSize.toNat
    if blockBytes ≤ d.rxHeaderSize ∨ blockBytes % 4 ≠ 0 then
      d.finish (.error (.runtimeError
        ("skiq_read_rx_block_size returned an invalid unpacked block (card " ++ toString d.card ++
          ", bytes " ++ toString blockBytes ++ ")")))
    else
      let d := { d with
        rxPayloadSizeInWords := (blockBytes - d.rxHeaderSize) / 4
        rxUseShort := format == StreamFormat.cs16 }
      if sdk.sysFreqStatus ≠ 0 then
        d.finish (.error (d.sdkFailure "skiq_read_sys_timestamp_freq" channel rxHandle ""
          sdk.sysFreqStatus))
      else
        let d := { d with sysFreq := sdk.sysFreq }
        if d.iqSwap && sdk.iqOrderStatus != 0 then
          d.finish (.error (d.sdkFailure "skiq_write_iq_order_mode" channel rxHandle
            ", IQ order I then Q" sdk.iqOrderStatus))
        else if sdk.transferTimeoutStatus ≠ 0 then
          d.finish (.error (d.sdkFailure "skiq_set_rx_transfer_timeout" channel rxHandle
            ", timeout 100000 us" sdk.transferTimeoutStatus))
        else
          match sdk.address with
          | none => d.finish (.error .badAlloc)
          | some address =>
            { d with
              activeRxStream := some ⟨address, channel, rxHandle⟩
              setups := d.setups + 1 }.finish (.ok 0)

/-- `setupStream` for an RX stream. -/
def setupStream (d : RxDevice δ) (format : String) (channels : List ℕ) (args : List String)
    (sdk : RxSetupResults) : RxDevice δ :=
  match validateStreamRequest .rx format channels d.rxHandles.length d.activeRxStream.isSome with
  | .error e => d.finish (.error e)
  | .ok (parsed, channel) =>
    match args with
    | key :: _ => d.finish (.error (.invalidArgument ("unsupported stream argument '" ++ key ++
        "'; no per-stream options are implemented")))
    | [] =>
      match d.rxHandles[channel]? with
      | none => d.finish (.error (.outOfRange ("RX channel " ++ toString channel ++
          " is unavailable; device has " ++ toString d.rxHandles.length ++ " channel(s)")))
      | some rxHandle => d.configureRx parsed channel rxHandle sdk

/-! ## Calls that enter the session -/

def enter (d : RxDevice δ) (call : RxCall) (inner : LifecycleCall (RxTiming δ)) : RxDevice δ :=
  { d with call := call, session := d.session.enter inner }

def activateStream (fromActualRate : δ → Except Exception TimestampRate) (d : RxDevice δ)
    (stream : StreamToken) (flags : UInt32) (timeNs : ℤ) (numElems : ℕ) : RxDevice δ :=
  match d.findStreamHandle stream with
  | none => d.finish (.ok soapyStreamError)
  | some handle =>
    if unsupportedFlags flags timeNs || numElems != 0 then d.finish (.ok soapyNotSupported)
    else d.enter .activating (.activateConfigured (captureTiming fromActualRate d.card
      handle.rxHandle d.rxPayloadSizeInWords d.sysFreq (flags &&& soapyHasTime != 0)))

def deactivateStream (d : RxDevice δ) (stream : StreamToken) (flags : UInt32) (timeNs : ℤ) :
    RxDevice δ :=
  match d.findStreamHandle stream with
  | none => d.finish (.ok soapyStreamError)
  | some _ =>
    if unsupportedFlags flags timeNs then d.finish (.ok soapyNotSupported)
    else d.enter .deactivating (.deactivate (flags &&& soapyHasTime != 0))

def closeStream (d : RxDevice δ) (stream : StreamToken) : RxDevice δ :=
  match d.findStreamHandle stream with
  | none => d.finish (.error (.invalidArgument "Cannot close an unknown stream handle"))
  | some _ =>
    if d.session.session.running then
      d.finish (.error (.runtimeError "deactivate the RX stream before closing it"))
    else d.enter .closing (.deactivate false)

/-- What `deactivateStream` makes of the session's result. -/
def deactivateStatus : Outcome → Except Exception ℤ
  | .returned status =>
    if status = noDevice then .ok 0 else if status ≠ 0 then .ok soapyStreamError else .ok 0
  | .rejected e | .invalid e | .threw e => .error e

/-- The rest of the call in progress, once the session has returned. -/
def resume (d : RxDevice δ) (outcome : Outcome) : RxDevice δ :=
  match d.call with
  | .none => d
  | .activating =>
    match outcome with
    | .returned status => d.finish (.ok (if status = 0 then 0 else soapyStreamError))
    | .rejected e | .invalid e | .threw e =>
      -- Only a `std::exception` becomes a stream error.
      d.finish (if e = .foreign then .error e else .ok soapyStreamError)
  | .deactivating => d.finish (deactivateStatus outcome)
  | .closing =>
    match deactivateStatus outcome with
    | .error e => d.finish (.error e)
    | .ok status =>
      if status ≠ 0 then
        d.finish (.error (.runtimeError ("Cannot close RX stream after failed deactivation (card " ++
          toString d.card ++ ", status " ++ toString status ++ ")")))
      else { d with activeRxStream := none }.finish (.ok 0)

/-! ## Reads -/

structure ReadStreamOutcome (φ : Type) where
  status : ℤ
  hasTime : Bool
  timeNs : ℤ
  /-- The components written for the caller, as they are or converted. -/
  output : List ((Int16 ⊕ φ) × ℕ)

def ReadStreamOutcome.failure (status : ℤ) : ReadStreamOutcome φ := ⟨status, false, 0, []⟩

/-- The arguments of `readStream`: the caller's first buffer, if any, has room for the request. -/
structure ReadRequest where
  stream : StreamToken
  buffer : Option (List Received)
  numElems : ℕ
  timeoutUs : ℤ
  room : ∀ b, buffer = some b → numElems * 2 ≤ b.length
  /-- The conversion buffer of a CF32 stream cannot be allocated. -/
  resizeThrows : Bool

/-- The checks of `readStreamImpl` in front of the queue's read. -/
def refuseRead (d : RxDevice δ) (r : ReadRequest) : Option ℤ :=
  if (d.findStreamHandle r.stream).isNone then some soapyStreamError
  else if r.numElems > intMax then some soapyOverflow
  else if r.timeoutUs < 0 ∨ (r.numElems ≠ 0 ∧ r.buffer.isNone) then some soapyStreamError
  else if r.numElems ≠ 0 ∧ d.rxUseShort = false ∧ r.resizeThrows = true then
    some soapyStreamError
  else none

/-- `queue_output`. -/
def queueOutput (d : RxDevice δ) (r : ReadRequest) : Option (List Received) :=
  if r.numElems = 0 then none
  else if d.rxUseShort then r.buffer
  else some (List.replicate (r.numElems * 2) (0, 0))

/-- `readStream`, with the conversion of one component to a float. -/
def readStream (arith : Arithmetic) (toFloat : Int16 → φ) (d : RxDevice δ) (r : ReadRequest) :
    ReadStreamOutcome φ × RxDevice δ :=
  match d.refuseRead r with
  | some status => (.failure status, d)
  | none =>
    let read := RxSampleQueue.read arith d.session.session.queue (d.queueOutput r) r.numElems
      r.timeoutUs
    let d' := { d with session := { d.session with session := { d.session.session with
      queue := read.queue } } }
    match read.result with
    | .error _ => (.failure soapyStreamError, d')
    | .ok result =>
      match result.status with
      | .timeout => (.failure soapyTimeout, d')
      | .stopped | .error => (.failure soapyStreamError, d')
      | .samples =>
        let components := (read.output.getD []).take (result.samples * 2)
        (⟨result.samples, result.hasTime, if result.hasTime then result.timeNs else 0,
          components.map fun c => (if d.rxUseShort then .inl c.1 else .inr (toFloat c.1), c.2)⟩, d')

/-! ## Steps -/

inductive RxAction where
  | setupStream (format : String) (channels : List ℕ) (args : List String) (sdk : RxSetupResults)
  | activateStream (stream : StreamToken) (flags : UInt32) (timeNs : ℤ) (numElems : ℕ)
  | deactivateStream (stream : StreamToken) (flags : UInt32) (timeNs : ℤ)
  | closeStream (stream : StreamToken)
  | readStream (request : ReadRequest)
  /-- The session's call goes on: a callback-free step, the backend or the creation of the thread. -/
  | proceed
  | throw (thrown : Exception)
  | backend (result : Except Exception ℤ)
  /-- The session's call has returned. -/
  | resume
  | worker (incoming : Except Exception (RxReceiveResult Int16))

/-- A received block, with the setup through which it was received. -/
def tag (owner : ℕ) (result : RxReceiveResult Int16) : RxReceiveResult Received :=
  { status := result.status
    handle := result.handle
    samples := ⟨result.samples.data.map fun c => (c, owner), by
      rw [List.length_map]; exact result.samples.size_lt⟩
    rfTimestamp := result.rfTimestamp
    systemTimestamp := result.systemTimestamp
    errorCode := result.errorCode }

/-- A step of the session's call; the step that starts the queue makes the current token its owner. -/
def sessionStep (d : RxDevice δ) (input : LifecycleInput (RxTiming δ)) : Option (RxDevice δ) :=
  (d.session.lifecycleStep input).map fun session =>
    { d with
      session := session
      owner := match d.session.pc with | .startQueue _ => d.setups | _ => d.owner }

def next (arith : Arithmetic) (fromActualRate : δ → Except Exception TimestampRate)
    (toFloat : Int16 → φ) (d : RxDevice δ) : RxAction → Option (RxDevice δ)
  | .setupStream format channels args sdk =>
    if d.call = .none then some (d.setupStream format channels args sdk) else none
  | .activateStream stream flags timeNs numElems =>
    if d.call = .none then some (d.activateStream fromActualRate stream flags timeNs numElems)
    else none
  | .deactivateStream stream flags timeNs =>
    if d.call = .none then some (d.deactivateStream stream flags timeNs) else none
  | .closeStream stream => if d.call = .none then some (d.closeStream stream) else none
  | .readStream request => some (d.readStream arith toFloat request).2
  | .proceed => d.sessionStep .proceed
  | .throw e => d.sessionStep (.throw e)
  | .backend result => d.sessionStep (.backend result)
  | .resume =>
    match d.session.pc, d.session.outcome with
    | .free, some (_, outcome) => some (d.resume outcome)
    | _, _ => none
  | .worker incoming =>
    (d.session.next arith (.worker (incoming.map (tag d.owner)))).map fun session =>
      { d with session := session }

end RxDevice

/-! ## Construction -/

/-- A constructed device without streams. -/
def RxDevice.create (card : UInt32) (rxHandles : List UInt32) (rxHeaderSize : ℕ) (iqSwap : Bool)
    (sysFreq : UInt64) (timing : RxTiming δ) : Except Exception (RxDevice δ) :=
  (SessionWorld.create 64 timing).map fun session =>
    { card := card
      rxHandles := rxHandles
      rxHeaderSize := rxHeaderSize
      iqSwap := iqSwap
      session := session
      activeRxStream := none
      rxUseShort := false
      rxPayloadSizeInWords := 0
      sysFreq := sysFreq
      call := .none
      result := none
      setups := 0
      owner := 0 }

end SoapySidekiq
