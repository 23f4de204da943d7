import SoapySidekiq.Tx.Device

/-! # TX lifecycle

The TX branches of `setupStream`, `activateStream`, `deactivateStream` and `closeStream`, the
destructor's `shutdownTx`, and the PPS startup worker. The lifecycle calls are serialized with each
other, so one is in progress at a time. -/
set_option autoImplicit false

namespace SoapySidekiq

/-! ## Calls -/

inductive TxLifecycleCall where
  /-- A setup, with the address of the handle that it would create. -/
  | setupStream (format : String) (channels : List ℕ) (args : List String) (address : StreamToken)
  | activateStream (stream : StreamToken) (flags : UInt32) (timeNs : ℤ) (numElems : ℕ)
  | deactivateStream (stream : StreamToken) (flags : UInt32) (timeNs : ℤ)
  | closeStream (stream : StreamToken)
  | destroy

/-- Which call is in `stopTxStream`. -/
inductive StopCaller where
  | deactivate (onPps : Bool)
  | close
  | destroy
deriving DecidableEq, Repr

def StopCaller.onPps : StopCaller → Bool
  | .deactivate onPps => onPps
  | _ => false

/-- How a call ended. A `rejected` call was refused before it did anything, a `deactivated` one is
from `deactivateStream`, with the status of `stopTxStream`. -/
inductive TxOutcome where
  | rejected (result : Except Exception ℤ)
  | configured (result : Except Exception ℤ)
  | activated (result : Except Exception ℤ)
  | deactivated (status : ℤ)
  | closed (result : Except Exception ℤ)

/-- Where the call in progress stands. -/
inductive TxLifecyclePc where
  | idle
  | stopFlag (caller : StopCaller)
  | notifyCv (caller : StopCaller)
  | notifyChanged (caller : StopCaller)
  | draining (caller : StopCaller)
  | drainParked (caller : StopCaller)
  | joining (caller : StopCaller)
  | stopping (caller : StopCaller) (txHandle : UInt32)
  | configuring (onPps : Bool) (txHandle : UInt32) (call : SdkCall) (rest : List SdkCall)
  | resetGate (onPps : Bool) (txHandle : UInt32)
  | resetStart (txHandle : UInt32)
  | creating (txHandle : UInt32)
  | raiseGate
  | starting (txHandle : UInt32)
  | resetUnderruns
  | activated
  | opening
  | settingUp (handle : TxStreamHandle)
  | allocating (handle : TxStreamHandle)
  | publishing (handle : TxStreamHandle)
  | destroyed
deriving DecidableEq

/-- What the environment contributes to a step of a lifecycle call. -/
inductive TxLifecycleInput where
  | run
  | wake
  | sdk (status : ℤ)
  | throw (thrown : Exception)

/-- Whom a step notifies. -/
inductive Wake where
  | nobody
  | cv
  | changed
deriving DecidableEq, Repr

/-- The device after a step, the next counter, and the outcome of a call that ends. -/
structure TxLifecycleStep where
  device : TxDevice
  pc : TxLifecyclePc
  outcome : Option TxOutcome
  wake : Wake

namespace TxDevice

@[simps] def go (d : TxDevice) (pc : TxLifecyclePc) : TxLifecycleStep := ⟨d, pc, none, .nobody⟩

@[simps] def goWake (d : TxDevice) (pc : TxLifecyclePc) (wake : Wake) : TxLifecycleStep := ⟨d, pc, none, wake⟩

@[simps] def done (d : TxDevice) (outcome : TxOutcome) : TxLifecycleStep := ⟨d, .idle, some outcome, .nobody⟩

/-! ## The start of a call -/

/-- The configuration calls of an activation, in their order. -/
def activationCalls (d : TxDevice) (txHandle : UInt32) : List SdkCall :=
  (if d.config.iqSwap then [.writeIqOrderMode] else []) ++
    [.writeTxBlockSize txHandle (UInt16.ofNat d.config.currentTxBlockSize),
      .writeTxDataFlowMode txHandle, .writeTxTransferMode txHandle, .writeNumTxThreads 4]

/-- The next configuration call, or the gate after the last one. -/
def configure (d : TxDevice) (onPps : Bool) (txHandle : UInt32) : List SdkCall → TxLifecycleStep
  | [] => d.go (.resetGate onPps txHandle)
  | call :: rest => (d.log (.issued call)).go (.configuring onPps txHandle call rest)

/-- A call begins: the checks in front of its first visible step. -/
def beginCall (d : TxDevice) : TxLifecycleCall → TxLifecycleStep
  | .setupStream format channels args address =>
    match validateStreamRequest .tx format channels d.config.txHandles.length
      d.activeTxStream.isSome with
    | .error e => d.done (.rejected (.error e))
    | .ok (parsed, channel) =>
      match args with
      | key :: _ => d.done (.rejected (.error (.invalidArgument ("unsupported stream argument '" ++
          key ++ "'; no per-stream options are implemented"))))
      | [] =>
        match d.config.txHandles[channel]? with
        | none => d.done (.rejected (.error (.outOfRange ("TX channel " ++ toString channel ++
            " is unavailable; device has " ++ toString d.config.txHandles.length ++
            " channel(s)"))))
        | some txHandle =>
          ({ d with txUseShort := parsed == StreamFormat.cs16 }.log (.issued .readSysTimestampFreq)).go
            (.settingUp ⟨address, channel, txHandle⟩)
  | .activateStream stream flags timeNs numElems =>
    match d.findStreamHandle stream with
    | none => d.done (.rejected (.ok soapyStreamError))
    | some handle =>
      if unsupportedFlags flags timeNs || numElems != 0 then
        d.done (.rejected (.ok soapyNotSupported))
      else if d.txStreamActive || d.txStreamingThread.isSome then
        d.done (.rejected (.ok soapyStreamError))
      else d.configure (flags == soapyHasTime) handle.txHandle (d.activationCalls handle.txHandle)
  | .deactivateStream stream flags timeNs =>
    match d.findStreamHandle stream with
    | none => d.done (.rejected (.ok soapyStreamError))
    | some _ =>
      if unsupportedFlags flags timeNs then d.done (.rejected (.ok soapyNotSupported))
      else d.go (.stopFlag (.deactivate (flags &&& soapyHasTime != 0)))
  | .closeStream stream =>
    match d.findStreamHandle stream with
    | none =>
      d.done (.rejected (.error (.invalidArgument "Cannot close an unknown stream handle")))
    | some _ =>
      if d.txStreamActive then
        d.done (.rejected (.error (.runtimeError "deactivate the TX stream before closing it")))
      else d.go (.stopFlag .close)
  | .destroy => d.go (.stopFlag .destroy)

/-! ## stopTxStream -/

/-- The caller's rest after `stopTxStream` has returned. -/
def stopped (d : TxDevice) (caller : StopCaller) (status : ℤ) : TxLifecycleStep :=
  match caller with
  | .deactivate _ => d.done (.deactivated status)
  | .close =>
    if status ≠ 0 then
      d.done (.closed (.error (.runtimeError ("Cannot close TX stream after failed deactivation: " ++
        toString status))))
    else { d with activeTxStream := none, txBlocks := none }.done (.closed (.ok 0))
  | .destroy => { d with activeTxStream := none, txBlocks := none }.go .destroyed

/-- The call that stops the hardware. -/
def stopCall (caller : StopCaller) (txHandle : UInt32) : SdkCall :=
  if caller.onPps then .stopTxStreamingOn1pps txHandle else .stopTxStreaming txHandle

/-- After the join: the stop of the hardware, unless there is nothing to stop. -/
def stopHardware (d : TxDevice) (caller : StopCaller) : TxLifecycleStep :=
  match d.activeTxStream with
  | none => d.stopped caller 0
  | some handle =>
    if d.txStreamActive then
      (d.log (.issued (stopCall caller handle.txHandle))).go (.stopping caller handle.txHandle)
    else d.stopped caller 0

/-! ## Steps -/

/-- One step of the call in progress. -/
def lifecycleStep (free : Mutex → Bool) (d : TxDevice) (pc : TxLifecyclePc) :
    TxLifecycleInput → Option TxLifecycleStep
  | .run =>
    match pc with
    | .stopFlag caller =>
      if free .tx && free .completion then
        some ({ d with txWritesStopping := true }.go (.notifyCv caller))
      else none
    | .notifyCv caller => some (d.goWake (.notifyChanged caller) .cv)
    | .notifyChanged caller => some (d.goWake (.draining caller) .changed)
    | .draining caller =>
      if free .completion then
        if d.activeTxWriters = 0 ∧ d.activeTxStatusReaders = 0 then some (d.go (.joining caller))
        else some (d.go (.drainParked caller))
      else none
    | .joining caller =>
      match d.txStreamingThread with
      | none => some (d.stopHardware caller)
      | some (.finished _) => some ({ d with txStreamingThread := none }.stopHardware caller)
      | some _ => none
    | .resetGate onPps txHandle =>
      let d := { d with firstTransmit := false }
      if onPps then some (d.go (.resetStart txHandle))
      else some ((d.log (.issued (.startTxStreaming txHandle))).go (.starting txHandle))
    | .resetStart txHandle =>
      if free .tx then
        some ({ d with txStartFinished := false, txStartStatus := 0 }.go (.creating txHandle))
      else none
    | .creating txHandle =>
      -- Assigning to a joinable thread object terminates the process.
      some ({ d with
        txStreamingThread := some (.ready txHandle)
        terminated := d.terminated || d.txStreamingThread.isSome }.go .raiseGate)
    | .raiseGate => some ({ d with firstTransmit := true }.go .activated)
    | .resetUnderruns =>
      if free .status then some ({ d with txUnderruns := 0 }.go .activated) else none
    | .activated => some ({ d with txStreamActive := true }.go .opening)
    | .opening =>
      if free .tx && free .completion then
        some ({ d with txWritesStopping := false }.done (.activated (.ok 0)))
      else none
    | .allocating handle => some (d.initializeTxBuffers.go (.publishing handle))
    | .publishing handle =>
      some ({ d with activeTxStream := some handle }.done (.configured (.ok 0)))
    | _ => none
  | .wake =>
    match pc with
    | .drainParked caller => some (d.go (.draining caller))
    | _ => none
  | .sdk status =>
    match pc with
    | .stopping caller txHandle =>
      let d := d.log (.returned (stopCall caller txHandle) (.ok status))
      if status ≠ 0 ∧ status ≠ noDevice then some (d.stopped caller status)
      else some ({ d with txStreamActive := false }.stopped caller 0)
    | .configuring onPps txHandle call rest =>
      let d := d.log (.returned call (.ok status))
      if status ≠ 0 then some (d.done (.activated (.ok soapyStreamError)))
      else some (d.configure onPps txHandle rest)
    | .starting txHandle =>
      let d := d.log (.returned (.startTxStreaming txHandle) (.ok status))
      if status ≠ 0 then some (d.done (.activated (.ok soapyStreamError)))
      else some ({ d with txStreamActive := true }.go .resetUnderruns)
    | .settingUp handle =>
      let d := d.log (.returned .readSysTimestampFreq (.ok status))
      if status ≠ 0 then
        some (d.done (.configured (.error (.runtimeError
          ("skiq_read_sys_timestamp_freq failed during TX setup (card " ++ toString d.config.card ++
            ", channel " ++ toString handle.channel ++ ", handle " ++ toString handle.txHandle ++ ", status " ++ toString status ++ ")")))))
      else some (d.go (.allocating handle))
    | _ => none
  | .throw e =>
    match pc with
    -- `activateStream` turns a failed thread creation into a stream error.
    | .creating _ => some (d.done (.activated (.ok soapyStreamError)))
    | .allocating _ => some (d.done (.configured (.error e)))
    | _ => none

/-! ## The PPS worker -/

/-- The status of a start that may have thrown. -/
def startStatus : Except Exception ℤ → ℤ
  | .ok status => status
  | .error _ => soapyStreamError

/-- One step of `tx_streaming_start`; `result` is how its SDK call ends, if it is in it. -/
def ppsStep (free : Mutex → Bool) (d : TxDevice) (result : Except Exception ℤ) :
    Option (TxDevice × Wake) :=
  match d.txStreamingThread with
  | none => none
  | some (.ready txHandle) =>
    some ({ d with txStreamingThread := some (.starting txHandle) }.log
      (.issued (.startTxStreamingOn1pps txHandle)), .nobody)
  | some (.starting txHandle) =>
    some ({ d with txStreamingThread := some (.publishing (startStatus result)) }.log
      (.returned (.startTxStreamingOn1pps txHandle) result), .nobody)
  | some (.publishing status) =>
    if free .tx && free .status then
      some ({ d with
        txUnderruns := if status = 0 then 0 else d.txUnderruns
        txStartStatus := status
        txStartFinished := true
        txStreamingThread := some (.notifying status) }, .nobody)
    else none
  | some (.notifying status) =>
    some ({ d with txStreamingThread := some (.finished status) }, .cv)
  | some (.finished _) => none

end TxDevice

end SoapySidekiq
