import Mathlib.Control.Monad.Basic
import Mathlib.Tactic.Simps.Basic
import SoapySidekiq.StreamConfiguration
import SoapySidekiq.Soapy

/-! # The TX half of the device

The state that writers, status pollers, the PPS startup worker, the SDK's completion callbacks and
the lifecycle calls share, and what they do to it. Completion states are never destroyed while a
context holds them, so they are numbered in order of their creation. -/
set_option autoImplicit false

namespace SoapySidekiq

/-- A statement about every handle is never decided by trying them all. -/
noncomputable instance decidableForallHandle {p : UInt32 → Prop} : Decidable (∀ handle, p handle) :=
  Classical.propDecidable _

/-! ## Data -/

abbrev Bytes : Type := List UInt8

/-- The memory from a caller's pointer on. -/
abbrev Memory : Type := ℕ → UInt8

/-- `TxCompletionState`: a slot is set while its block is reserved or accepted by the SDK. -/
structure TxCompletionState where
  slots : List Bool
  completed : UInt64
deriving DecidableEq, Repr

/-- `TxSendContext`, with the completion state that it retains. -/
structure TxSendContext where
  completion : ℕ
  txIndex : ℕ
deriving DecidableEq, Repr

structure TxStreamHandle where
  address : StreamToken
  channel : ℕ
  txHandle : UInt32
deriving DecidableEq, Repr

/-- What the constructor has fixed and validated. -/
structure TxConfiguration where
  card : UInt32
  /-- The handles of the TX channels. -/
  txHandles : List UInt32
  txBufferCount : ℕ
  currentTxBlockSize : ℕ
  iqSwap : Bool
  /-- `SKIQ_TX_ASYNC_SEND_QUEUE_FULL`. -/
  queueFull : ℤ
  /-- `convertNormalizedFloatToSample` at the device's full scale, on the bits of a float. -/
  convert : UInt32 → Int16
  bufferCount_pos : 0 < txBufferCount
  blockSize_pos : 0 < currentTxBlockSize
  blockSize_lt : currentTxBlockSize < 65536
  queueFull_ne : queueFull ≠ 0

/-! ## The SDK -/

/-- A call of the SDK. A transmission names the write call that makes it. -/
inductive SdkCall where
  | readSysTimestampFreq
  | writeIqOrderMode
  | writeTxBlockSize (txHandle : UInt32) (blockSize : UInt16)
  | writeTxDataFlowMode (txHandle : UInt32)
  | writeTxTransferMode (txHandle : UInt32)
  | writeNumTxThreads (threads : ℕ)
  | startTxStreaming (txHandle : UInt32)
  | startTxStreamingOn1pps (txHandle : UInt32)
  | stopTxStreaming (txHandle : UInt32)
  | stopTxStreamingOn1pps (txHandle : UInt32)
  | transmit (txHandle : UInt32) (writer : ℕ) (packet : Bytes)
  | readTxNumUnderruns (txHandle : UInt32)
deriving DecidableEq, Repr

/-- What happens at the boundary to the SDK. -/
inductive SdkEvent where
  | issued (call : SdkCall)
  | returned (call : SdkCall) (result : Except Exception ℤ)
  /-- The SDK takes a packet, and the context with it, while it is in `skiq_transmit`. -/
  | accepted (writer : ℕ) (packet : Bytes)
deriving DecidableEq

/-- What a call of the SDK is for. -/
inductive SdkCall.Kind where
  | configuration
  | start
  | stop
  | transmit
  | status
deriving DecidableEq, Repr

def SdkCall.kind : SdkCall → SdkCall.Kind
  | .startTxStreaming _ | .startTxStreamingOn1pps _ => .start
  | .stopTxStreaming _ | .stopTxStreamingOn1pps _ => .stop
  | .transmit _ _ _ => .transmit
  | .readTxNumUnderruns _ => .status
  | _ => .configuration

def SdkEvent.kind : SdkEvent → SdkCall.Kind
  | .issued call | .returned call _ => call.kind
  | .accepted _ _ => .transmit

/-- `tx_streaming_start`, from the creation of its thread on. -/
inductive PpsWorker where
  | ready (txHandle : UInt32)
  | starting (txHandle : UInt32)
  | publishing (status : ℤ)
  | notifying (status : ℤ)
  | finished (status : ℤ)
deriving DecidableEq, Repr

/-! ## The device -/

structure TxDevice where
  config : TxConfiguration
  /-- Every completion state ever created. -/
  completions : List TxCompletionState
  txCompletion : ℕ
  /-- The payloads of the block pool. -/
  txBlocks : Option (List Bytes)
  txBlockIndex : ℕ
  txUseShort : Bool
  txWritesStopping : Bool
  activeTxWriters : ℕ
  activeTxStatusReaders : ℕ
  txStartFinished : Bool
  txStartStatus : ℤ
  txStreamActive : Bool
  firstTransmit : Bool
  txUnderruns : UInt32
  activeTxStream : Option TxStreamHandle
  /-- `none` when the thread object is not joinable. -/
  txStreamingThread : Option PpsWorker
  /-- The contexts that the SDK has accepted and not completed. -/
  inFlight : List TxSendContext
  /-- The completion states that a callback has updated and not yet notified. -/
  toNotify : List ℕ
  trace : List SdkEvent
  /-- `std::terminate`: a joinable thread object was assigned to. -/
  terminated : Bool

inductive Mutex where
  | tx
  | status
  | completion
deriving DecidableEq, Repr

namespace TxDevice

def findStreamHandle (d : TxDevice) (stream : StreamToken) : Option TxStreamHandle :=
  if stream = 0 then none else d.activeTxStream.filter fun handle => handle.address = stream

@[simps] def log (d : TxDevice) (event : SdkEvent) : TxDevice := { d with trace := d.trace ++ [event] }

/-! ### Slots -/

def slot (d : TxDevice) (completion txIndex : ℕ) : Bool :=
  match d.completions[completion]? with
  | none => false
  | some c => c.slots[txIndex]?.getD false

def completed (d : TxDevice) : UInt64 :=
  match d.completions[d.txCompletion]? with
  | none => 0
  | some c => c.completed

@[simps] def setSlot (d : TxDevice) (completion txIndex : ℕ) (value : Bool) : TxDevice :=
  { d with completions := d.completions.modify completion fun c =>
      { c with slots := c.slots.set txIndex value } }

/-- The locked part of `completeTx`, for a context that the SDK returns. -/
def completeTx (d : TxDevice) (context : TxSendContext) : TxDevice :=
  match d.completions[context.completion]? with
  | none => d
  | some c =>
    if context.txIndex < c.slots.length then
      { d with
        completions := d.completions.set context.completion
          ⟨c.slots.set context.txIndex false, c.completed + 1⟩
        toNotify := d.toNotify ++ [context.completion] }
    else d

/-- `initializeTxBuffers`. -/
def initializeTxBuffers (d : TxDevice) : TxDevice :=
  { d with
    completions := d.completions ++ [⟨List.replicate d.config.txBufferCount false, 0⟩]
    txCompletion := d.completions.length
    txBlocks := some (List.replicate d.config.txBufferCount
      (List.replicate (d.config.currentTxBlockSize * 4) 0))
    txBlockIndex := 0 }

/-! ### Blocks -/

def blockData (d : TxDevice) (index : ℕ) : Bytes := ((d.txBlocks.getD [])[index]?).getD []

@[simps] def fillBlock (d : TxDevice) (index : ℕ) (payload : Bytes) : TxDevice :=
  { d with txBlocks := d.txBlocks.map fun blocks => blocks.set index payload }

end TxDevice

/-! ## Payload formats -/

/-- `memcpy` of one packet. -/
def copyBytes (memory : Memory) (offset count : ℕ) : Bytes :=
  (List.range count).map fun i => memory (offset + i)

/-- The bits of the little-endian float at `offset`. -/
def floatBits (memory : Memory) (offset : ℕ) : UInt32 :=
  (memory offset).toUInt32 ||| (memory (offset + 1)).toUInt32 <<< 8 |||
    (memory (offset + 2)).toUInt32 <<< 16 ||| (memory (offset + 3)).toUInt32 <<< 24

/-- A stored `int16_t`, little-endian. -/
def storeSample (sample : Int16) : Bytes :=
  [sample.toUInt16.toUInt8, (sample.toUInt16 >>> 8).toUInt8]

/-- `convertCf32ToCs16` of `complexSamples` samples. -/
def convertCf32ToCs16 (convert : UInt32 → Int16) (memory : Memory) (offset complexSamples : ℕ) :
    Bytes :=
  (List.range (complexSamples * 2)).flatMap fun i =>
    storeSample (convert (floatBits memory (offset + i * 4)))

namespace TxDevice

/-- `input_block_bytes`: the caller's bytes for one block. -/
def inputBlockBytes (d : TxDevice) : ℕ :=
  d.config.currentTxBlockSize * 2 * (if d.txUseShort then 2 else 4)

/-- The payload of the block that starts at `offset` in the caller's buffer. -/
def payload (d : TxDevice) (memory : Memory) (offset : ℕ) : Bytes :=
  if d.txUseShort then copyBytes memory offset (d.config.currentTxBlockSize * 4)
  else convertCf32ToCs16 d.config.convert memory offset d.config.currentTxBlockSize

end TxDevice

end SoapySidekiq
