import SoapySidekiq.Construction.Options
import SoapySidekiq.Tx.Device

/-! # Calls of the SDK in the life of a device

Everything that a device does at the boundary to the SDK, from the first statement of its constructor
to the last block that is freed after its destruction. -/
set_option autoImplicit false

namespace SoapySidekiq

/-- The calls with which the constructor reads and configures the card. -/
inductive SetupCall where
  | isTopologySupported
  | applyTopology (topology : UInt8)
  | readParameters
  | readSysTimestampFreq
  | partString
  | writeIqOrderMode
  | readNumRxChans
  | readNumTxChans
  | readRxIqResolution
  | readTxIqResolution
  | writeChanMode
  | readSampleRateAndBandwidth (rx : Bool) (handle : UInt32)
  | writeRefClockSelect (source : RefClock)
  | write1ppsSource (source : PpsSource)
  | readLast1ppsTimestamp
deriving DecidableEq, Repr

/-- A call outside TX streaming; `κ` are the calls that the control functions make. -/
inductive LifetimeCall (κ : Type) where
  | registerLogging
  | init
  | exit
  /-- `skiq_register_tx_complete_callback` with the callback, or with null. -/
  | registerTxComplete (enabled : Bool)
  | setup (call : SetupCall)
  | control (call : κ)
  | startRx (handle : UInt32) (onPps : Bool)
  | stopRx (handle : UInt32) (onPps : Bool)
  | receive

/-- The SDK's allocator of TX blocks. -/
inductive BlockCall where
  | allocate
  | free
deriving DecidableEq, Repr

inductive LifetimeEvent (κ : Type) where
  | issued (call : LifetimeCall κ)
  | returned (call : LifetimeCall κ) (result : Except Exception ℤ)
  | tx (event : SdkEvent)
  | block (call : BlockCall)

namespace LifetimeEvent
variable {κ : Type}

/-! ## Kinds of events -/

def exits : LifetimeEvent κ → Bool
  | .issued .exit => true
  | _ => false

/-- `skiq_init` has succeeded. -/
def initializes : LifetimeEvent κ → Bool
  | .returned .init (.ok 0) => true
  | _ => false

/-- The completion callback has been registered. -/
def registers : LifetimeEvent κ → Bool
  | .returned (.registerTxComplete true) (.ok 0) => true
  | _ => false

/-- The completion callback has been unregistered. -/
def unregisters : LifetimeEvent κ → Bool
  | .returned (.registerTxComplete false) _ => true
  | _ => false

/-- What may still happen once `skiq_exit` has been called: that it returns, and that blocks are
freed. -/
def afterExit : LifetimeEvent κ → Bool
  | .returned .exit _ | .block .free => true
  | _ => false

def issuesReceive : LifetimeEvent κ → Bool
  | .issued .receive => true
  | _ => false

def returnsReceive : LifetimeEvent κ → Bool
  | .returned .receive _ => true
  | _ => false

def issuesPpsStart : LifetimeEvent κ → Bool
  | .tx (.issued (.startTxStreamingOn1pps _)) => true
  | _ => false

def returnsPpsStart : LifetimeEvent κ → Bool
  | .tx (.returned (.startTxStreamingOn1pps _) _) => true
  | _ => false

/-- The events that neither acquire nor release anything: what the constructor and the control
functions do. -/
def neutral : LifetimeEvent κ → Bool
  | .issued .registerLogging | .returned .registerLogging _ => true
  | .issued (.setup _) | .returned (.setup _) _ => true
  | .issued (.control _) | .returned (.control _) _ => true
  | _ => false

end LifetimeEvent

end SoapySidekiq
