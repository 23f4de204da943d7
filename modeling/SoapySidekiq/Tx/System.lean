import SoapySidekiq.Foundations.Transition
import SoapySidekiq.Tx.Lifecycle
import SoapySidekiq.Tx.StreamStatus

/-! # The TX system

Any number of write and status calls, the PPS worker, the SDK's callbacks and one lifecycle call at a
time, over one device. Calls are never removed: their numbers are their places in the lists. -/
set_option autoImplicit false

namespace SoapySidekiq

structure TxSystem where
  device : TxDevice
  writers : List Writer
  pollers : List Poller
  lifecycle : TxLifecyclePc
  /-- How the last lifecycle call ended. -/
  outcome : Option TxOutcome

inductive TxAction where
  | writeStream (request : WriteRequest)
  | readStreamStatus (request : StatusRequest)
  | writer (id : ℕ) (input : CallInput)
  | poller (id : ℕ) (input : StatusInput)
  | pps (result : Except Exception ℤ)
  /-- The SDK calls back for the context at this place. -/
  | complete (index : ℕ)
  | notifyCompletion (index : ℕ)
  | call (call : TxLifecycleCall)
  | lifecycle (input : TxLifecycleInput)

/-! ## Notifications -/

def Writer.wakeCv (w : Writer) : Writer :=
  match w.pc with
  | .parked .pps => w.goto (.locking .pps false)
  | _ => w

def Writer.wakeChanged (w : Writer) : Writer :=
  match w.pc with
  | .parked .slot => w.goto (.locking .slot false)
  | .parked .full => w.goto (.locking .full false)
  | .parked .fullFirst => w.goto (.locking .fullFirst false)
  | _ => w

def Poller.wakeChanged (p : Poller) : Poller :=
  match p.pc with
  | .waitParked => p.goto (.waitLocking false)
  | _ => p

namespace TxSystem

/-- No call holds the mutex between its steps. -/
def free (s : TxSystem) (m : Mutex) : Bool :=
  s.writers.all (fun w => !w.holds m) && s.pollers.all fun p => !p.holds m

/-- `notify_all` on a condition: everyone who is parked there goes for the mutex. -/
def notify (s : TxSystem) : Wake → TxSystem
  | .nobody => s
  | .cv => { s with writers := s.writers.map Writer.wakeCv }
  | .changed =>
    { s with
      writers := s.writers.map Writer.wakeChanged
      pollers := s.pollers.map Poller.wakeChanged
      lifecycle := match s.lifecycle with
        | .drainParked caller => .draining caller
        | pc => pc }

/-! ## Steps -/

/-- Whom a call notifies with the step from its counter. -/
def writerWake (w : Writer) : Wake :=
  match w.pc with
  | .notifying _ => .changed
  | _ => .nobody

def pollerWake (p : Poller) : Wake :=
  match p.pc with
  | .notifying _ => .changed
  | _ => .nobody

@[simps] def setWriter (s : TxSystem) (id : ℕ) (d : TxDevice) (w : Writer) : TxSystem :=
  { s with device := d, writers := s.writers.set id w }

@[simps] def setPoller (s : TxSystem) (id : ℕ) (d : TxDevice) (p : Poller) : TxSystem :=
  { s with device := d, pollers := s.pollers.set id p }

@[simps] def setDevice (s : TxSystem) (d : TxDevice) : TxSystem := { s with device := d }

@[simps] def setLifecycle (s : TxSystem) (step : TxLifecycleStep) : TxSystem :=
  { s with device := step.device, lifecycle := step.pc, outcome := step.outcome }

/-- The mutex of a completion state: the current one is the one that calls lock. -/
def freeCompletion (s : TxSystem) (completion : ℕ) : Bool :=
  completion != s.device.txCompletion || s.free .completion

def next (s : TxSystem) : TxAction → Option TxSystem
  | .writeStream request => some { s with writers := s.writers ++ [.create request] }
  | .readStreamStatus request => some { s with pollers := s.pollers ++ [.create request] }
  | .writer id input =>
    match s.writers[id]? with
    | none => none
    | some w => (s.device.writerStep s.free id w input).map fun r =>
        (s.setWriter id r.1 r.2).notify (writerWake w)
  | .poller id input =>
    match s.pollers[id]? with
    | none => none
    | some p => (s.device.pollerStep s.free p input).map fun r =>
        (s.setPoller id r.1 r.2).notify (pollerWake p)
  | .pps result =>
    (s.device.ppsStep s.free result).map fun r => (s.setDevice r.1).notify r.2
  | .complete index =>
    match s.device.inFlight[index]? with
    | none => none
    | some context =>
      if s.freeCompletion context.completion then
        some (s.setDevice ({ s.device with
          inFlight := s.device.inFlight.eraseIdx index }.completeTx context))
      else none
  | .notifyCompletion index =>
    match s.device.toNotify[index]? with
    | none => none
    | some completion =>
      let s' := s.setDevice { s.device with toNotify := s.device.toNotify.eraseIdx index }
      some (if completion = s.device.txCompletion then s'.notify .changed else s')
  | .call call =>
    if s.lifecycle = .idle then some (s.setLifecycle (s.device.beginCall call)) else none
  | .lifecycle input =>
    (s.device.lifecycleStep s.free s.lifecycle input).map fun step =>
      (s.setLifecycle step).notify step.wake

end TxSystem

/-! ## Construction -/

/-- A constructed device without TX stream. -/
def TxDevice.create (config : TxConfiguration) : TxDevice :=
  { config := config
    completions := [⟨List.replicate config.txBufferCount false, 0⟩]
    txCompletion := 0
    txBlocks := none
    txBlockIndex := 0
    txUseShort := true
    txWritesStopping := true
    activeTxWriters := 0
    activeTxStatusReaders := 0
    txStartFinished := false
    txStartStatus := 0
    txStreamActive := false
    firstTransmit := false
    txUnderruns := 0
    activeTxStream := none
    txStreamingThread := none
    inFlight := []
    toNotify := []
    trace := []
    terminated := false }

def TxSystem.create (config : TxConfiguration) : TxSystem := ⟨.create config, [], [], .idle, none⟩

/-! ## A small device -/

namespace SmallTx

/-- One channel and a ring of two blocks of two samples. -/
def config : TxConfiguration where
  card := 0
  txHandles := [0]
  txBufferCount := 2
  currentTxBlockSize := 2
  iqSwap := false
  queueFull := 1
  convert _ := 0
  bufferCount_pos := by decide
  blockSize_pos := by decide
  blockSize_lt := by decide
  queueFull_ne := by decide

/-- `setupStream` returns the token 100. -/
def setup : List TxAction :=
  [.call (.setupStream "CS16" [0] [] 100), .lifecycle (.sdk 0), .lifecycle .run, .lifecycle .run]

/-- `activateStream` up to the gate. -/
def configure (flags : UInt32) : List TxAction :=
  [.call (.activateStream 100 flags 0 0), .lifecycle (.sdk 0), .lifecycle (.sdk 0),
    .lifecycle (.sdk 0), .lifecycle (.sdk 0), .lifecycle .run]

/-- An immediate activation that succeeds. -/
def activate : List TxAction :=
  configure 0 ++ [.lifecycle (.sdk 0), .lifecycle .run, .lifecycle .run, .lifecycle .run]

/-- A deactivation up to the join of the worker. -/
def drain : List TxAction :=
  [.call (.deactivateStream 100 0 0), .lifecycle .run, .lifecycle .run, .lifecycle .run,
    .lifecycle .run]

end SmallTx

end SoapySidekiq
