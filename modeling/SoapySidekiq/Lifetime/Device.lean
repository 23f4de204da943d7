import SoapySidekiq.Lifetime.Constructor
import SoapySidekiq.Rx.Session
import SoapySidekiq.Tx.System

/-! # The life of a device

A constructed device from its first call to its destruction: the TX half, the RX session, the SDK calls
of the control functions, and the destructor. API calls run at any time until the destruction, which
waits for none of them because the caller serializes it with all of them; the PPS worker, the RX worker
and the SDK's completion callbacks run in every phase. -/
set_option autoImplicit false

namespace SoapySidekiq
variable {α τ κ : Type}

/-! ## Phases -/

/-- Which statement of the destructor is in progress. -/
inductive Phase where
  | alive
  | shutdownTx
  /-- `rx_session->shutdown()`. -/
  | shutdownRx
  /-- The destructor of the session, which shuts down again. -/
  | resetRx
  | unregistering
  | exiting
  | gone
deriving DecidableEq, Repr

namespace Phase

/-- `skiq_exit` has been called. -/
def released : Phase → Bool
  | .exiting | .gone => true
  | _ => false

/-- What still happens in the TX half: before the end everything but a second destruction, then the
stop of the stream. The worker and the callbacks do not ask. -/
def allowsTx (phase : Phase) : TxAction → Bool
  | .pps _ | .complete _ | .notifyCompletion _ => true
  | .lifecycle _ => phase == .alive || phase == .shutdownTx
  | .call .destroy => false
  | _ => phase == .alive

/-- What still happens in the RX session. -/
def allowsRx (phase : Phase) : SessionAction α τ → Bool
  | .worker _ => true
  | .lifecycle _ => phase == .alive || phase == .shutdownRx || phase == .resetRx
  | .fallback _ => phase == .shutdownRx || phase == .resetRx
  | .call .shutdown => false
  | _ => phase == .alive

end Phase

/-! ## The device -/

structure Lifetime (α τ κ : Type) where
  tx : TxSystem
  rx : SessionWorld α τ
  /-- The SDK calls in progress that control functions have made. -/
  controls : List κ
  phase : Phase
  trace : List (LifetimeEvent κ)

inductive LifetimeAction (α τ κ : Type) where
  /-- A step of the TX half, with the block calls of an allocation that fails in it. -/
  | tx (action : TxAction) (failed : List BlockCall)
  | rx (action : SessionAction α τ)
  | control (call : κ)
  /-- The control call at this place returns. -/
  | controlled (index : ℕ) (status : ℤ)
  | destroy
  /-- The destructor goes on to its next statement. -/
  | proceed
  /-- The destructor's call of the SDK returns. -/
  | returned (status : ℤ)

/-! ## Blocks -/

namespace TxDevice

/-- The pool still holds the block that the context retains. -/
def pooled (d : TxDevice) (context : TxSendContext) : Bool :=
  d.txBlocks.isSome && context.completion == d.txCompletion

/-- The blocks of the pool that no context retains. -/
def unretained (d : TxDevice) : ℕ :=
  (List.range d.config.txBufferCount).countP fun index => !d.inFlight.contains ⟨d.txCompletion, index⟩

end TxDevice

/-- The calls of the block allocator in a step of the TX half. -/
def blockCalls (s t : TxSystem) (failed : List BlockCall) : TxAction → List BlockCall
  | .complete index =>
    match s.device.inFlight[index]? with
    | some context => if s.device.pooled context then [] else [.free]
    | none => []
  | .lifecycle input =>
    match s.lifecycle, input with
    | .allocating _, .run => List.replicate s.device.config.txBufferCount .allocate
    | .allocating _, .throw _ => failed
    | _, _ =>
      if s.device.txBlocks.isSome && t.device.txBlocks.isNone then
        List.replicate s.device.unretained .free
      else []
  | _ => []

/-- The events of a step of the TX half. -/
def txEvents (s t : TxSystem) (failed : List BlockCall) (a : TxAction) : List (LifetimeEvent κ) :=
  (t.device.trace.drop s.device.trace.length).map .tx ++ (blockCalls s t failed a).map .block

/-! ## Calls of the RX backend -/

/-- The call of the backend that a session is in. -/
def SessionWorld.backendCall (w : SessionWorld α τ) : Option (LifetimeCall κ) :=
  match w.pc with
  | .starting configuration _ => some (.startRx configuration.handle configuration.onPps)
  | .rollbackStop configuration _ => some (.stopRx configuration.handle false)
  | .stopping onPps _ => some (.stopRx w.session.activeConfiguration.handle onPps)
  | _ => none

/-- The worker is in `skiq_receive`. -/
def SessionWorld.receiving (w : SessionWorld α τ) : Bool :=
  match w.session.receiveThread with
  | some worker => match worker.pc with
    | .receiving => true
    | _ => false
  | none => false

/-- The call of the backend returns. -/
def SessionWorld.backendReturned (w : SessionWorld α τ) : LifecycleInput τ → List (LifetimeEvent κ)
  | .backend result => (w.backendCall.map fun call => .returned call result).toList
  | _ => []

/-- The events of a step of the session: the call that it is in returns, and it makes another. -/
def rxEvents (w w' : SessionWorld α τ) : SessionAction α τ → List (LifetimeEvent κ)
  | .lifecycle input => w.backendReturned input ++ (w'.backendCall.map .issued).toList
  | .worker incoming =>
    (if w.receiving then [.returned .receive (incoming.map fun _ => 0)] else []) ++
      if w'.receiving then [.issued .receive] else []
  | _ => []

/-! ## Steps -/

/-- A write call, a status call or a control call that has not returned. -/
def Writer.isDone (w : Writer) : Bool := match w.pc with | .returned _ => true | _ => false

def Poller.isDone (p : Poller) : Bool := match p.pc with | .returned _ => true | _ => false

namespace Lifetime

/-- No API call is in progress. -/
def serialized (s : Lifetime α τ κ) : Bool :=
  decide (s.tx.lifecycle = .idle) && s.tx.writers.all Writer.isDone && s.tx.pollers.all Poller.isDone &&
    (match s.rx.pc with | .free => true | _ => false) && s.controls.isEmpty

def log (s : Lifetime α τ κ) (events : List (LifetimeEvent κ)) : Lifetime α τ κ :=
  { s with trace := s.trace ++ events }

/-- The session's `shutdown` is entered in the next phase. -/
def enterShutdown (s : Lifetime α τ κ) (phase : Phase) : Lifetime α τ κ :=
  { s with rx := s.rx.enter .shutdown, phase := phase }

/-- `shutdown` has returned, its unlocked end included. -/
def shutdownReturned (s : Lifetime α τ κ) : Bool :=
  (match s.rx.pc with | .free => true | _ => false) && s.rx.fallbacks.isEmpty

def next (arith : Arithmetic) (s : Lifetime α τ κ) : LifetimeAction α τ κ → Option (Lifetime α τ κ)
  | .tx action failed =>
    if s.phase.allowsTx action then
      (s.tx.next action).map fun tx => { s with tx := tx }.log (txEvents s.tx tx failed action)
    else none
  | .rx action =>
    if s.phase.allowsRx action then
      (s.rx.next arith action).map fun rx => { s with rx := rx }.log (rxEvents s.rx rx action)
    else none
  | .control call =>
    if s.phase = .alive then
      some ({ s with controls := s.controls ++ [call] }.log [.issued (.control call)])
    else none
  | .controlled index status =>
    match s.controls[index]? with
    | some call =>
      some ({ s with controls := s.controls.eraseIdx index }.log
        [.returned (.control call) (.ok status)])
    | none => none
  | .destroy =>
    if s.phase = .alive ∧ s.serialized = true then
      (s.tx.next (.call .destroy)).map fun tx => { s with tx := tx, phase := .shutdownTx }
    else none
  | .proceed =>
    match s.phase with
    | .shutdownTx => if s.tx.lifecycle = .destroyed then some (s.enterShutdown .shutdownRx) else none
    | .shutdownRx => if s.shutdownReturned then some (s.enterShutdown .resetRx) else none
    | .resetRx =>
      if s.shutdownReturned then
        some ({ s with phase := .unregistering }.log [.issued (.registerTxComplete false)])
      else none
    | _ => none
  | .returned status =>
    match s.phase with
    | .unregistering =>
      some ({ s with phase := .exiting }.log
        [.returned (.registerTxComplete false) (.ok status), .issued .exit])
    | .exiting => some ({ s with phase := .gone }.log [.returned .exit (.ok status)])
    | _ => none

end Lifetime

/-! ## From the constructor -/

/-- What the constructor fixes for the TX half; `convert` is `convertNormalizedFloatToSample` at a full
scale. -/
def ConstructedDevice.txConfiguration (d : ConstructedDevice) (headers : SdkHeaders)
    (convert : UInt32 → UInt32 → Int16) : TxConfiguration where
  card := d.card.toUInt32
  txHandles := d.txHandles
  txBufferCount := d.options.val.txBufferCount.toNat
  currentTxBlockSize := d.options.val.txBlockSize.toNat
  iqSwap := true
  queueFull := headers.queueFull
  convert := convert d.txMaxValue
  bufferCount_pos := d.options.property.1
  blockSize_pos := d.options.property.2.1
  blockSize_lt := d.options.property.2.2
  queueFull_ne := headers.queueFull_ne

/-- The device as the constructor leaves it. -/
def ConstructedDevice.lifetime (d : ConstructedDevice) (headers : SdkHeaders)
    (convert : UInt32 → UInt32 → Int16) (rx : SessionWorld α τ) (trace : List (LifetimeEvent κ)) :
    Lifetime α τ κ :=
  ⟨.create (d.txConfiguration headers convert), rx, [], .alive, trace⟩

end SoapySidekiq
