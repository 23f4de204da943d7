import SoapySidekiq.Rx.SampleQueue
import SoapySidekiq.Soapy

/-! # The RX stream session

`RxStreamSession.hpp` and `RxStreamSession.cpp`. A lifecycle call holds `lifecycle_mutex_` from its
first step to its return, so at most one is in progress, at the program counter `LifecyclePc`; the
receive worker runs beside it, one step for each access to state that both can see. The backend, the
callbacks and the creation of the worker thread end in whatever way the environment says.

Between two steps of the call that holds the mutex only the worker and the unlocked end of a failed
`shutdown` run. -/
set_option autoImplicit false

namespace SoapySidekiq
variable {α τ : Type}

/-! ## Data -/

inductive RxReceiveStatus where
  | success
  | noData
  | overrun
  | error
deriving DecidableEq, Repr

structure RxReceiveResult (α : Type) where
  status : RxReceiveStatus
  handle : UInt32
  samples : SampleVector α
  rfTimestamp : UInt64
  systemTimestamp : UInt64
  errorCode : ℤ

structure RxSessionConfiguration where
  handle : UInt32
  blockSamples : ℕ
  sampleRate : TimestampRate
  systemTimestampFrequency : UInt64
  useRfTimestamp : Bool
  onPps : Bool
deriving DecidableEq

/-- Where the worker stands in `receiveLoop`. The four `store` steps are the tail of every failure,
reached from the two error branches and from the `catch`. -/
inductive WorkerPc (α : Type) where
  | loop
  | receiving
  | received (result : RxReceiveResult α)
  | process (result : RxReceiveResult α)
  | push (samples : SampleVector α) (timestamp : UInt64)
  | storeError (code : ℤ)
  | storeFailed
  | storeStopped
  | storeQueue
  | finished

/-- The worker thread, with its copy of the configuration. -/
structure Worker (α : Type) where
  configuration : RxSessionConfiguration
  lastTimestamp : Option UInt64
  pc : WorkerPc α

structure RxStreamSession (α : Type) where
  queue : RxSampleQueue α
  /-- `none` when the thread object is not joinable. -/
  receiveThread : Option (Worker α)
  running : Bool
  failed : Bool
  hardwareOverruns : ℕ
  timestampDiscontinuities : ℕ
  receiveError : ℤ
  activeConfiguration : RxSessionConfiguration
  active : Bool

/-! ## The receive worker -/

namespace Worker

def goto (w : Worker α) (pc : WorkerPc α) : Worker α := { w with pc := pc }

/-- The timestamp of a block and the clock that it counts. -/
def timestamp (w : Worker α) (result : RxReceiveResult α) : UInt64 :=
  if w.configuration.useRfTimestamp then result.rfTimestamp else result.systemTimestamp

def frequency (w : Worker α) : TimestampRate :=
  if w.configuration.useRfTimestamp then w.configuration.sampleRate
  else .ofFrequency w.configuration.systemTimestampFrequency

end Worker

namespace RxStreamSession

def setThread (s : RxStreamSession α) (w : Worker α) : RxStreamSession α :=
  { s with receiveThread := some w }

/-- What the loop does with a result that arrived while `running_` was set. -/
def processResult (s : RxStreamSession α) (w : Worker α) (result : RxReceiveResult α) :
    RxStreamSession α :=
  match result.status with
  | .noData => s.setThread (w.goto .loop)
  | .overrun => { s with hardwareOverruns := s.hardwareOverruns + 1 }.setThread (w.goto .loop)
  | .error => s.setThread (w.goto (.storeError result.errorCode))
  | .success =>
    -- A card may deliver another configured handle to this call.
    if result.handle ≠ w.configuration.handle then s.setThread (w.goto .loop)
    else if result.samples.size ≠ w.configuration.blockSamples * 2 then
      s.setThread (w.goto (.storeError (-1)))
    else
      let discontinuity := match w.lastTimestamp with
        | some last => result.rfTimestamp != last + UInt64.ofNat w.configuration.blockSamples
        | none => false
      { s with
        timestampDiscontinuities :=
          s.timestampDiscontinuities + if discontinuity then 1 else 0 }.setThread
        { w with
          lastTimestamp := some result.rfTimestamp
          pc := .push result.samples (w.timestamp result) }

/-- One step of the worker; `incoming` is how the call of `receive` ends, if it is in one. -/
def workerStep (arith : Arithmetic) (s : RxStreamSession α) (w : Worker α)
    (incoming : Except Exception (RxReceiveResult α)) : Option (RxStreamSession α) :=
  match w.pc with
  | .loop => some (s.setThread (w.goto (if s.running then .receiving else .finished)))
  | .receiving =>
    match incoming with
    | .error _ => some (s.setThread (w.goto (.storeError (-1))))
    | .ok result => some (s.setThread (w.goto (.received result)))
  | .received result =>
    some (s.setThread (w.goto (if s.running then .process result else .finished)))
  | .process result => some (s.processResult w result)
  | .push samples timestamp =>
    match RxSampleQueue.pushTicks arith s.queue samples timestamp w.frequency
      w.configuration.sampleRate with
    | (.error _, queue) => some ({ s with queue := queue }.setThread (w.goto (.storeError (-1))))
    | (.ok _, queue) => some ({ s with queue := queue }.setThread (w.goto .loop))
  | .storeError code => some ({ s with receiveError := code }.setThread (w.goto .storeFailed))
  | .storeFailed => some ({ s with failed := true }.setThread (w.goto .storeStopped))
  | .storeStopped => some ({ s with running := false }.setThread (w.goto .storeQueue))
  | .storeQueue => some ({ s with queue := s.queue.fail }.setThread (w.goto .finished))
  | .finished => none

end RxStreamSession

/-! ## Lifecycle calls -/

/-- The callback of `activateConfigured` reads the device's timing state `τ`. -/
abbrev Prepare (τ : Type) : Type := τ → Except Exception RxSessionConfiguration

inductive LifecycleCall (τ : Type) where
  | activate (configuration : RxSessionConfiguration)
  | activateConfigured (prepare : Prepare τ)
  | configureInactive
  | deactivate (onPps : Bool)
  | shutdown

/-- Where the call stands that holds `lifecycle_mutex_`. The activation carries the callback that its
configuration came from, if it had one. -/
inductive LifecyclePc (τ : Type) where
  | free
  | activateConfigured (prepare : Prepare τ)
  | preparing (prepare : Prepare τ)
  | configureInactive
  | configuring
  | activateLocked (configuration : RxSessionConfiguration) (prepare : Option (Prepare τ))
  | starting (configuration : RxSessionConfiguration) (prepare : Option (Prepare τ))
  | startQueue (configuration : RxSessionConfiguration)
  | setRunning (configuration : RxSessionConfiguration)
  | createThread (configuration : RxSessionConfiguration)
  | rollbackRunning (configuration : RxSessionConfiguration) (thrown : Exception)
  | rollbackQueue (configuration : RxSessionConfiguration) (thrown : Exception)
  | rollbackStop (configuration : RxSessionConfiguration) (thrown : Exception)
  | deactivate (onPps : Bool) (quiet : Bool)
  | clearRunning (onPps : Bool) (quiet : Bool)
  | stopQueue (onPps : Bool) (quiet : Bool)
  | stopping (onPps : Bool) (quiet : Bool)
  | joining (result : Except Exception ℤ) (quiet : Bool)

/-- How a call ended. A `rejected` call found hardware or a worker owned, an `invalid` one failed the
checks on its configuration, a `threw` one passed on what a callback, the backend or the creation of
the thread had thrown. -/
inductive Outcome where
  | returned (status : ℤ)
  | rejected (thrown : Exception)
  | invalid (thrown : Exception)
  | threw (thrown : Exception)

inductive CallKind where
  | activate
  | configure
  | deactivate
  | shutdown
deriving DecidableEq, Repr

/-- What a call has done outside the session. -/
inductive Effect where
  | prepare
  | configure
  | start
  | stop
deriving DecidableEq, Repr

/-- A finished call of the backend and how it ended. -/
inductive BackendCall where
  | start (handle : UInt32) (onPps : Bool) (result : Except Exception ℤ)
  | stop (handle : UInt32) (onPps : Bool) (result : Except Exception ℤ)

/-- The end of `shutdown` after a `deactivate` that threw: it runs without the mutex. -/
inductive Fallback where
  | clearRunning
  | stopQueue
  | joining
deriving DecidableEq, Repr

/-- The session, the call in progress, the device timing that callbacks read and write, and a record
of what the calls did. -/
structure SessionWorld (α τ : Type) where
  session : RxStreamSession α
  pc : LifecyclePc τ
  fallbacks : List Fallback
  timing : τ
  /-- The callback that the running activation took its configuration from. -/
  prepared : Option (Prepare τ)
  backend : List BackendCall
  effects : List Effect
  outcome : Option (CallKind × Outcome)
  /-- `std::terminate`: a joinable thread object was assigned to. -/
  terminated : Bool

/-- What the environment contributes to a step of the call in progress. -/
inductive LifecycleInput (τ : Type) where
  /-- Nothing, or the end of a callback or of thread creation without an exception. -/
  | proceed
  | throw (thrown : Exception)
  /-- The end of a configure callback, which leaves a new timing. -/
  | configured (timing : τ) (thrown : Option Exception)
  | backend (result : Except Exception ℤ)

inductive SessionAction (α τ : Type) where
  | call (call : LifecycleCall τ)
  | lifecycle (input : LifecycleInput τ)
  | worker (incoming : Except Exception (RxReceiveResult α))
  | fallback (index : ℕ)
  | read (output : Option (List α)) (requested : ℕ) (timeoutUs : ℤ)

namespace RxSessionConfiguration

/-- The checks of `activateLocked` on its configuration. -/
def check (c : RxSessionConfiguration) : Option Exception :=
  if c.blockSamples = 0 ∨ c.blockSamples > (2 ^ 64 - 1) / 2 then
    some (.invalidArgument "RX block sample count must be positive")
  else if !c.sampleRate.valid then some (.invalidArgument "RX sample rate must be positive")
  else if !c.useRfTimestamp && c.systemTimestampFrequency == 0 then
    some (.invalidArgument "system timestamp frequency must be positive")
  else none

end RxSessionConfiguration

/-- A stop that gives the hardware back. -/
def released (result : Except Exception ℤ) : Bool :=
  match result with
  | .ok status => status == 0 || status == noDevice
  | .error _ => false

namespace SessionWorld

def joinable (w : SessionWorld α τ) : Bool := w.session.receiveThread.isSome

def owned (w : SessionWorld α τ) : Bool := w.session.active || w.joinable

def goto (w : SessionWorld α τ) (pc : LifecyclePc τ) : SessionWorld α τ := { w with pc := pc }

def effect (w : SessionWorld α τ) (e : Effect) : SessionWorld α τ :=
  { w with effects := w.effects ++ [e] }

/-- The call returns and unlocks the mutex. -/
def leave (w : SessionWorld α τ) (kind : CallKind) (outcome : Outcome) : SessionWorld α τ :=
  { w with pc := .free, outcome := some (kind, outcome) }

/-- A call locks the mutex. -/
def enter (w : SessionWorld α τ) (call : LifecycleCall τ) : SessionWorld α τ :=
  { w with
    effects := []
    outcome := none
    pc := match call with
      | .activate configuration => .activateLocked configuration none
      | .activateConfigured prepare => .activateConfigured prepare
      | .configureInactive => .configureInactive
      | .deactivate onPps => .deactivate onPps false
      | .shutdown => .deactivate false true }

/-! ### Activation -/

/-- The backend's start returned or threw. -/
def started (w : SessionWorld α τ) (configuration : RxSessionConfiguration)
    (prepare : Option (Prepare τ)) (result : Except Exception ℤ) : SessionWorld α τ :=
  let w := { w with
    backend := w.backend ++ [BackendCall.start configuration.handle configuration.onPps result] }
  match result with
  | .error thrown => w.leave .activate (.threw thrown)
  | .ok status =>
    if status ≠ 0 then w.leave .activate (.returned status)
    else
      { w with
        prepared := prepare
        session := { w.session with
          activeConfiguration := configuration
          hardwareOverruns := 0
          timestampDiscontinuities := 0
          receiveError := 0
          failed := false
          active := true }
        pc := .startQueue configuration }

/-- The thread object takes the new worker, or its creation throws. -/
def createThread (w : SessionWorld α τ) (configuration : RxSessionConfiguration)
    (thrown : Option Exception) : SessionWorld α τ :=
  match thrown with
  | some e => w.goto (.rollbackRunning configuration e)
  | none =>
    -- Assigning to a joinable thread object terminates the process.
    { w with
      session := w.session.setThread ⟨configuration, none, .loop⟩
      terminated := w.terminated || w.joinable }.leave .activate (.returned 0)

/-- The backend's stop returned or threw, in the rollback or in `deactivate`. -/
def stopped (w : SessionWorld α τ) (handle : UInt32) (onPps : Bool)
    (result : Except Exception ℤ) : SessionWorld α τ :=
  { w with
    backend := w.backend ++ [BackendCall.stop handle onPps result]
    session := { w.session with active := w.session.active && !released result } }

/-! ### Deactivation -/

/-- The end of `deactivate`, after the join. What it throws ends `shutdown` in its `catch`, which runs
on without the mutex. -/
def deactivated (w : SessionWorld α τ) (result : Except Exception ℤ) (quiet : Bool) :
    SessionWorld α τ :=
  let kind := if quiet then CallKind.shutdown else .deactivate
  match result with
  | .ok status => w.leave kind (.returned status)
  | .error thrown =>
    if quiet then { w with fallbacks := w.fallbacks ++ [Fallback.clearRunning] }.leave kind (.returned 0)
    else w.leave kind (.threw thrown)

/-- `joinable` and `join`, which returns once the worker has finished. -/
def joined (w : SessionWorld α τ) : Option (SessionWorld α τ) :=
  match w.session.receiveThread with
  | none => some w
  | some worker =>
    match worker.pc with
    | .finished => some { w with session := { w.session with receiveThread := none } }
    | _ => none

/-! ### Steps -/

/-- One step of the call that holds the mutex. -/
def lifecycleStep (w : SessionWorld α τ) (input : LifecycleInput τ) :
    Option (SessionWorld α τ) :=
  match w.pc, input with
  | .activateConfigured prepare, .proceed =>
    if w.owned then
      some (w.leave .activate
        (.rejected (.logicError "RX stream session still owns hardware or a worker")))
    else some ((w.effect .prepare).goto (.preparing prepare))
  | .preparing prepare, .proceed =>
    match prepare w.timing with
    | .error thrown => some (w.leave .activate (.threw thrown))
    | .ok configuration => some (w.goto (.activateLocked configuration (some prepare)))
  | .configureInactive, .proceed =>
    if w.owned then
      some (w.leave .configure (.rejected (.logicError
        "Deactivate RX successfully before changing stream timing configuration")))
    else some ((w.effect .configure).goto .configuring)
  | .configuring, .configured timing thrown =>
    some ({ w with timing := timing }.leave .configure
      (match thrown with | some e => .threw e | none => .returned 0))
  | .activateLocked configuration prepare, .proceed =>
    match configuration.check with
    | some e => some (w.leave .activate (.invalid e))
    | none =>
      if w.owned then
        some (w.leave .activate (.rejected (.logicError "RX stream session is already active")))
      else some ((w.effect .start).goto (.starting configuration prepare))
  | .starting configuration prepare, .backend result =>
    some (w.started configuration prepare result)
  | .startQueue c, .proceed =>
    some ({ w with session := { w.session with queue := w.session.queue.start } }.goto
      (.setRunning c))
  | .setRunning c, .proceed =>
    some ({ w with session := { w.session with running := true } }.goto (.createThread c))
  | .createThread c, .proceed => some (w.createThread c none)
  | .createThread c, .throw e => some (w.createThread c (some e))
  | .rollbackRunning c e, .proceed =>
    some ({ w with session := { w.session with running := false } }.goto (.rollbackQueue c e))
  | .rollbackQueue c e, .proceed =>
    some (({ w with session := { w.session with queue := w.session.queue.reset } }.effect
      .stop).goto (.rollbackStop c e))
  | .rollbackStop c e, .backend result =>
    some ((w.stopped c.handle false result).leave .activate (.threw e))
  | .deactivate onPps quiet, .proceed =>
    if !w.owned then some (w.deactivated (.ok 0) quiet) else some (w.goto (.clearRunning onPps quiet))
  | .clearRunning onPps quiet, .proceed =>
    some ({ w with session := { w.session with running := false } }.goto (.stopQueue onPps quiet))
  | .stopQueue onPps quiet, .proceed =>
    let w := { w with session := { w.session with queue := w.session.queue.stop } }
    if w.session.active then some ((w.effect .stop).goto (.stopping onPps quiet))
    else some (w.goto (.joining (.ok 0) quiet))
  | .stopping onPps quiet, .backend result =>
    some ((w.stopped w.session.activeConfiguration.handle onPps result).goto
      (.joining result quiet))
  | .joining result quiet, .proceed => w.joined.map fun w => w.deactivated result quiet
  | _, _ => none

/-- One step of the unlocked end of a `shutdown`. -/
def fallbackStep (w : SessionWorld α τ) (index : ℕ) : Option (SessionWorld α τ) :=
  match w.fallbacks[index]? with
  | none => none
  | some .clearRunning =>
    some { w with
      session := { w.session with running := false }
      fallbacks := w.fallbacks.set index .stopQueue }
  | some .stopQueue =>
    some { w with
      session := { w.session with queue := w.session.queue.stop }
      fallbacks := w.fallbacks.set index .joining }
  | some .joining => w.joined.map fun w => { w with fallbacks := w.fallbacks.eraseIdx index }

/-- One step of the session. A new call waits for the mutex. -/
def next (arith : Arithmetic) (w : SessionWorld α τ) : SessionAction α τ → Option (SessionWorld α τ)
  | .call call =>
    match w.pc with
    | .free => some (w.enter call)
    | _ => none
  | .lifecycle input => w.lifecycleStep input
  | .worker incoming =>
    match w.session.receiveThread with
    | none => none
    | some worker =>
      (w.session.workerStep arith worker incoming).map fun session => { w with session := session }
  | .fallback index => w.fallbackStep index
  | .read output requested timeoutUs =>
    some { w with session := { w.session with
      queue := (RxSampleQueue.read arith w.session.queue output requested timeoutUs).queue } }

end SessionWorld

/-! ## Construction -/

/-- The constructor of the session, for a device with the given timing. -/
def SessionWorld.create (queueCapacityBlocks : ℕ) (timing : τ) :
    Except Exception (SessionWorld α τ) :=
  (RxSampleQueue.create queueCapacityBlocks).map fun queue =>
    { session :=
        { queue := queue
          receiveThread := none
          running := false
          failed := false
          hardwareOverruns := 0
          timestampDiscontinuities := 0
          receiveError := 0
          activeConfiguration := ⟨0, 0, .ofFrequency 0, 0, true, false⟩
          active := false }
      pc := .free
      fallbacks := []
      timing := timing
      prepared := none
      backend := []
      effects := []
      outcome := none
      terminated := false }

/-! ## The configuration of an activation -/

/-- The device state that the activation of an RX stream reads: what the SDK returns for the rate
and for the system clock, and the selected time source. -/
structure RxTiming (δ : Type) where
  rateStatus : ℤ
  actualRate : δ
  systemStatus : ℤ
  systemFrequency : UInt64
  rfTimeSource : Bool

/-- The callback that `activateStreamImpl` gives to `activateConfigured`; `sysFreq` is the clock cached
at setup. -/
def captureTiming {δ : Type} (fromActualRate : δ → Except Exception TimestampRate)
    (card rxHandle : UInt32) (payloadWords : ℕ) (sysFreq : UInt64) (onPps : Bool) :
    Prepare (RxTiming δ) :=
  fun timing =>
    if timing.rateStatus ≠ 0 then
      .error (.runtimeError ("RX activation rate read failed (card " ++ toString card ++
        ", handle " ++ toString rxHandle ++ "): " ++ toString timing.rateStatus))
    else
      match fromActualRate timing.actualRate with
      | .error e => .error e
      | .ok sampleRate =>
        if !timing.rfTimeSource && timing.systemStatus != 0 then
          .error (.runtimeError ("skiq_read_sys_timestamp_freq failed at RX activation: " ++
            toString timing.systemStatus))
        else
          .ok ⟨rxHandle, payloadWords, sampleRate,
            if timing.rfTimeSource then sysFreq else timing.systemFrequency,
            timing.rfTimeSource, onPps⟩

end SoapySidekiq
