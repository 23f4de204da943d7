import SoapySidekiq.Tx.WriteStream

/-! # readStreamStatus

One call of `readStreamStatus`, step by step. From the lock of `tx_status_mutex` to the end of the SDK
read the call holds that mutex, and inside it takes `tx_mutex` and the completion mutex together. -/
set_option autoImplicit false

namespace SoapySidekiq

structure StatusRequest where
  stream : StreamToken
  timeoutUs : ℤ

inductive PollerPc where
  | enter
  | admission
  | statusLocking
  | checkLocking
  | checkInside
  | reading
  | timeCheck
  | waitLocking (timedOut : Bool)
  | waitInside (timedOut : Bool)
  | waitSleeping
  | waitParked
  | leaving (status : ℤ)
  | notifying (status : ℤ)
  | returned (status : ℤ)

structure Poller where
  request : StatusRequest
  pc : PollerPc
  txHandle : UInt32
  chanMask : ℕ

/-- What the environment contributes to a step of a status call. -/
inductive StatusInput where
  | run
  /-- A deadline has passed. -/
  | timeout
  /-- A wait ends without a notification. -/
  | wake
  /-- The SDK call returns, with the counter that it read. -/
  | sdk (status : ℤ) (errors : UInt32)

namespace Poller

def create (request : StatusRequest) : Poller := ⟨request, .enter, 0, 0⟩

@[simps] def goto (p : Poller) (pc : PollerPc) : Poller := { p with pc := pc }

/-- The mutexes that a call holds between its steps. -/
def holds (p : Poller) (m : Mutex) : Bool :=
  match p.pc with
  | .checkLocking | .reading => m == .status
  | .checkInside => true
  | .waitInside _ | .waitSleeping => m == .completion
  | _ => false

end Poller

namespace TxDevice

/-- The checks in front of the admission. -/
def checkStatus (d : TxDevice) (r : StatusRequest) : Except ℤ TxStreamHandle :=
  match d.findStreamHandle r.stream with
  | none => .error soapyStreamError
  | some handle => if r.timeoutUs < 0 then .error soapyStreamError else .ok handle

/-- The section under all three mutexes: what to do next. -/
def checkGate (d : TxDevice) (p : Poller) : TxDevice × Poller :=
  if d.txWritesStopping then (d, p.goto (.leaving soapyStreamError))
  else if d.firstTransmit && d.txStartFinished && d.txStartStatus != 0 then
    (d, p.goto (.leaving soapyStreamError))
  else if d.firstTransmit && !d.txStartFinished then (d, p.goto .timeCheck)
  else (d.log (.issued (.readTxNumUnderruns p.txHandle)), p.goto .reading)

/-- The end of the SDK read, with `tx_status_mutex` held. -/
def readUnderruns (d : TxDevice) (p : Poller) (status : ℤ) (errors : UInt32) : TxDevice × Poller :=
  let d := d.log (.returned (.readTxNumUnderruns p.txHandle) (.ok status))
  if status ≠ 0 then (d, p.goto (.leaving soapyStreamError))
  else if errors > d.txUnderruns then
    ({ d with txUnderruns := errors }, { p with chanMask := 1, pc := .leaving soapyUnderflow })
  else ({ d with txUnderruns := errors }, p.goto .timeCheck)

/-- One step of a status call. -/
def pollerStep (free : Mutex → Bool) (d : TxDevice) (p : Poller) :
    StatusInput → Option (TxDevice × Poller)
  | .run =>
    match p.pc with
    | .enter =>
      match d.checkStatus p.request with
      | .error status => some (d, p.goto (.returned status))
      | .ok handle => some (d, { p with txHandle := handle.txHandle, pc := .admission })
    | .admission =>
      if free .completion then
        if d.txWritesStopping then some (d, p.goto (.returned soapyStreamError))
        else some ({ d with activeTxStatusReaders := d.activeTxStatusReaders + 1 },
          p.goto .statusLocking)
      else none
    | .statusLocking => if free .status then some (d, p.goto .checkLocking) else none
    | .checkLocking =>
      if free .tx && free .completion then some (d, p.goto .checkInside) else none
    | .checkInside => some (d.checkGate p)
    | .reading => none
    | .timeCheck => some (d, p.goto (.waitLocking false))
    | .waitLocking timedOut =>
      if free .completion then some (d, p.goto (.waitInside timedOut)) else none
    | .waitInside timedOut =>
      if d.txWritesStopping then some (d, p.goto (.leaving soapyStreamError))
      else if timedOut then some (d, p.goto .statusLocking)
      else some (d, p.goto .waitSleeping)
    | .waitSleeping => some (d, p.goto .waitParked)
    | .waitParked => none
    | .leaving status =>
      if free .completion then
        some ({ d with activeTxStatusReaders := d.activeTxStatusReaders - 1 },
          p.goto (.notifying status))
      else none
    | .notifying status => some (d, p.goto (.returned status))
    | .returned _ => none
  | .timeout =>
    match p.pc with
    | .statusLocking => some (d, p.goto (.leaving soapyTimeout))
    | .timeCheck => some (d, p.goto (.leaving soapyTimeout))
    | .waitParked => some (d, p.goto (.waitLocking true))
    | _ => none
  | .wake =>
    match p.pc with
    | .waitParked => some (d, p.goto (.waitLocking false))
    | _ => none
  | .sdk status errors =>
    match p.pc with
    | .reading => some (d.readUnderruns p status errors)
    | _ => none

end TxDevice

end SoapySidekiq
