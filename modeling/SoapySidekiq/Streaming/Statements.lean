import SoapySidekiq.Foundations.Procedure
import SoapySidekiq.Lifetime.Device
import SoapySidekiq.Rx.Device
import SoapySidekiq.Time.ActualRate

/-! # Statements of the streaming calls

The streaming calls as sequential code with exceptions: the bodies in the source's order of statements,
with every message where the source emits it. Wherever a call locks a mutex, waits or is in the SDK, the
environment answers and may change the device in whatever way it wants: it is the SDK and every other
thread. -/
set_option autoImplicit false

namespace SoapySidekiq
open Procedure

/-! ## Data -/

/-- The caller's output parameters. -/
structure StreamOutputs (φ : Type) where
  flags : UInt32
  timeNs : ℤ
  chanMask : ℕ
  /-- The components in the caller's buffer, as they are or converted. -/
  samples : List (Int16 ⊕ φ)

/-- What the streaming calls and their callbacks share. -/
structure StreamingDevice (φ : Type) where
  tx : TxDevice
  activeRxStream : Option RxStreamHandle
  session : RxStreamSession Int16
  rxUseShort : Bool
  rxPayloadSizeInWords : ℕ
  sysFreq : UInt64
  rfTimeSource : Bool
  out : StreamOutputs φ

/-- What one call, one lock or one wait ends with. -/
structure StreamingAnswer where
  status : ℤ
  /-- The number that an SDK call writes through its pointer. -/
  number : UInt64
  rate : Binary64.Value
  /-- The deadline has passed. -/
  expired : Bool
  thrown : Option Exception

abbrev Streaming (κ φ α : Type) : Type :=
  Procedure (LifetimeEvent κ) (StreamingDevice φ) StreamingAnswer Exception α

/-- `StreamHandle`, by its direction. -/
inductive StreamHandle where
  | rx (handle : RxStreamHandle)
  | tx (handle : TxStreamHandle)
deriving DecidableEq, Repr

namespace StreamingDevice
variable {φ : Type}

def findStreamHandle (d : StreamingDevice φ) (stream : StreamToken) : Option StreamHandle :=
  if stream = 0 then none
  else
    match d.activeRxStream.filter fun handle => handle.address = stream with
    | some handle => some (.rx handle)
    | none => (d.tx.findStreamHandle stream).map .tx

@[simps] def withTx (f : TxDevice → TxDevice) (d : StreamingDevice φ) : StreamingDevice φ :=
  { d with tx := f d.tx }

@[simps] def withSession (f : RxStreamSession Int16 → RxStreamSession Int16) (d : StreamingDevice φ) :
    StreamingDevice φ := { d with session := f d.session }

@[simps] def withOut (f : StreamOutputs φ → StreamOutputs φ) (d : StreamingDevice φ) : StreamingDevice φ :=
  { d with out := f d.out }

end StreamingDevice

/-! ## Statements -/

namespace Streaming
variable {κ φ : Type}

/-- A lock, a wait or a reading of the clock: the others go on. -/
def yield : Streaming κ φ StreamingAnswer := ask

/-- A call of the SDK outside TX streaming, or of something else that may throw. -/
def sdk (call : LifetimeCall κ) : Streaming κ φ StreamingAnswer := do
  record [.issued call]
  let answer ← ask
  match answer.thrown with
  | some e => do
    record [.returned call (.error e)]
    fail e
  | none => do
    record [.returned call (.ok answer.status)]
    pure answer

/-- A call of the SDK for TX. -/
def sdkTx (call : SdkCall) : Streaming κ φ StreamingAnswer := do
  record [.tx (.issued call)]
  let answer ← ask
  match answer.thrown with
  | some e => do
    record [.tx (.returned call (.error e))]
    fail e
  | none => do
    record [.tx (.returned call (.ok answer.status))]
    pure answer

/-- An allocation, or the creation of a thread. -/
def allocate : Streaming κ φ Unit := do
  let answer ← ask
  match answer.thrown with
  | some e => fail e
  | none => pure ()

/-- One call of the log sink, which takes its time. -/
def logMessage : Streaming κ φ Unit := do
  let _ ← yield
  emit

/-- `reportDiagnostic`. -/
def reportDiagnostic : Streaming κ φ Unit := logMessage.contained

/-- `catch (const std::exception &)`. -/
def catchStd {α : Type} (body : Streaming κ φ α) (handler : Streaming κ φ α) : Streaming κ φ α :=
  body.handle fun e => if e = .foreign then fail e else handler

def updateTx (f : TxDevice → TxDevice) : Streaming κ φ Unit := update (StreamingDevice.withTx f)

def updateSession (f : RxStreamSession Int16 → RxStreamSession Int16) : Streaming κ φ Unit :=
  update (StreamingDevice.withSession f)

def updateOut (f : StreamOutputs φ → StreamOutputs φ) : Streaming κ φ Unit :=
  update (StreamingDevice.withOut f)

/-- A failed call is logged before the streaming error is returned. -/
def refuse : Streaming κ φ ℤ := do
  reportDiagnostic
  pure soapyStreamError

end Streaming

end SoapySidekiq
