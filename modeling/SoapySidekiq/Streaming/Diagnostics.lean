import SoapySidekiq.Streaming.RxCalls

/-! # Log sinks that throw

Nothing that a streaming call, a completion callback or the PPS worker does depends on which of its
messages throw: every message is contained, or is the last statement of something that is. -/
set_option autoImplicit false

namespace SoapySidekiq
open Procedure

namespace Streaming
variable {κ φ : Type}

/-! ## Statements -/

theorem effects_logMessage : BlindEffects (logMessage : Streaming κ φ Unit) :=
  effects_bind blind_ask fun _ => effects_emit

theorem blind_reportDiagnostic : Blind (reportDiagnostic : Streaming κ φ Unit) :=
  blind_contained effects_logMessage

theorem blind_updateTx (f : TxDevice → TxDevice) : Blind (updateTx f : Streaming κ φ Unit) :=
  blind_update _

theorem blind_updateSession (f : RxStreamSession Int16 → RxStreamSession Int16) :
    Blind (updateSession f : Streaming κ φ Unit) :=
  blind_update _

theorem blind_updateOut (f : StreamOutputs φ → StreamOutputs φ) :
    Blind (updateOut f : Streaming κ φ Unit) :=
  blind_update _

theorem blind_yield : Blind (yield : Streaming κ φ StreamingAnswer) :=
  blind_ask

theorem blind_sdk (call : LifetimeCall κ) : Blind (sdk call : Streaming κ φ StreamingAnswer) := by
  refine blind_bind (blind_record _) fun _ => blind_bind blind_ask fun answer => ?_
  cases answer.thrown with
  | none => exact blind_bind (blind_record _) fun _ => blind_pure _
  | some e => exact blind_bind (blind_record _) fun _ => blind_fail e

theorem blind_sdkTx (call : SdkCall) : Blind (sdkTx call : Streaming κ φ StreamingAnswer) := by
  refine blind_bind (blind_record _) fun _ => blind_bind blind_ask fun answer => ?_
  cases answer.thrown with
  | none => exact blind_bind (blind_record _) fun _ => blind_pure _
  | some e => exact blind_bind (blind_record _) fun _ => blind_fail e

theorem blind_allocate : Blind (allocate : Streaming κ φ Unit) := by
  refine blind_bind blind_ask fun answer => ?_
  cases answer.thrown with
  | none => exact blind_pure _
  | some e => exact blind_fail e

theorem blind_catchStd {α : Type} {body handler : Streaming κ φ α} (hbody : Blind body)
    (hhandler : Blind handler) : Blind (catchStd body handler) :=
  blind_handle hbody fun e => blind_ite (blind_fail e) hhandler

theorem blind_scopeExit {body : Streaming κ φ (Option ℤ)} {cleanup : Streaming κ φ Unit}
    (hbody : Blind body) (hcleanup : Blind cleanup) : Blind (scopeExit body cleanup) := by
  refine blind_bind (blind_guarded hbody hcleanup) fun result => ?_
  cases result with
  | none => exact blind_pure _
  | some status => exact blind_bind hcleanup fun _ => blind_pure _

/-- A message, and then a fixed result. -/
theorem blind_reported {α : Type} (a : α) :
    Blind (do reportDiagnostic; pure a : Streaming κ φ α) :=
  blind_bind blind_reportDiagnostic fun _ => blind_pure a

/-! ## Completions and the PPS worker -/

/-- The messages of `completeTx` come last. -/
theorem effects_completeTx (context : TxSendContext) :
    BlindEffects (completeTx context : Streaming κ φ Unit) := by
  refine effects_bind blind_get fun d => ?_
  split
  · exact effects_logMessage
  · split
    · refine effects_bind blind_yield fun _ => effects_bind blind_get fun d => ?_
      refine effects_bind (blind_updateTx _) fun _ => effects_bind (blind_updateTx _) fun _ => ?_
      split
      · exact (blind_pure _).effects
      · exact effects_logMessage
    · exact effects_logMessage

theorem blind_destroyContext (context : TxSendContext) :
    Blind (destroyContext context : Streaming κ φ Unit) :=
  blind_bind blind_get fun _ => blind_bind (blind_updateTx _) fun _ =>
    blind_ite (blind_pure _) (blind_record _)

theorem blind_txCompleteCallback (context : Option TxSendContext) :
    Blind (txCompleteCallback context : Streaming κ φ Unit) := by
  cases context with
  | none => exact blind_contained effects_logMessage
  | some context =>
    exact blind_bind (blind_contained (effects_completeTx context)) fun _ =>
      blind_destroyContext context

theorem blind_txStreamingStart (txHandle : UInt32) :
    Blind (txStreamingStart txHandle : Streaming κ φ Unit) := by
  have hstart : Blind (startOn1pps txHandle : Streaming κ φ ℤ) :=
    blind_handle (blind_bind (blind_sdkTx _) fun _ => blind_pure _) fun _ => blind_pure _
  refine blind_bind hstart fun status => blind_bind blind_yield fun _ => ?_
  refine blind_bind (blind_updateTx _) fun _ => ?_
  exact blind_bind (blind_contained effects_logMessage) fun _ => blind_updateTx _

/-! ## writeStream -/

theorem blind_reserve (currBlock : ℕ) : Blind (reserve currBlock : Streaming κ φ (Except ℤ UInt64)) :=
  blind_bind blind_yield fun _ => blind_bind blind_get fun _ =>
    blind_ite (blind_pure _) <| blind_ite (blind_pure _) <|
      blind_bind (blind_updateTx _) fun _ => blind_pure _

theorem blind_releaseSlot (index : ℕ) : Blind (releaseSlot index : Streaming κ φ Unit) :=
  blind_bind blind_yield fun _ => blind_updateTx _

theorem blind_transmitBlock (writer : ℕ) (r : WriteRequest) (txHandle : UInt32) (index inbuffPtr : ℕ) :
    Blind (transmitBlock writer r txHandle index inbuffPtr : Streaming κ φ ℤ) := by
  refine blind_bind blind_allocate fun _ => blind_bind (blind_updateTx _) fun _ => ?_
  exact blind_bind blind_get fun _ => blind_bind (blind_sdkTx _) fun _ => blind_pure _

theorem blind_submitBlock (writer : ℕ) (r : WriteRequest) (txHandle : UInt32) (inbuffPtr : ℕ) :
    Blind (submitBlock writer r txHandle inbuffPtr : Streaming κ φ ℤ) := by
  refine blind_bind blind_get fun d => ?_
  refine blind_bind (blind_guarded (blind_transmitBlock _ _ _ _ _) (blind_releaseSlot _)) fun status => ?_
  exact blind_ite (blind_pure _) (blind_bind (blind_releaseSlot _) fun _ => blind_pure _)

/-- The reservation is gone before the message about a failed submission. -/
theorem blind_trySubmit (writer : ℕ) (r : WriteRequest) (txHandle : UInt32) (currBlock inbuffPtr : ℕ) :
    Blind (trySubmit writer r txHandle currBlock inbuffPtr : Streaming κ φ (Except ℤ ℤ)) := by
  refine blind_catchStd (blind_bind (blind_submitBlock _ _ _ _) fun _ => blind_pure _) ?_
  exact blind_bind blind_reportDiagnostic fun _ => blind_bind blind_get fun _ => blind_pure _

theorem blind_awaitCompletion (currBlock : ℕ) (observed : UInt64) :
    Blind (awaitCompletion currBlock observed : Streaming κ φ PacketResult) :=
  blind_bind blind_yield fun _ => blind_bind blind_get fun _ =>
    blind_ite (blind_pure _) <| blind_ite (blind_pure _) (blind_pure _)

theorem blind_afterSubmit (currBlock : ℕ) (observed : UInt64) (status : ℤ) :
    Blind (afterSubmit currBlock observed status : Streaming κ φ PacketResult) :=
  blind_bind blind_get fun _ =>
    blind_ite (blind_awaitCompletion currBlock observed) <| blind_ite (blind_reported _) <|
      blind_bind (blind_updateTx _) fun _ => blind_pure _

theorem blind_sendPacket (writer : ℕ) (r : WriteRequest) (txHandle : UInt32)
    (currBlock inbuffPtr : ℕ) :
    Blind (sendPacket writer r txHandle currBlock inbuffPtr : Streaming κ φ PacketResult) := by
  refine blind_bind (blind_reserve currBlock) fun reserved => ?_
  cases reserved with
  | error status => exact blind_pure _
  | ok observed =>
    refine blind_bind (blind_trySubmit writer r txHandle currBlock inbuffPtr) fun submitted => ?_
    cases submitted with
    | error status => exact blind_pure _
    | ok status => exact blind_afterSubmit currBlock observed status

theorem blind_writeLoop (writer : ℕ) (r : WriteRequest) (txHandle : UInt32)
    (fuel currBlock inbuffPtr : ℕ) :
    Blind (writeLoop writer r txHandle fuel currBlock inbuffPtr : Streaming κ φ (Option ℤ)) := by
  induction fuel generalizing currBlock inbuffPtr with
  | zero => exact blind_pure _
  | succ fuel ih =>
    refine blind_bind blind_get fun d => blind_ite ?_ (blind_pure _)
    refine blind_bind (blind_sendPacket writer r txHandle currBlock inbuffPtr) fun result => ?_
    cases result with
    | ended status => exact blind_pure _
    | again => exact ih currBlock inbuffPtr
    | sent => exact ih (currBlock + 1) _

theorem blind_passGate : Blind (passGate : Streaming κ φ (Option ℤ)) := by
  refine blind_bind blind_get fun d => blind_ite ?_ (blind_pure _)
  refine blind_bind blind_reportDiagnostic fun _ => blind_bind blind_yield fun _ => ?_
  refine blind_bind blind_get fun d => blind_ite (blind_pure _) (blind_ite (blind_pure _) ?_)
  exact blind_bind (blind_updateTx _) fun _ => blind_pure _

theorem blind_writeAdmitted (writer : ℕ) (r : WriteRequest) (txHandle : UInt32) (fuel : ℕ) :
    Blind (writeAdmitted writer r txHandle fuel : Streaming κ φ (Option ℤ)) := by
  refine blind_bind blind_get fun d => ?_
  split
  · exact blind_pure _
  · refine blind_bind blind_yield fun _ => blind_bind blind_passGate fun gate => ?_
    cases gate with
    | none => exact blind_writeLoop writer r txHandle fuel 0 0
    | some status => exact blind_pure _

theorem blind_writeStream (writer : ℕ) (r : WriteRequest) (fuel : ℕ) :
    Blind (writeStream writer r fuel : Streaming κ φ (Option ℤ)) := by
  refine blind_bind blind_get fun d => ?_
  split
  · exact blind_pure _
  · exact blind_pure _
  · refine blind_ite (blind_pure _) (blind_ite (blind_pure _) ?_)
    refine blind_bind blind_yield fun _ => blind_bind blind_get fun d => blind_ite (blind_pure _) ?_
    refine blind_bind (blind_updateTx _) fun _ => blind_scopeExit (blind_writeAdmitted _ _ _ _) ?_
    exact blind_bind blind_yield fun _ => blind_updateTx _

/-! ## readStreamStatus -/

theorem blind_pollStatus (txHandle : UInt32) :
    Blind (pollStatus txHandle : Streaming κ φ (Option ℤ)) := by
  refine blind_bind blind_yield fun _ => blind_bind blind_get fun d => ?_
  refine blind_ite (blind_pure _) (blind_ite (blind_pure _) (blind_ite (blind_pure _) ?_))
  refine blind_bind (blind_sdkTx _) fun answer => blind_ite (blind_reported _) ?_
  refine blind_bind blind_get fun d => blind_bind (blind_updateTx _) fun _ => ?_
  exact blind_ite (blind_bind (blind_updateOut _) fun _ => blind_pure _) (blind_pure _)

theorem blind_statusLoop (txHandle : UInt32) (fuel : ℕ) :
    Blind (statusLoop txHandle fuel : Streaming κ φ (Option ℤ)) := by
  induction fuel with
  | zero => exact blind_pure _
  | succ fuel ih =>
    refine blind_bind blind_yield fun locked => blind_ite (blind_pure _) ?_
    refine blind_bind (blind_pollStatus txHandle) fun polled => ?_
    cases polled with
    | some status => exact blind_pure _
    | none =>
      refine blind_bind blind_yield fun now => blind_ite (blind_pure _) ?_
      exact blind_bind blind_yield fun _ => blind_bind blind_get fun _ => blind_ite (blind_pure _) ih

theorem blind_readStreamStatus (r : StatusRequest) (fuel : ℕ) :
    Blind (readStreamStatus r fuel : Streaming κ φ (Option ℤ)) := by
  refine blind_bind blind_get fun d => ?_
  split
  · exact blind_pure _
  · exact blind_pure _
  · refine blind_bind (blind_updateOut _) fun _ => blind_ite (blind_pure _) ?_
    refine blind_bind blind_yield fun _ => blind_bind blind_get fun d => blind_ite (blind_pure _) ?_
    refine blind_bind (blind_updateTx _) fun _ => blind_scopeExit (blind_statusLoop _ _) ?_
    exact blind_bind blind_yield fun _ => blind_updateTx _

/-! ## Activation -/

theorem blind_configureTx (calls : List SdkCall) : Blind (configureTx calls : Streaming κ φ Bool) := by
  induction calls with
  | nil => exact blind_pure _
  | cons call rest ih =>
    refine blind_bind (blind_sdkTx call) fun answer => blind_ite (blind_reported _) ?_
    exact blind_ite (blind_bind blind_reportDiagnostic fun _ => ih) ih

theorem blind_createPpsWorker (txHandle : UInt32) :
    Blind (createPpsWorker txHandle : Streaming κ φ Bool) := by
  refine blind_bind blind_yield fun _ => blind_bind (blind_updateTx _) fun _ => ?_
  refine blind_bind blind_allocate fun _ => blind_bind (blind_updateTx _) fun _ => ?_
  exact blind_bind (blind_updateTx _) fun _ => blind_pure _

theorem blind_startImmediately (txHandle : UInt32) :
    Blind (startImmediately txHandle : Streaming κ φ Bool) := by
  refine blind_bind (blind_sdkTx _) fun answer => blind_ite (blind_reported _) ?_
  refine blind_bind (blind_updateTx _) fun _ => blind_bind blind_yield fun _ => ?_
  exact blind_bind (blind_updateTx _) fun _ => blind_reported _

theorem blind_startTx (txHandle : UInt32) (onPps : Bool) :
    Blind (startTx txHandle onPps : Streaming κ φ ℤ) := by
  have hstart : Blind (startHardware txHandle onPps : Streaming κ φ Bool) :=
    blind_ite (blind_createPpsWorker _) (blind_startImmediately _)
  refine blind_bind (blind_updateTx _) fun _ => blind_bind hstart fun started => ?_
  refine blind_ite (blind_bind (blind_updateTx _) fun _ => ?_) (blind_pure _)
  exact blind_bind blind_yield fun _ => blind_bind (blind_updateTx _) fun _ => blind_pure _

theorem blind_activateTx (txHandle flags : UInt32) :
    Blind (activateTx txHandle flags : Streaming κ φ ℤ) := by
  refine blind_bind blind_get fun d => blind_ite (blind_pure _) ?_
  exact blind_bind (blind_configureTx _) fun _ => blind_ite (blind_startTx _ _) (blind_pure _)

theorem blind_captureTiming (rxHandle : UInt32) (onPps : Bool) :
    Blind (captureTiming rxHandle onPps : Streaming κ φ RxSessionConfiguration) := by
  have hfrequency : Blind (systemFrequency : Streaming κ φ UInt64) :=
    blind_bind blind_get fun _ => blind_ite (blind_pure _) <|
      blind_bind (blind_sdk _) fun _ => blind_ite (blind_fail _) (blind_pure _)
  refine blind_bind (blind_sdk _) fun rate => blind_bind blind_get fun d => ?_
  refine blind_ite (blind_fail _) (blind_bind (blind_lift _) fun _ => ?_)
  exact blind_bind hfrequency fun _ => blind_bind blind_get fun _ => blind_pure _

theorem blind_stopBackend (handle : UInt32) (onPps : Bool) :
    Blind (stopBackend handle onPps : Streaming κ φ ℤ) :=
  blind_bind (blind_sdk _) fun _ =>
    blind_ite (blind_bind (blind_updateSession _) fun _ => blind_pure _) (blind_pure _)

theorem blind_rollBack (c : RxSessionConfiguration) : Blind (rollBack c : Streaming κ φ Unit) := by
  refine blind_bind (blind_updateSession _) fun _ => blind_bind blind_yield fun _ => ?_
  refine blind_bind (blind_updateSession _) fun _ => blind_contained (Blind.effects ?_)
  exact blind_discard (blind_stopBackend _ _)

theorem blind_startWorker (c : RxSessionConfiguration) : Blind (startWorker c : Streaming κ φ Unit) := by
  refine blind_bind blind_yield fun _ => blind_bind (blind_updateSession _) fun _ => ?_
  refine blind_bind (blind_updateSession _) fun _ => ?_
  exact blind_bind blind_allocate fun _ => blind_updateSession _

theorem blind_activateLocked (c : RxSessionConfiguration) :
    Blind (activateLocked c : Streaming κ φ ℤ) := by
  refine blind_bind blind_get fun d => ?_
  split
  · exact blind_fail _
  · refine blind_ite (blind_fail _) (blind_bind (blind_sdk _) fun start => blind_ite (blind_pure _) ?_)
    refine blind_bind (blind_updateSession _) fun _ => ?_
    exact blind_bind (blind_guarded (blind_startWorker c) (blind_rollBack c)) fun _ => blind_pure _

theorem blind_activateRx (rxHandle : UInt32) (onPps : Bool) :
    Blind (activateRx rxHandle onPps : Streaming κ φ ℤ) := by
  have hwarn : Blind (warnPendingStart onPps : Streaming κ φ Unit) :=
    blind_ite (blind_bind blind_yield fun _ => blind_bind blind_get fun _ =>
      blind_ite blind_reportDiagnostic (blind_pure _)) (blind_pure _)
  have hactivate : Blind (activateConfigured (captureTiming rxHandle onPps) : Streaming κ φ ℤ) :=
    blind_bind blind_yield fun _ => blind_bind blind_get fun _ => blind_ite (blind_fail _) <|
      blind_bind (blind_captureTiming rxHandle onPps) fun c => blind_activateLocked c
  refine blind_bind hwarn fun _ => blind_bind hactivate fun status => ?_
  exact blind_ite (blind_bind blind_reportDiagnostic fun _ => blind_fail _) (blind_reported _)

theorem blind_activateStream (stream : StreamToken) (flags : UInt32) (timeNs : ℤ) (numElems : ℕ) :
    Blind (activateStream stream flags timeNs numElems : Streaming κ φ ℤ) := by
  refine blind_catchStd (blind_bind blind_get fun d => ?_) (blind_reported _)
  split
  · exact blind_pure _
  · next handle hfind =>
    refine blind_ite (blind_pure _) (blind_bind blind_reportDiagnostic fun _ => ?_)
    cases handle with
    | rx handle => exact blind_activateRx _ _
    | tx handle => exact blind_activateTx _ _

/-! ## Deactivation -/

theorem blind_deactivateTx (onPps : Bool) : Blind (deactivateTx onPps : Streaming κ φ (Option ℤ)) := by
  have hwrites : Blind (stopTxWrites : Streaming κ φ Bool) :=
    blind_bind blind_yield fun _ => blind_bind (blind_updateTx _) fun _ =>
      blind_bind blind_yield fun _ => blind_bind blind_get fun _ => blind_pure _
  have hjoin : Blind (joinPpsWorker : Streaming κ φ Bool) := by
    refine blind_bind blind_yield fun _ => blind_bind blind_get fun d => ?_
    split
    · exact blind_pure _
    · exact blind_bind (blind_updateTx _) fun _ => blind_pure _
    · exact blind_pure _
  have hhardware : Blind (stopTxHardware onPps : Streaming κ φ ℤ) := by
    refine blind_bind blind_get fun d => ?_
    split
    · exact blind_pure _
    · refine blind_ite (blind_bind (blind_sdkTx _) fun answer => ?_) (blind_pure _)
      exact blind_ite (blind_pure _) (blind_bind (blind_updateTx _) fun _ => blind_pure _)
  have hstop : Blind (stopTxStream onPps : Streaming κ φ (Option ℤ)) := by
    refine blind_bind hwrites fun drained => blind_ite (blind_bind hjoin fun joined => ?_) (blind_pure _)
    exact blind_ite (blind_bind hhardware fun _ => blind_pure _) (blind_pure _)
  refine blind_bind hstop fun stopped => ?_
  cases stopped with
  | none => exact blind_pure _
  | some status => exact blind_ite (blind_reported _) (blind_pure _)

theorem blind_deactivateSession (onPps : Bool) :
    Blind (deactivateSession onPps : Streaming κ φ (Option ℤ)) := by
  have hstop : Blind (stopActive onPps : Streaming κ φ (Except Exception ℤ)) :=
    blind_bind blind_get fun _ => blind_ite
      (blind_handle (blind_bind (blind_stopBackend _ _) fun _ => blind_pure _) fun _ => blind_pure _)
      (blind_pure _)
  have hjoin (result : Except Exception ℤ) : Blind (joinWorker result : Streaming κ φ (Option ℤ)) := by
    refine blind_bind blind_yield fun _ => blind_bind blind_get fun d => ?_
    split
    · exact blind_pure _
    · exact blind_bind (blind_updateSession _) fun _ => blind_lift _
  refine blind_bind blind_yield fun _ => blind_bind blind_get fun d => blind_ite ?_ (blind_pure _)
  refine blind_bind (blind_updateSession _) fun _ => blind_bind blind_yield fun _ => ?_
  exact blind_bind (blind_updateSession _) fun _ => blind_bind hstop hjoin

theorem blind_deactivateRx (onPps : Bool) : Blind (deactivateRx onPps : Streaming κ φ (Option ℤ)) := by
  refine blind_bind (blind_deactivateSession onPps) fun stopped => ?_
  cases stopped with
  | none => exact blind_pure _
  | some status => exact blind_ite (blind_reported _) (blind_ite (blind_reported _) (blind_pure _))

theorem blind_deactivateStream (stream : StreamToken) (flags : UInt32) (timeNs : ℤ) :
    Blind (deactivateStream stream flags timeNs : Streaming κ φ (Option ℤ)) := by
  refine blind_bind blind_get fun d => ?_
  split
  · exact blind_pure _
  · next handle hfind =>
    refine blind_ite (blind_pure _) (blind_bind blind_reportDiagnostic fun _ => ?_)
    cases handle with
    | rx handle => exact blind_deactivateRx _
    | tx handle => exact blind_deactivateTx _

/-! ## readStream -/

theorem blind_readSession (arith : Arithmetic) (toFloat : Int16 → φ) (r : ReadArguments) :
    Blind (readSession arith toFloat r : Streaming κ φ ℤ) := by
  refine blind_bind blind_yield fun _ => blind_bind blind_get fun d => ?_
  refine blind_bind (blind_updateSession _) fun _ => blind_bind (blind_lift _) fun result => ?_
  cases result.status with
  | timeout => exact blind_pure _
  | stopped => exact blind_pure _
  | error => exact blind_pure _
  | samples => exact blind_bind (blind_updateOut _) fun _ => blind_pure _

theorem blind_readStream (arith : Arithmetic) (toFloat : Int16 → φ) (r : ReadArguments) :
    Blind (readStream arith toFloat r : Streaming κ φ ℤ) := by
  refine blind_catchStd (blind_bind blind_get fun d => ?_)
    (blind_bind (blind_updateOut _) fun _ => blind_reported _)
  split
  · exact blind_pure _
  · exact blind_pure _
  · refine blind_bind (blind_updateOut _) fun _ => ?_
    refine blind_ite (blind_pure _) (blind_ite (blind_pure _) (blind_ite ?_ ?_))
    · exact blind_bind blind_allocate fun _ => blind_readSession arith toFloat r
    · exact blind_readSession arith toFloat r

end Streaming

/-! ## Every entry point -/

theorem StreamingCall.blind {κ φ : Type} (arith : Arithmetic) (toFloat : Int16 → φ)
    (call : StreamingCall) : Blind (call.run arith toFloat : Streaming κ φ (Option ℤ)) := by
  cases call with
  | activateStream stream flags timeNs numElems =>
    exact blind_bind (Streaming.blind_activateStream stream flags timeNs numElems) fun _ => blind_pure _
  | deactivateStream stream flags timeNs => exact Streaming.blind_deactivateStream stream flags timeNs
  | readStream arguments =>
    exact blind_bind (Streaming.blind_readStream arith toFloat arguments) fun _ => blind_pure _
  | writeStream writer request fuel => exact Streaming.blind_writeStream writer request fuel
  | readStreamStatus request fuel => exact Streaming.blind_readStreamStatus request fuel
  | txCompleteCallback context =>
    exact blind_bind (Streaming.blind_txCompleteCallback context) fun _ => blind_pure _
  | txStreamingStart txHandle =>
    exact blind_bind (Streaming.blind_txStreamingStart txHandle) fun _ => blind_pure _

/-- Two runs of an entry point against the same answers of the SDK and of the other threads, with two
log sinks that throw at whatever messages they want, make the same calls, return or throw the same,
write the same outputs and leave the same device. -/
theorem StreamingCall.sink_throws_unseen {κ φ : Type} (arith : Arithmetic) (toFloat : Int16 → φ)
    (call : StreamingCall)
    (answer : ℕ → StreamingDevice φ → StreamingAnswer × StreamingDevice φ)
    (sink sink' : ℕ → Option Exception) (d : StreamingDevice φ) :
    let first := (call.run arith toFloat : Streaming κ φ (Option ℤ)) ⟨answer, sink⟩ ⟨d, [], 0, 0⟩
    let second := (call.run arith toFloat : Streaming κ φ (Option ℤ)) ⟨answer, sink'⟩ ⟨d, [], 0, 0⟩
    first.1 = second.1 ∧ first.2.trace = second.2.trace ∧ first.2.state = second.2.state ∧
      first.2.asked = second.2.asked := by
  intro first second
  obtain ⟨hresult, hagree⟩ := StreamingCall.blind (κ := κ) arith toFloat call answer sink sink'
    ⟨d, [], 0, 0⟩ ⟨d, [], 0, 0⟩ ⟨rfl, rfl, rfl⟩
  exact ⟨hresult, hagree.trace, hagree.state, hagree.asked⟩

end SoapySidekiq
